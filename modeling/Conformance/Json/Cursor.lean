/-!
# Places in a JSON text

A cursor is what remains of a text, together with the place reached so far: the number of the line, and
the number of bytes consumed of it. An error is reported either at the place of the cursor or, when the
next byte is to blame, at the place behind that byte.
-/

set_option autoImplicit false

namespace Conformance.Json

/-- A place in a text: the line, counted from one, and the bytes consumed of that line. -/
structure Position where
  line : Nat
  column : Nat
  deriving DecidableEq, Inhabited

/-- The place behind a character. -/
def Position.after (p : Position) (c : Char) : Position :=
  if c = '\n' then ⟨p.line + 1, 0⟩ else ⟨p.line, p.column + c.utf8Size⟩

/-- The place behind the first byte of a character. -/
def Position.afterByte (p : Position) (c : Char) : Position :=
  if c = '\n' then ⟨p.line + 1, 0⟩ else ⟨p.line, p.column + 1⟩

/-- The place behind the first `bytes` bytes of a text, which may end inside a character. -/
def Position.afterBytes (p : Position) : (bytes : Nat) → List Char → Position
  | _, [] => p
  | bytes, c :: rest =>
    if bytes = 0 then p
    else if bytes < c.utf8Size then ⟨p.line, p.column + bytes⟩
    else (p.after c).afterBytes (bytes - c.utf8Size) rest

inductive Problem where
  | endOfValue
  | endOfList
  | endOfObject
  | endOfString
  | valueExpected
  | identExpected
  | listEndExpected
  | objectEndExpected
  | colonExpected
  | keyNotString
  | trailingComma
  | trailingCharacters
  | invalidNumber
  | numberOutOfRange
  | invalidEscape
  | hexEscapeCut
  | loneSurrogate
  | controlCharacter
  | tooDeep
  deriving DecidableEq, Inhabited

def Problem.message : Problem → String
  | .endOfValue => "EOF while parsing a value"
  | .endOfList => "EOF while parsing a list"
  | .endOfObject => "EOF while parsing an object"
  | .endOfString => "EOF while parsing a string"
  | .valueExpected => "expected value"
  | .identExpected => "expected ident"
  | .listEndExpected => "expected `,` or `]`"
  | .objectEndExpected => "expected `,` or `\x7d`"
  | .colonExpected => "expected `:`"
  | .keyNotString => "key must be a string"
  | .trailingComma => "trailing comma"
  | .trailingCharacters => "trailing characters"
  | .invalidNumber => "invalid number"
  | .numberOutOfRange => "number out of range"
  | .invalidEscape => "invalid escape"
  | .hexEscapeCut => "unexpected end of hex escape"
  | .loneSurrogate => "lone leading surrogate in hex escape"
  | .controlCharacter => "control character (\\u0000-\\u001F) found while parsing a string"
  | .tooDeep => "recursion limit exceeded"

/-- A statement about a text, with the place that it is about: ` at line L column C`. -/
def Position.locate (p : Position) (statement : String) : String :=
  statement ++ " at line " ++ toString p.line ++ " column " ++ toString p.column

structure ReadError where
  problem : Problem
  position : Position
  deriving DecidableEq, Inhabited

def ReadError.message (e : ReadError) : String := e.position.locate e.problem.message

/-- The rest of a text, and the place where it starts. -/
structure Cursor where
  rest : List Char
  position : Position

namespace Cursor

def ofText (text : String) : Cursor := ⟨text.toList, ⟨1, 0⟩⟩

def next (c : Cursor) : Cursor :=
  match c.rest with
  | [] => c
  | x :: rest => ⟨rest, c.position.after x⟩

def spanChars (p : Char → Bool) : List Char → Position → List Char × Cursor
  | [], pos => ([], ⟨[], pos⟩)
  | x :: rest, pos =>
    if p x then
      let (taken, after) := spanChars p rest (pos.after x)
      (x :: taken, after)
    else ([], ⟨x :: rest, pos⟩)

/-- The characters at the cursor for which `p` holds, and the cursor behind them. -/
def span (p : Char → Bool) (c : Cursor) : List Char × Cursor := spanChars p c.rest c.position

/-- The four characters that may stand between the parts of a text. -/
def isBlank (c : Char) : Bool := c = ' ' || c = '\t' || c = '\n' || c = '\r'

def skipBlanks (c : Cursor) : Cursor := (c.span isBlank).2

def fail {α : Type} (problem : Problem) (c : Cursor) : Except ReadError α :=
  .error ⟨problem, c.position⟩

/-- An error that the next byte is to blame for; at the end of the text there is none to consume. -/
def failNext {α : Type} (problem : Problem) (c : Cursor) : Except ReadError α :=
  match c.rest with
  | [] => .error ⟨problem, c.position⟩
  | x :: _ => .error ⟨problem, c.position.afterByte x⟩

end Cursor

/-- A reader of a part of a text: the part's meaning and the cursor behind it, or an error. -/
abbrev Scan (α : Type) := Cursor → Except ReadError (α × Cursor)

end Conformance.Json
