import Conformance.Json.Cursor

/-!
# Strings in a JSON text

Escapes of four hexadecimal digits name units of sixteen bits. A leading surrogate has to be followed by
the escape of a trailing one; the two stand for one character.
-/

set_option autoImplicit false

namespace Conformance.Json

def hexDigit? (c : Char) : Option Nat :=
  if '0' ≤ c && c ≤ '9' then some (c.toNat - '0'.toNat)
  else if 'a' ≤ c && c ≤ 'f' then some (c.toNat - 'a'.toNat + 10)
  else if 'A' ≤ c && c ≤ 'F' then some (c.toNat - 'A'.toNat + 10)
  else none

/-- The unit that four hexadecimal digits name. -/
def hexUnit? (a b c d : Char) : Option Nat := do
  let a ← hexDigit? a
  let b ← hexDigit? b
  let c ← hexDigit? c
  let d ← hexDigit? d
  return ((a * 16 + b) * 16 + c) * 16 + d

/-- The error of an escape whose digits start at `chars`: four bytes are looked at before they are judged,
so that a text which ends earlier is cut off rather than wrong. -/
def hexFailure (p : Position) (chars : List Char) : ReadError :=
  if chars.foldr (fun c bytes => c.utf8Size + bytes) 0 < 4 then ⟨.endOfString, p.afterBytes 4 chars⟩
  else ⟨.invalidEscape, p.afterBytes 4 chars⟩

def isLeading (n : Nat) : Bool := 0xD800 ≤ n && n < 0xDC00

def isTrailing (n : Nat) : Bool := 0xDC00 ≤ n && n < 0xE000

def joinSurrogates (leading trailing : Nat) : Char :=
  .ofNat (0x10000 + (leading - 0xD800) * 0x400 + (trailing - 0xDC00))

def shortEscape? (c : Char) : Option Char :=
  if c = '"' || c = '\\' || c = '/' then some c
  else if c = 'b' then some '\x08'
  else if c = 'f' then some '\x0c'
  else if c = 'n' then some '\n'
  else if c = 'r' then some '\r'
  else if c = 't' then some '\t'
  else none

/-- The characters of a string up to its closing quote, and the cursor behind the quote. -/
def readChars : List Char → Position → Except ReadError (List Char × Cursor)
  | [], p => .error ⟨.endOfString, p⟩
  | '"' :: rest, p => .ok ([], ⟨rest, p.after '"'⟩)
  | '\\' :: 'u' :: a :: b :: c :: d :: rest, p =>
    let p := p.afterBytes 2 ['\\', 'u']
    match hexUnit? a b c d with
    | none => .error (hexFailure p (a :: b :: c :: d :: rest))
    | some n =>
      let p := p.afterBytes 4 [a, b, c, d]
      if isTrailing n then .error ⟨.loneSurrogate, p⟩
      else if isLeading n then
        match rest with
        | [] => .error ⟨.endOfString, p⟩
        | '\\' :: 'u' :: e :: f :: g :: h :: rest =>
          let p := p.afterBytes 2 ['\\', 'u']
          match hexUnit? e f g h with
          | none => .error (hexFailure p (e :: f :: g :: h :: rest))
          | some m =>
            let p := p.afterBytes 4 [e, f, g, h]
            if isTrailing m then do
              let (chars, cursor) ← readChars rest p
              return (joinSurrogates n m :: chars, cursor)
            else .error ⟨.loneSurrogate, p⟩
        | '\\' :: 'u' :: short => .error (hexFailure (p.afterBytes 2 ['\\', 'u']) short)
        | ['\\'] => .error ⟨.endOfString, p.after '\\'⟩
        | '\\' :: x :: _ => .error ⟨.hexEscapeCut, (p.after '\\').afterByte x⟩
        | x :: _ => .error ⟨.hexEscapeCut, p.afterByte x⟩
      else do
        let (chars, cursor) ← readChars rest p
        return (Char.ofNat n :: chars, cursor)
  | '\\' :: 'u' :: short, p => .error (hexFailure (p.afterBytes 2 ['\\', 'u']) short)
  | ['\\'], p => .error ⟨.endOfString, p.after '\\'⟩
  | '\\' :: x :: rest, p =>
    match shortEscape? x with
    | none => .error ⟨.invalidEscape, (p.after '\\').afterByte x⟩
    | some c => do
      let (chars, cursor) ← readChars rest ((p.after '\\').after x)
      return (c :: chars, cursor)
  | c :: rest, p =>
    if c < ' ' then .error ⟨.controlCharacter, p.afterByte c⟩
    else do
      let (chars, cursor) ← readChars rest (p.after c)
      return (c :: chars, cursor)

/-- Read a string, the cursor being at its opening quote. -/
def readString : Scan String := fun c => do
  let (chars, cursor) ← readChars c.next.rest c.next.position
  return (String.ofList chars, cursor)

end Conformance.Json
