import Conformance.Json.Basic
import Conformance.Binary64.Decimal

/-!
# Writing JSON text

Two layouts: `compact` has no blanks at all, `pretty` puts every item of a non-empty array or object on a
line of its own, indented by two blanks for each level.
-/

set_option autoImplicit false

namespace Conformance.Json

/-- The written form of one character of a string: quotes, backslashes and controls are escaped. -/
def writtenChar (c : Char) : List Char :=
  if c = '"' then ['\\', '"']
  else if c = '\\' then ['\\', '\\']
  else if c = '\x08' then ['\\', 'b']
  else if c = '\x0c' then ['\\', 'f']
  else if c = '\n' then ['\\', 'n']
  else if c = '\r' then ['\\', 'r']
  else if c = '\t' then ['\\', 't']
  else if c < ' ' then
    ['\\', 'u', '0', '0', Nat.digitChar (c.toNat / 16), Nat.digitChar (c.toNat % 16)]
  else [c]

def writtenString (s : String) : String :=
  String.ofList ('"' :: s.toList.flatMap writtenChar ++ ['"'])

/-- The text of a value that holds no other values. What is not a finite number has no text and is
written as `null`. -/
def writtenScalar : Json → String
  | .bool value => if value then "true" else "false"
  | .integer value => toString value
  | .float value => if value.isFinite then value.write .json else "null"
  | .string value => writtenString value
  | _ => "null"

/-! ## Compact layout -/

mutual

/-- The text of a value without blanks. -/
def compact : Json → String
  | .array items => "[" ++ compactItems items ++ "]"
  | .object members => "\x7b" ++ compactMembers members ++ "\x7d"
  | other => writtenScalar other

def compactItems : List Json → String
  | [] => ""
  | [x] => compact x
  | x :: rest => compact x ++ "," ++ compactItems rest

def compactMembers : List (String × Json) → String
  | [] => ""
  | [(key, x)] => writtenString key ++ ":" ++ compact x
  | (key, x) :: rest => writtenString key ++ ":" ++ compact x ++ "," ++ compactMembers rest

end

/-! ## Pretty layout -/

def newLine (level : Nat) : String := String.ofList ('\n' :: List.replicate (2 * level) ' ')

mutual

/-- The text of a value at a level, spread over lines. -/
def prettyAt (level : Nat) : Json → String
  | .array [] => "[]"
  | .array items => "[" ++ prettyItems (level + 1) items ++ newLine level ++ "]"
  | .object [] => "\x7b\x7d"
  | .object members => "\x7b" ++ prettyMembers (level + 1) members ++ newLine level ++ "\x7d"
  | other => writtenScalar other

def prettyItems (level : Nat) : List Json → String
  | [] => ""
  | [x] => newLine level ++ prettyAt level x
  | x :: rest => newLine level ++ prettyAt level x ++ "," ++ prettyItems level rest

def prettyMembers (level : Nat) : List (String × Json) → String
  | [] => ""
  | [(key, x)] => newLine level ++ writtenString key ++ ": " ++ prettyAt level x
  | (key, x) :: rest =>
    newLine level ++ writtenString key ++ ": " ++ prettyAt level x ++ "," ++ prettyMembers level rest

end

def pretty (json : Json) : String := prettyAt 0 json

end Conformance.Json
