import Conformance.Json.Number
import Conformance.Json.Text

/-!
# Reading a JSON text

`Json.read` reads one value that takes up the whole text. Arrays and objects may be nested up to
`greatestDepth`; the reader descends with that depth, and runs along the items of an array or object with
the length of the text that remains.
-/

set_option autoImplicit false

namespace Conformance.Json

def greatestDepth : Nat := 127

/-- Read the rest of a fixed word, letter by letter. -/
def readLetters : List Char → Cursor → Except ReadError Cursor
  | [], c => .ok c
  | letter :: letters, c =>
    match c.rest with
    | [] => c.fail .endOfValue
    | x :: _ => if x = letter then readLetters letters c.next else c.failNext .identExpected

/-- Read a fixed word that stands for a value, the cursor being at its first letter. -/
def readWord (word : String) (value : Json) : Scan Json := fun c => do
  return (value, ← readLetters (word.toList.drop 1) c.next)

/-- Find the next item of an array, the cursor being behind the opening bracket or behind an item: the
cursor at the item, or `none` with the cursor at the closing bracket. -/
def nextItem (first : Bool) (c : Cursor) : Except ReadError (Bool × Cursor) :=
  let c := c.skipBlanks
  match c.rest with
  | [] => c.fail .endOfList
  | ']' :: _ => .ok (false, c)
  | x :: _ =>
    if first then .ok (true, c)
    else if x = ',' then
      let c := c.next.skipBlanks
      match c.rest with
      | [] => c.fail .endOfValue
      | ']' :: _ => c.failNext .trailingComma
      | _ => .ok (true, c)
    else c.failNext .listEndExpected

/-- Find the next member of an object in the same way. -/
def nextMember (first : Bool) (c : Cursor) : Except ReadError (Bool × Cursor) :=
  let c := c.skipBlanks
  match c.rest with
  | [] => c.fail .endOfObject
  | '\x7d' :: _ => .ok (false, c)
  | x :: _ =>
    if first then if x = '"' then .ok (true, c) else c.failNext .keyNotString
    else if x = ',' then
      let c := c.next.skipBlanks
      match c.rest with
      | [] => c.fail .endOfValue
      | '"' :: _ => .ok (true, c)
      | '\x7d' :: _ => c.failNext .trailingComma
      | _ => c.failNext .keyNotString
    else c.failNext .objectEndExpected

def readColon (c : Cursor) : Except ReadError Cursor :=
  let c := c.skipBlanks
  match c.rest with
  | [] => c.fail .endOfObject
  | ':' :: _ => .ok c.next
  | _ => c.failNext .colonExpected

/-- Read the items of an array up to and including its closing bracket. Every item takes up a character,
so that the length of the remaining text is room enough. -/
def readItems (item : Scan Json) : (room : Nat) → (first : Bool) → Scan (List Json)
  | 0, _, c => c.fail .endOfList
  | room + 1, first, c => do
    let (more, c) ← nextItem first c
    if more then
      let (x, c) ← item c
      let (xs, c) ← readItems item room false c
      return (x :: xs, c)
    else return ([], c.next)

/-- Read the members of an object up to and including its closing bracket, adding them to those that are
there. -/
def readMembers (item : Scan Json) :
    (room : Nat) → (first : Bool) → List (String × Json) → Scan (List (String × Json))
  | 0, _, _, c => c.fail .endOfObject
  | room + 1, first, members, c => do
    let (more, c) ← nextMember first c
    if more then
      let (key, c) ← readString c
      let c ← readColon c
      let (x, c) ← item c
      readMembers item room false (putMember key x members) c
    else return (members, c.next)

/-- Read a value whose items, if it is an array or an object, are read by `item`; without it neither may
start here. -/
def readShallow (item : Option (Scan Json)) : Scan Json := fun c => do
  let c := c.skipBlanks
  match c.rest with
  | [] => c.fail .endOfValue
  | 'n' :: _ => readWord "null" .null c
  | 't' :: _ => readWord "true" (.bool true) c
  | 'f' :: _ => readWord "false" (.bool false) c
  | '"' :: _ =>
    let (s, c) ← readString c
    return (.string s, c)
  | '[' :: rest =>
    match item with
    | none => c.failNext .tooDeep
    | some item =>
      let (items, c) ← readItems item (rest.length + 1) true c.next
      return (.array items, c)
  | '\x7b' :: rest =>
    match item with
    | none => c.failNext .tooDeep
    | some item =>
      let (members, c) ← readMembers item (rest.length + 1) true [] c.next
      return (.object members, c)
  | x :: _ => if x = '-' || x.isDigit then readNumber c else c.failNext .valueExpected

/-- Read a value in which arrays and objects are nested at most `depth` deep. -/
def readNested : (depth : Nat) → Scan Json
  | 0 => readShallow none
  | depth + 1 => readShallow (some (readNested depth))

/-- Read a value, the cursor being anywhere before it. -/
def readValue : Scan Json := readNested greatestDepth

def expectEnd (c : Cursor) : Except ReadError Unit :=
  let c := c.skipBlanks
  if c.rest.isEmpty then .ok () else c.failNext .trailingCharacters

def read (text : String) : Except ReadError Json := do
  let (value, c) ← readValue (.ofText text)
  expectEnd c
  return value

end Conformance.Json
