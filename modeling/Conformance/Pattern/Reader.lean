import Conformance.Pattern.Automaton.Room
import Conformance.Pattern.Class
import Conformance.Unicode.Naming

/-!
# Reading patterns

`Pattern.compile?` turns the text of a pattern into an expression, or refuses it. Look-around and
back-references are no part of the language. A pattern is refused as well if it is nested too deeply or if
its automata do not fit into the room there is.
-/

set_option autoImplicit false

namespace Conformance

namespace Pattern

/-- A part of the sequence being read. A change of flags takes up a place but covers nothing, and cannot be
repeated. -/
inductive Part where
  | flags
  | expression (e : Expression)

/-- A group that has been opened: whether it has a number, the branches and the sequence that stood before
it, and the flags to go back to. -/
structure OpenGroup where
  numbered : Bool
  branches : List Expression
  parts : List Part
  flags : Flags

/-- How far a pattern has been read: the flags in force, the names of groups, the groups that are open,
and of the innermost one the branches and the sequence read so far, in reverse. -/
structure Reading where
  flags : Flags
  names : List String
  groups : List OpenGroup
  branches : List Expression
  parts : List Part

/-- The expression of a sequence given in reverse. -/
def sequenceOf (parts : List Part) : Expression :=
  match parts with
  | [] => .empty
  | [.expression e] => e
  | [.flags] => .empty
  | parts => .sequence (parts.reverse.map fun
      | .flags => .empty
      | .expression e => e)

/-- The expression of the branches of a group, the last of which is the sequence being read. -/
def Reading.body (r : Reading) : Expression :=
  match r.branches with
  | [] => sequenceOf r.parts
  | branches => .choice (branches.reverse ++ [sequenceOf r.parts])

def Reading.add (r : Reading) (e : Expression) : Reading := { r with parts := .expression e :: r.parts }

structure Count where
  least : Nat
  most : Option Nat

/-- The reading with its last expression repeated, and the rest of the characters. There has to be an
expression. A question mark behind the count swaps the preference for many turns or few. -/
def Reading.repeatLast? (r : Reading) (count : Count) (cs : List Char) : Option (Reading × List Char) :=
  let swapped := cs.head? = some '?'
  match r.parts with
  | .expression e :: rest =>
    let repeated := .repetition count.least count.most (swapped != r.flags.swapGreed) e
    some ({ r with parts := .expression repeated :: rest }, if swapped then cs.drop 1 else cs)
  | _ => none

def greatestNumber : Nat := 0xFFFFFFFF

/-- A decimal number with white space around it. -/
def readNumber (flags : Flags) (cs : List Char) : Option (Nat × List Char) :=
  let cs := cs.dropWhile isWhite
  let (digits, after) := takeRun flags Char.isDigit cs.length cs
  let n := digits.foldl (fun n d => n * 10 + (d.toNat - '0'.toNat)) 0
  if digits.isEmpty || greatestNumber < n then none
  else some (n, skipIgnored flags (after.dropWhile isWhite))

/-- The count of a repetition, the characters being those from the opening brace on. -/
def readCounts (flags : Flags) (cs : List Char) : Option (Count × List Char) := do
  let (least, cs) ← readNumber flags (advance flags cs)
  match cs with
  | '\x7d' :: rest => return (⟨least, some least⟩, skipIgnored flags rest)
  | ',' :: _ =>
    match advance flags cs with
    | '\x7d' :: rest => return (⟨least, none⟩, skipIgnored flags rest)
    | cs =>
      let (most, cs) ← readNumber flags cs
      match cs with
      | '\x7d' :: rest =>
        if least ≤ most then return (⟨least, some most⟩, skipIgnored flags rest) else none
      | _ => none
  | _ => none

def setFlag? (flags : Flags) (letter : Char) (value : Bool) : Option Flags :=
  match letter with
  | 'i' => some { flags with ignoreCase := value }
  | 'm' => some { flags with multiLine := value }
  | 's' => some { flags with dotAll := value }
  | 'U' => some { flags with swapGreed := value }
  | 'u' => some { flags with unicode := value }
  | 'R' => some { flags with returnLines := value }
  | 'x' => some { flags with verbose := value }
  | _ => none

/-- Read flags up to a colon or a closing bracket: the flags in force from there on, the letters read, and
the rest. A letter may occur once, a hyphen once and not at the end. -/
def readFlags : (flags : Flags) → (letters : List Char) → List Char → Option (Flags × List Char × List Char)
  | _, _, [] => none
  | flags, letters, c :: rest =>
    if c = ':' || c = ')' then
      -- the letters are in reverse, so that the last one read is in front
      if letters.head? = some '-' then none else some (flags, letters, c :: rest)
    else if letters.contains c then none
    else if c = '-' then readFlags flags ('-' :: letters) rest
    else
      match setFlag? flags c (!letters.contains '-') with
      | none => none
      | some flags => readFlags flags (c :: letters) rest

def readGroupName (cs : List Char) : Option (String × List Char) :=
  let name := cs.takeWhile (· != '>')
  match name, cs.drop name.length with
  | first :: others, _ :: rest =>
    let starts := first = '_' || Unicode.letters.contains first
    let goesOn (c : Char) : Bool :=
      c = '_' || c = '.' || c = '[' || c = ']' || Unicode.letters.contains c || Unicode.numerals.contains c
    if starts && others.all goesOn then some (.ofList name, rest) else none
  | _, _ => none

def Reading.enter (r : Reading) (numbered : Bool) (flags : Flags) : Reading :=
  ⟨flags, r.names, ⟨numbered, r.branches, r.parts, r.flags⟩ :: r.groups, [], []⟩

def isLookAround : List Char → Bool
  | '?' :: '=' :: _ | '?' :: '!' :: _ | '?' :: '<' :: '=' :: _ | '?' :: '<' :: '!' :: _ => true
  | _ => false

/-- The reading inside a new group with a name, which must not have been used before. -/
def Reading.enterNamed (r : Reading) (cs : List Char) : Option (Reading × List Char) := do
  let (name, rest) ← readGroupName cs
  if r.names.contains name then none else return ({ r with names := name :: r.names }.enter true r.flags, rest)

/-- Open a group or change the flags, the characters being those behind the bracket. -/
def Reading.openGroup (r : Reading) (cs : List Char) : Option (Reading × List Char) :=
  let cs := skipIgnored r.flags cs
  if isLookAround cs then none
  else
    match cs with
    | '?' :: 'P' :: '<' :: rest => r.enterNamed rest
    | '?' :: '<' :: rest => r.enterNamed rest
    | '?' :: rest => do
      let (flags, letters, rest) ← readFlags r.flags [] rest
      match rest with
      | ')' :: rest =>
        -- a question mark alone would repeat nothing
        if letters.isEmpty then none
        else return ({ r with flags := flags, parts := .flags :: r.parts }, rest)
      -- behind a colon the flags hold for a group of their own
      | _ => return (r.enter false flags, rest.drop 1)
    | _ => some (r.enter true r.flags, cs)

def Reading.closeGroup? (r : Reading) : Option Reading :=
  match r.groups with
  | [] => none
  | around :: groups =>
    let group := .group around.numbered r.body
    some ⟨around.flags, r.names, groups, around.branches, .expression group :: around.parts⟩

def Reading.step (r : Reading) (cs : List Char) : Option (Reading × List Char) :=
  match cs with
  | [] => some (r, [])
  | '(' :: rest => r.openGroup rest
  | ')' :: rest => r.closeGroup?.map (·, rest)
  | '|' :: rest => some ({ r with branches := sequenceOf r.parts :: r.branches, parts := [] }, rest)
  | '[' :: rest => (readClass r.flags rest).map fun (e, after) => (r.add e, after)
  | '?' :: rest => r.repeatLast? ⟨0, some 1⟩ rest
  | '*' :: rest => r.repeatLast? ⟨0, none⟩ rest
  | '+' :: rest => r.repeatLast? ⟨1, none⟩ rest
  | '\x7b' :: _ =>
    match readCounts r.flags cs with
    | none => none
    | some (count, after) => r.repeatLast? count after
  | _ =>
    match readAtom r.flags cs with
    | none => none
    | some (atom, after) => (atom.expression? r.flags).map fun e => (r.add e, after)

/-- Read a pattern to its end. Each step takes up a character, so that the length of the pattern is room
enough. -/
def Reading.run : (room : Nat) → Reading → List Char → Option Expression
  | room, r, cs =>
    match skipIgnored r.flags cs, room with
    | [], _ => if r.groups.isEmpty then some r.body else none
    | _, 0 => none
    | cs, room + 1 =>
      match r.step cs with
      | none => none
      | some (r, rest) => Reading.run room r rest

def deepest : Nat := 250

end Pattern

/-- A pattern: its text, and what the text means. -/
structure Pattern where
  text : String
  expression : Pattern.Expression

namespace Pattern

def compile? (text : String) : Option Pattern := do
  let cs := text.toList
  let e ← Reading.run (cs.length + 1) ⟨{}, [], [], [], []⟩ cs
  if e.depth ≤ deepest && e.normal.fits then return ⟨text, e⟩ else none

def matchesIn (p : Pattern) (s : String) : Bool := p.expression.occursIn s

end Pattern

end Conformance
