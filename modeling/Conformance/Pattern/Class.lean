import Conformance.Pattern.Escape

/-!
# Classes of characters in brackets

A class is a union of characters, ranges, named classes and classes in brackets of their own. Two hyphens,
ampersands or tildes between unions take their difference, intersection or symmetric difference, from left
to right.
-/

set_option autoImplicit false

namespace Conformance.Pattern

open Unicode

/-- A set of characters with the depth of its nesting. -/
structure ClassPart where
  set : CodePointSet
  nesting : Nat

/-- The union of the parts that have been read, given in reverse. -/
def unionOf : List ClassPart → ClassPart
  | [] => ⟨.nothing, 0⟩
  | [part] => part
  | parts => ⟨.unions (parts.map (·.set)), (parts.map (·.nesting)).foldl max 0 + 1⟩

inductive ClassOperator where
  | intersection
  | difference
  | symmetricDifference

/-- A class that has been opened: whether it is negated, what stood before it in the class around it, and
the left side and operator that wait for a right side. -/
structure OpenClass where
  negated : Bool
  outer : List ClassPart
  pending : Option (ClassPart × ClassOperator)

def ClassOperator.apply (op : ClassOperator) (a b : CodePointSet) : CodePointSet :=
  match op with
  | .intersection => a.intersection b
  | .difference => a.difference b
  | .symmetricDifference => a.symmetricDifference b

/-- What a class amounts to once its last union has been read. -/
def OpenClass.combined (flags : Flags) (frame : OpenClass) (parts : List ClassPart) : ClassPart :=
  let right := unionOf parts
  match frame.pending with
  | none => right
  | some (left, op) =>
    ⟨op.apply (foldedSet flags false left.set) (foldedSet flags false right.set),
      max left.nesting right.nesting + 1⟩

/-- A set under the flags, as `foldedSet`. Without the flag for Unicode it must not reach beyond ASCII. -/
def allowedSet? (flags : Flags) (negated : Bool) (a : CodePointSet) : Option CodePointSet :=
  let set := foldedSet flags negated a
  if flags.unicode || isAsciiOnly set then some set else none

def OpenClass.close? (flags : Flags) (frame : OpenClass) (parts : List ClassPart) : Option ClassPart :=
  let inner := frame.combined flags parts
  (allowedSet? flags frame.negated inner.set).map (⟨·, inner.nesting + 1⟩)

/-- Hyphens at the start of a class, which stand for themselves. -/
def leadingHyphens (flags : Flags) : (room : Nat) → List Char → List ClassPart × List Char
  | room + 1, '-' :: rest =>
    let (parts, after) := leadingHyphens flags room (skipIgnored flags rest)
    (⟨.single '-', 0⟩ :: parts, after)
  | _, cs => ([], cs)

/-- Open a class, the characters being those behind its bracket: whether it is negated, and the hyphens or
the closing bracket that stand for themselves at its start. -/
def openClass? (flags : Flags) (cs : List Char) : Option (Bool × List ClassPart × List Char) :=
  let cs := skipIgnored flags cs
  let negated := cs.head? = some '^'
  let cs := if negated then advance flags cs else cs
  let (hyphens, cs) := leadingHyphens flags cs.length cs
  match hyphens, cs with
  | _, [] => none
  | [], ']' :: _ =>
    match advance flags cs with
    | [] => none
    | after => some (negated, [⟨.single ']', 0⟩], after)
  | parts, cs => some (negated, parts, cs)

/-- A class that is named between colons, the characters being those behind its bracket: whether it is
negated, its set, and the rest; nothing if there is no such name, in which case the bracket opens a class. -/
def readNamedClass (cs : List Char) : Option (Bool × CodePointSet × List Char) :=
  match cs with
  | ':' :: rest =>
    let negated := rest.head? = some '^'
    let rest := if negated then rest.drop 1 else rest
    let name := rest.takeWhile (· != ':')
    match rest.drop name.length with
    | ':' :: ']' :: after => (asciiClasses.lookup (.ofList name)).map fun a => (negated, a, after)
    | _ => none
  | _ => none

/-- One character or class inside a class. Only an escape can be more than a character. -/
def readClassAtom (flags : Flags) (cs : List Char) : Option (Atom × List Char) :=
  match cs with
  | [] => none
  | '\\' :: rest => readEscape flags rest
  | c :: rest => some (.literal c false, rest)

/-- The character that an end of a range is. Without the flag for Unicode only ASCII will do. -/
def rangeEnd? (flags : Flags) : Atom → Option Char
  | .literal c _ => if flags.unicode || c.toNat < 0x80 then some c else none
  | _ => none

def classAtomSet? (flags : Flags) : Atom → Option CodePointSet
  | .set a => some a
  | atom => (rangeEnd? flags atom).map .single

/-- The character that decides what a hyphen in front of the given ones is. Under the flag for verbose
patterns it is found behind white space and the sign of a comment; the text of a comment is not passed
over, and where there is nothing else it is the very next character. -/
def behindHyphen? (flags : Flags) (cs : List Char) : Option Char :=
  if flags.verbose then
    let rest := cs.dropWhile isWhite
    let rest := if rest.head? = some '#' then (rest.drop 1).dropWhile isWhite else rest
    rest.head?.or cs.head?
  else cs.head?

/-- A range, or a single atom. A hyphen makes a range unless a bracket or another hyphen follows it. -/
def readRange (flags : Flags) (cs : List Char) : Option (ClassPart × List Char) := do
  let (first, cs) ← readClassAtom flags cs
  let cs := skipIgnored flags cs
  let following := behindHyphen? flags (cs.drop 1)
  match cs with
  | [] => none
  | '-' :: _ =>
    if following = some ']' || following = some '-' then
      return (⟨← classAtomSet? flags first, 0⟩, cs)
    else
      let (second, after) ← readClassAtom flags (advance flags cs)
      let low ← rangeEnd? flags first
      let high ← rangeEnd? flags second
      if low.toNat ≤ high.toNat then return (⟨.span low.toNat high.toNat, 0⟩, after) else none
  | _ => return (⟨← classAtomSet? flags first, 0⟩, cs)

def classOperator? : List Char → Option ClassOperator
  | '&' :: '&' :: _ => some .intersection
  | '-' :: '-' :: _ => some .difference
  | '~' :: '~' :: _ => some .symmetricDifference
  | _ => none

/-- Read a class up to its closing bracket: `frame` is the innermost class that is open, `frames` are those
around it, and `parts` is the union being read, in reverse. Each step takes up a character, so that the
length of the pattern is room enough. -/
def readClassParts (flags : Flags) :
    (room : Nat) → OpenClass → List OpenClass → List ClassPart → List Char →
      Option (ClassPart × List Char)
  | 0, _, _, _, _ => none
  | room + 1, frame, frames, parts, cs =>
    let cs := skipIgnored flags cs
    match classOperator? cs with
    | some op =>
      let left := frame.combined flags parts
      readClassParts flags room { frame with pending := some (left, op) } frames [] (cs.drop 2)
    | none =>
      match cs with
      | [] => none
      | '[' :: rest =>
        match readNamedClass rest with
        | some (negated, a, after) => do
          let set ← allowedSet? flags negated a
          readClassParts flags room frame frames (⟨set, 0⟩ :: parts) after
        | none => do
          let (negated, start, after) ← openClass? flags rest
          readClassParts flags room ⟨negated, parts, none⟩ (frame :: frames) start.reverse after
      | ']' :: rest => do
        let closed ← frame.close? flags parts
        match frames with
        | [] => return (closed, rest)
        | around :: frames => readClassParts flags room around frames (closed :: frame.outer) rest
      | _ => do
        let (part, after) ← readRange flags cs
        readClassParts flags room frame frames (part :: parts) after

/-- Read a class, the characters being those behind its bracket. -/
def readClass (flags : Flags) (cs : List Char) : Option (Expression × List Char) := do
  let (negated, start, after) ← openClass? flags cs
  let (part, rest) ← readClassParts flags (after.length + 1) ⟨negated, [], none⟩ [] start.reverse after
  return (.char part.set part.nesting, rest)

end Conformance.Pattern
