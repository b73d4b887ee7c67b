/-!
# Sets of code points

A set of code points is kept as the increasing list of the places where membership changes: the first
bound opens the set, the second one closes it, and so on. A code point is in the set when an odd number
of bounds is at or below it.

Two sets are combined in one pass over the bounds of both. `difference` and `complement` are operations on
characters: surrogates are none, and the ranges of their results start and end with characters.
-/

set_option autoImplicit false

namespace Conformance.Unicode

/-- A set of code points, as the increasing bounds at which membership changes. -/
structure CodePointSet where
  bounds : Array Nat
  deriving DecidableEq, Inhabited

namespace CodePointSet

/-! ## Membership -/

/-- How many entries of `bounds` between `low` and `high` are at most `n`, counted from the start, by
halving the interval; `fuel` bounds the number of halvings. -/
def countUpTo (bounds : Array Nat) (n : Nat) : (fuel low high : Nat) → Nat
  | 0, low, _ => low
  | fuel + 1, low, high =>
    if low < high then
      let middle := (low + high) / 2
      if (bounds[middle]?).getD 0 ≤ n then countUpTo bounds n fuel (middle + 1) high
      else countUpTo bounds n fuel low middle
    else low

/-- How many entries of an increasing array are at most `n`. -/
def countAtMost (bounds : Array Nat) (n : Nat) : Nat :=
  countUpTo bounds n (bounds.size + 1) 0 bounds.size

def containsCode (s : CodePointSet) (n : Nat) : Bool := countAtMost s.bounds n % 2 == 1

def contains (s : CodePointSet) (c : Char) : Bool := s.containsCode c.toNat

/-! ## Ranges -/

/-- The ranges that bounds open and close. -/
def rangesBetween : List Nat → List (Nat × Nat)
  | low :: behind :: rest => (low, behind - 1) :: rangesBetween rest
  | _ => []

/-- The ranges of a set, each with its first and last code point, in order. Between two of them there is a
code point outside the set. -/
def ranges (s : CodePointSet) : List (Nat × Nat) := rangesBetween s.bounds.toList

/-- The bounds of a range joined with those that follow it in order of their starts. -/
def joinRanges (low high : Nat) : List (Nat × Nat) → List Nat
  | [] => [low, high + 1]
  | (nextLow, nextHigh) :: rest =>
    if nextLow ≤ high + 1 then joinRanges low (max high nextHigh) rest
    else low :: (high + 1) :: joinRanges nextLow nextHigh rest

def ofRanges (ranges : List (Nat × Nat)) : CodePointSet :=
  match ranges.mergeSort fun a b => a.1 ≤ b.1 with
  | [] => ⟨#[]⟩
  | (low, high) :: rest => ⟨(joinRanges low high rest).toArray⟩

def span (low high : Nat) : CodePointSet := ofRanges [(low, high)]

def single (c : Char) : CodePointSet := span c.toNat c.toNat

def nothing : CodePointSet := ⟨#[]⟩

def everything : CodePointSet := span 0 0x10FFFF

def unions (sets : List CodePointSet) : CodePointSet := ofRanges (sets.flatMap ranges)

/-! ## Operations on two sets -/

/-- The bounds of the code points that `keep` chooses by their membership in two sets, given the bounds of
both and the memberships in front of them. -/
def chosenBounds (keep : Bool → Bool → Bool) : (inFirst inSecond : Bool) → List Nat → List Nat → List Nat
  | _, _, [], [] => []
  | inFirst, inSecond, a :: as, [] =>
    let rest := chosenBounds keep (!inFirst) inSecond as []
    if keep inFirst inSecond = keep (!inFirst) inSecond then rest else a :: rest
  | inFirst, inSecond, [], b :: bs =>
    let rest := chosenBounds keep inFirst (!inSecond) [] bs
    if keep inFirst inSecond = keep inFirst (!inSecond) then rest else b :: rest
  | inFirst, inSecond, a :: as, b :: bs =>
    if a < b then
      let rest := chosenBounds keep (!inFirst) inSecond as (b :: bs)
      if keep inFirst inSecond = keep (!inFirst) inSecond then rest else a :: rest
    else if b < a then
      let rest := chosenBounds keep inFirst (!inSecond) (a :: as) bs
      if keep inFirst inSecond = keep inFirst (!inSecond) then rest else b :: rest
    else
      let rest := chosenBounds keep (!inFirst) (!inSecond) as bs
      if keep inFirst inSecond = keep (!inFirst) (!inSecond) then rest else a :: rest
  termination_by _ _ as bs => as.length + bs.length

/-- The code points that `keep` chooses by their membership in two sets. -/
def chosen (keep : Bool → Bool → Bool) (a b : CodePointSet) : CodePointSet :=
  ⟨(chosenBounds keep false false a.bounds.toList b.bounds.toList).toArray⟩

def intersection (a b : CodePointSet) : CodePointSet := chosen (· && ·) a b

/-- A range with ends among the surrogates moved to the nearest character inside it, if there is one. -/
def characterRange? (range : Nat × Nat) : Option (Nat × Nat) :=
  let low := if 0xD800 ≤ range.1 && range.1 ≤ 0xDFFF then 0xE000 else range.1
  let high := if 0xD800 ≤ range.2 && range.2 ≤ 0xDFFF then 0xD7FF else range.2
  if low ≤ high then some (low, high) else none

def difference (a b : CodePointSet) : CodePointSet :=
  .ofRanges ((chosen (fun inA inB => inA && !inB) a b).ranges.filterMap characterRange?)

def symmetricDifference (a b : CodePointSet) : CodePointSet :=
  (unions [a, b]).difference (intersection a b)

/-- The characters outside a set. Where two ranges of the set touch the surrogates from both sides, the gap
between them has no character of its own, and the characters on its sides stand for it. -/
def complement (a : CodePointSet) : CodePointSet :=
  let gaps := (chosen (fun inAll inA => inAll && !inA) everything a).ranges
  .ofRanges (gaps.map fun gap => (characterRange? gap).getD (0xD7FF, 0xE000))

def negatedIf (negated : Bool) (a : CodePointSet) : CodePointSet := if negated then a.complement else a

end CodePointSet

end Conformance.Unicode
