import Conformance.Unicode.CaseFoldingTable
import Std.Data.HashMap

/-!
# Characters that differ in case only

`CodePointSet.closedUnderCase` adds to a set whatever has the same simple case folding as a member, and
`CodePointSet.closedUnderLetterCase` does so for the letters of ASCII alone.
-/

set_option autoImplicit false

namespace Conformance.Unicode

/-- The folding that a signed gap leads to: an even gap counts forward from `code`, an odd one back. -/
def foldingTarget (code gap : Nat) : Nat :=
  if gap % 2 = 0 then code + gap / 2 else code - (gap + 1) / 2

/-- Pairs of a code point and its folding, from the alternating distances of the table. -/
def foldingPairs : List Nat → (last : Nat) → List (Nat × Nat)
  | step :: gap :: rest, last => (last + step, foldingTarget (last + step) gap) :: foldingPairs rest (last + step)
  | _, _ => []

/-- The numbers of a text of gaps, without adding them up. -/
def gapsOfText (text : String) : List Nat :=
  let bounds := (boundsOfGaps text).toList
  (bounds.zip (0 :: bounds)).map fun (bound, before) => bound - before

/-- Every code point whose folding is another one, with that folding. -/
def simpleFoldings : List (Nat × Nat) := foldingPairs (gapsOfText foldingGaps) 0

def foldingOf : Std.HashMap Nat Nat := Std.HashMap.ofList simpleFoldings

/-- The code points that fold to a given one, itself left out. -/
def foldedFrom : Std.HashMap Nat (List Nat) :=
  simpleFoldings.foldl (fun m (code, folding) => m.insert folding (code :: m.getD folding [])) ∅

def simpleFolding (code : Nat) : Nat := foldingOf.getD code code

/-- The code points with the same simple case folding as `code`, among them `code`. -/
def caseVariants (code : Nat) : List Nat :=
  let folding := simpleFolding code
  folding :: foldedFrom.getD folding []

/-- The code points that share their folding with another one, in order. -/
def casedCodes : Array Nat :=
  ((simpleFoldings.flatMap fun (code, folding) => [code, folding]).mergeSort fun a b => a ≤ b).toArray

/-- The code points of a range that share their folding with another one. -/
def casedWithin (low high : Nat) : List Nat :=
  let start := if low = 0 then 0 else CodePointSet.countAtMost casedCodes (low - 1)
  (casedCodes.extract start (CodePointSet.countAtMost casedCodes high)).toList

namespace CodePointSet

/-- The set with everything that equals a member up to case. -/
def closedUnderCase (a : CodePointSet) : CodePointSet :=
  let variants := a.ranges.flatMap fun (low, high) => (casedWithin low high).flatMap caseVariants
  .ofRanges (a.ranges ++ variants.map fun code => (code, code))

def closedUnderLetterCase (a : CodePointSet) : CodePointSet :=
  let letters := (List.range 26).filter fun i =>
    a.containsCode ('A'.toNat + i) || a.containsCode ('a'.toNat + i)
  let variants := letters.flatMap fun i => ['A'.toNat + i, 'a'.toNat + i]
  .ofRanges (a.ranges ++ variants.map fun code => (code, code))

end CodePointSet

end Conformance.Unicode
