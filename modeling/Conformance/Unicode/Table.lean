import Conformance.Unicode.CodePointSet

/-!
# Tables of sets

Tables are written as texts of gaps between the bounds of a set, each gap a number to the base 26 whose
last digit is a small letter and whose other digits are capitals. A table lists sets under their names.
-/

set_option autoImplicit false

namespace Conformance.Unicode

/-- What has been read of a text of gaps: the digits of the gap at hand, and the bounds so far. -/
structure GapReading where
  digits : Nat
  last : Nat
  bounds : Array Nat

def GapReading.step (r : GapReading) (c : Char) : GapReading :=
  if c.isUpper then { r with digits := r.digits * 26 + (c.toNat - 'A'.toNat) }
  else
    let bound := r.last + r.digits * 26 + (c.toNat - 'a'.toNat)
    ⟨0, bound, r.bounds.push bound⟩

/-- The numbers that a text of gaps lists, each added to the sum of those before. -/
def boundsOfGaps (text : String) : Array Nat :=
  (text.toList.foldl GapReading.step ⟨0, 0, #[]⟩).bounds

def CodePointSet.ofGaps (text : String) : CodePointSet := ⟨boundsOfGaps text⟩

/-- A set of characters as tables list it: its names, in small letters without blanks, hyphens and low
lines, and the gaps between its bounds. -/
structure NamedSet where
  names : List String
  gaps : String

def NamedSet.characters (s : NamedSet) : CodePointSet := .ofGaps s.gaps

def findNamed (table : List NamedSet) (name : String) : Option NamedSet :=
  table.find? (·.names.contains name)

/-- The characters that a table lists under a name, and none if the table lacks the name. -/
def charactersNamed (table : List NamedSet) (name : String) : CodePointSet :=
  match findNamed table name with
  | some entry => entry.characters
  | none => .nothing

end Conformance.Unicode
