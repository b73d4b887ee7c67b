import Conformance.Proofs.Reading

/-!
# The integers of a JSON text

The type of JSON values does not say how great an integer may be. A text does: an integer that does not fit
a signed or an unsigned word of sixty-four bits is read as a binary64 number. So every value that is read
keeps to the words (`Json.read_inWords`), at any depth.
-/

set_option autoImplicit false

namespace Conformance

/-- Every integer in the value fits a signed or an unsigned word of sixty-four bits. -/
inductive Json.InWords : Json → Prop where
  | null : InWords .null
  | bool (b : Bool) : InWords (.bool b)
  | integer {i : Int} (hlow : -0x8000000000000000 ≤ i) (hhigh : i ≤ Json.greatestWord) :
      InWords (.integer i)
  | float (x : Binary64) : InWords (.float x)
  | string (s : String) : InWords (.string s)
  | array {items : List Json} (h : ∀ x ∈ items, InWords x) : InWords (.array items)
  | object {members : List (String × Json)} (h : ∀ m ∈ members, InWords m.2) : InWords (.object members)

namespace Json

theorem InWords.le_greatestWord {i : Int} (h : InWords (.integer i)) : i ≤ greatestWord := by
  cases h
  assumption

theorem InWords.item {items : List Json} (h : InWords (.array items)) : ∀ x ∈ items, InWords x := by
  cases h
  assumption

theorem InWords.member {members : List (String × Json)} (h : InWords (.object members)) :
    ∀ m ∈ members, InWords m.2 := by
  cases h
  assumption

theorem inWords_integerLiteral (negative : Bool) {n : Nat} (hn : n ≤ greatestWord) :
    (integerLiteral negative n).InWords := by
  unfold integerLiteral
  split
  · exact .integer (by omega) (by omega)
  · split
    · exact .float _
    · rename_i hsmall
      have hword : (0 : Int) ≤ greatestWord := Int.natCast_nonneg greatestWord
      simp only [Bool.or_eq_true, decide_eq_true_eq, not_or] at hsmall
      exact .integer (by omega) (by omega)

/-- No reader makes a greater integer out of smaller ones. -/
theorem hereditary_inWords : Hereditary InWords fun members => ∀ m ∈ members, InWords m.2 where
  null := .null
  bool := .bool
  integer := fun negative _ hn => inWords_integerLiteral negative hn
  decimal := fun _ _ _ x _ => .float x
  zero := fun _ => .float _
  string := .string
  array := fun _ => .array
  noMembers := List.forall_mem_nil _
  putMember := fun _ _ _ => forall_mem_putMember
  object := fun _ => .object

/-- **Every integer of a value that was read is a word.** -/
theorem read_inWords {text : String} {j : Json} (h : read text = .ok j) : j.InWords :=
  hereditary_inWords.of_read h

end Json

end Conformance
