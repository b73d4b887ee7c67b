import Conformance.Proofs.Constructors
import Conformance.Proofs.DeepEquality
import Conformance.Proofs.Rounding

/-!
# The order of numbers, and bounds

Two integers are compared exactly, and all other pairs of numbers as binary64 numbers. Equality is not
transitive then, but the order is: since rounding keeps the order, numbers come one before the other by their
places on the line, and at one place integers come in their own order (`Number.compare_eq_lt_iff`).

The rules for bounds and the literal number part the numbers among themselves. A bound compares the value with
its reference, and a literal compares itself with the value; as one result is the other one swapped, a tester
accepts a number under each of them by how the number compares with the reference
(`Tester.admits_tree_iff`, `Tester.admits_literal_iff`).
-/

set_option autoImplicit false

namespace Conformance

/-! ## The order -/

theorem Binary64.compare_eq_lt_iff {x y : Binary64} :
    x.compare y = some .lt ↔ ∃ p q, x.rank = some p ∧ y.rank = some q ∧ p < q := by
  rw [compare]
  cases x.rank with
  | none => simp
  | some p =>
      cases y.rank with
      | none => simp
      | some q => simp [Int.compare_eq_lt]

/-- Only NaN has no place on the line. -/
theorem Binary64.compare_eq_none_iff {x y : Binary64} : x.compare y = none ↔ x = .nan ∨ y = .nan := by
  rw [compare]
  cases x with
  | nan => simp [rank]
  | signed negative magnitude =>
      cases y with
      | nan => simp [rank]
      | signed negative magnitude => simp [rank]

namespace Number

variable {m n o : Number}

/-- The order has no gaps but NaN: any two other numbers are compared. -/
theorem compare_eq_none_iff : m.compare n = none ↔ m = .float .nan ∨ n = .float .nan := by
  have hint : ∀ i, Binary64.ofInt i ≠ .nan := fun i => nofun
  cases m with
  | int i =>
      cases n with
      | int j => simp [compare]
      | float y => simp [compare, toBinary64, Binary64.compare_eq_none_iff, hint]
  | float x =>
      cases n with
      | int j => simp [compare, toBinary64, Binary64.compare_eq_none_iff, hint]
      | float y => simp [compare, toBinary64, Binary64.compare_eq_none_iff]

/-- Integers come in their own order, which their places follow as far as they can. -/
theorem int_compare_eq_lt_iff {i j : Int} : (Number.int i).compare (.int j) = some .lt ↔
    Binary64.roundedPlace i < Binary64.roundedPlace j ∨
      Binary64.roundedPlace i = Binary64.roundedPlace j ∧ i < j := by
  rw [compare, Option.some.injEq, Int.compare_eq_lt]
  constructor
  · intro hlt
    rcases Int.lt_or_eq_of_le (Binary64.roundedPlace_mono (Int.le_of_lt hlt)) with hplace | hplace
    · exact .inl hplace
    · exact .inr ⟨hplace, hlt⟩
  · rintro (hplace | ⟨-, hlt⟩)
    · exact Int.not_le.mp fun hle => Int.not_le.mpr hplace (Binary64.roundedPlace_mono hle)
    · exact hlt

/-- A number comes before another one if its place does, or if both are integers at one place and it is the
lesser integer. -/
theorem compare_eq_lt_iff : m.compare n = some .lt ↔
    ∃ p q, m.toBinary64.rank = some p ∧ n.toBinary64.rank = some q ∧
      (p < q ∨ p = q ∧ ∃ i j, m = .int i ∧ n = .int j ∧ i < j) := by
  cases m with
  | float x =>
      show x.compare n.toBinary64 = some .lt ↔ _
      rw [Binary64.compare_eq_lt_iff]
      simp [toBinary64]
  | int i =>
      cases n with
      | float y =>
          show (Binary64.ofInt i).compare y = some .lt ↔ _
          rw [Binary64.compare_eq_lt_iff]
          simp [toBinary64]
      | int j =>
          rw [int_compare_eq_lt_iff]
          simp [toBinary64, Binary64.rank_ofInt_eq_roundedPlace]

/-- The order is transitive. At one place only integers come one before the other, by an order of their own. -/
theorem compare_lt_trans (hmn : m.compare n = some .lt) (hno : n.compare o = some .lt) :
    m.compare o = some .lt := by
  rw [compare_eq_lt_iff] at hmn hno ⊢
  obtain ⟨p, q, hp, hq, hmn⟩ := hmn
  obtain ⟨q', r, hq', hr, hno⟩ := hno
  cases hq.symm.trans hq'
  refine ⟨p, r, hp, hr, ?_⟩
  -- a step of places decides, wherever it is; without one all three are integers at one place
  rcases hmn with hpq | ⟨rfl, i, j, rfl, rfl, hij⟩
  · rcases hno with hqr | ⟨rfl, -⟩
    · exact .inl (Int.lt_trans hpq hqr)
    · exact .inl hpq
  · rcases hno with hqr | ⟨rfl, j', k, hj, rfl, hjk⟩
    · exact .inl hqr
    · cases hj
      exact .inr ⟨rfl, i, k, rfl, rfl, Int.lt_trans hij hjk⟩

end Number

/-! ## Bounds -/

namespace NumericBound

def lt (r : Number) : NumericBound := ⟨r, .below, false⟩

def lte (r : Number) : NumericBound := ⟨r, .below, true⟩

def gt (r : Number) : NumericBound := ⟨r, .above, false⟩

def gte (r : Number) : NumericBound := ⟨r, .above, true⟩

/-- The tree that expects a number within the bound. Every bound may have a label of its own. -/
def tree (label : NumericBound → Label) (b : NumericBound) : Expected := .rule (label b) (.numeric b)

/-- The token of a bound names the constructor that makes its rule. -/
theorem exists_constructor (b : NumericBound) {p : Payload} (h : Directive.number p.json = .ok b.reference)
    (label : Label) :
    ∃ c, Registry.builtin.find? b.token = some c ∧ c label p = .ok (.rule label (.numeric b)) := by
  obtain ⟨r, direction, inclusive⟩ := b
  refine ⟨Directive.ofBound direction inclusive, ?_, Directive.ofJson_eq_ok_iff.mpr ⟨_, ?_, rfl⟩⟩
  · cases direction with
    | below => cases inclusive <;> rfl
    | above => cases inclusive <;> rfl
  · rw [h]
    rfl

/-- A directive of a bound is decoded to the rule with this bound. -/
theorem decode_token (b : NumericBound) {j : Json} (h : Directive.number j = .ok b.reference) (origin : Nat) :
    Registry.builtin.decode origin (.object [(b.token, j)]) = .ok (b.tree fun _ => [origin]) := by
  have hpayload : Directive.number (Registry.builtin.payload [0, origin] j).json = .ok b.reference := by
    rw [Registry.json_payload]
    exact h
  obtain ⟨c, hfind, hrule⟩ := b.exists_constructor hpayload [origin]
  exact (Registry.decoded_directive_eq_ok_iff hfind).mpr hrule

/-- A number that stands where a directive could is decoded to the literal. -/
theorem decode_reference {j : Json} {r : Number} (h : Directive.number j = .ok r) (origin : Nat) :
    Registry.builtin.decode origin j = .ok (.ofNumber r) := by
  cases j with
  | integer i =>
      cases h
      rfl
  | float x =>
      cases h
      rfl
  | _ => cases h

/-- The tree for the numbers that compare with the reference in one way. -/
def partTree (label : NumericBound → Label) (r : Number) : Ordering → Expected
  | .lt => (lt r).tree label
  | .eq => .ofNumber r
  | .gt => (gt r).tree label

theorem mem_partTrees_iff {label : NumericBound → Label} {r : Number} {e : Expected} :
    e ∈ [(lt r).tree label, (gt r).tree label, .ofNumber r]
      ↔ ∃ order, e = partTree label r order := by
  simp only [List.mem_cons, List.not_mem_nil, or_false]
  constructor
  · rintro (rfl | rfl | rfl)
    · exact ⟨.lt, rfl⟩
    · exact ⟨.gt, rfl⟩
    · exact ⟨.eq, rfl⟩
  · rintro ⟨_ | _ | _, rfl⟩
    · exact .inl rfl
    · exact .inr (.inr rfl)
    · exact .inr (.inl rfl)

end NumericBound

namespace Tester

open NumericBound (partTree)

def Admits (t : Tester) (e : Expected) (n : Number) : Prop := (t.test e (.ofNumber n)).1 = .ok ()

theorem admits_iff_sat {e : Expected} (hbuiltin : Builtin e) (t : Tester) (n : Number) :
    t.Admits e n ↔ Sat e (.ofNumber n) :=
  ⟨sat_of_test_eq_ok hbuiltin, fun h => test_eq_ok_of_sat hbuiltin h t⟩

/-- A bound asks how the value compares with its reference. -/
theorem admits_tree_iff (t : Tester) (label : NumericBound → Label) (b : NumericBound) (n : Number) :
    t.Admits (b.tree label) n ↔ n.compare b.reference = some b.direction.order ∨
      b.inclusive = true ∧ n.compare b.reference = some .eq := by
  rw [NumericBound.tree, admits_iff_sat (.numeric (label b) b), Sat, SatRule, Tree.number?_ofNumber]
  simp [Sat.Within]

/-- A literal asks whether the value is equal to it, comparing the other way round. -/
theorem admits_literal_iff (t : Tester) (r n : Number) :
    t.Admits (.ofNumber r) n ↔ n.compare r = some .eq := by
  have hsat : t.Admits (.ofNumber r) n
      ↔ (Tree.ofNumber r : Expected).deepEqual (Tree.ofNumber n : Value) = true := by
    cases r with
    | int i => rw [Tree.ofNumber, admits_iff_sat (.int i), Sat]
    | float x => rw [Tree.ofNumber, admits_iff_sat (.float x), Sat]
  rw [hsat, Tree.deepEqual_number_iff, Tree.number?_ofNumber, ← Number.compare_eq_swap_iff .eq,
    Ordering.swap_eq, ← Number.equals_iff]
  simp

theorem admits_partTree_iff (t : Tester) (label : NumericBound → Label) (r n : Number) (order : Ordering) :
    t.Admits (partTree label r order) n ↔ n.compare r = some order := by
  cases order with
  | lt => simp [partTree, admits_tree_iff, NumericBound.lt, Direction.order]
  | eq => exact admits_literal_iff t r n
  | gt => simp [partTree, admits_tree_iff, NumericBound.gt, Direction.order]

/-- **Bounds and literals follow one order of all numbers**, integers or not. Numbers are ordered one by one
unless one of them is undefined; the order can be turned around, and it is transitive. Of the bounds below and
above a reference and the reference itself exactly one admits a given number; an inclusive bound admits what the
strict one and the reference do; a bound below admits what a bound below a lesser number does, and likewise for
bounds above; and nothing is admitted if the number or the reference is undefined. The trees are those to which
the directives of the bounds and the reference itself are decoded. -/
theorem bounds_follow_order (t : Tester) (label : NumericBound → Label) :
    (∀ m n : Number, m.compare n = none ↔ m = .float .nan ∨ n = .float .nan) ∧
    (∀ m n : Number, m.compare n = some .lt ↔ n.compare m = some .gt) ∧
    (∀ m n o : Number, m.compare n = some .lt → n.compare o = some .lt → m.compare o = some .lt) ∧
    (∀ r v : Number, r ≠ .float .nan → v ≠ .float .nan → ∃! e,
      e ∈ [(NumericBound.lt r).tree label, (NumericBound.gt r).tree label, .ofNumber r] ∧ t.Admits e v) ∧
    (∀ r v : Number,
      (t.Admits ((NumericBound.lte r).tree label) v ↔
        t.Admits ((NumericBound.lt r).tree label) v ∨ t.Admits (.ofNumber r) v) ∧
      (t.Admits ((NumericBound.gte r).tree label) v ↔
        t.Admits ((NumericBound.gt r).tree label) v ∨ t.Admits (.ofNumber r) v)) ∧
    (∀ r s v : Number, r.compare s = some .lt →
      (t.Admits ((NumericBound.lt r).tree label) v → t.Admits ((NumericBound.lt s).tree label) v) ∧
      (t.Admits ((NumericBound.gt s).tree label) v → t.Admits ((NumericBound.gt r).tree label) v)) ∧
    (∀ r v : Number, r = .float .nan ∨ v = .float .nan →
      ∀ e ∈ [(NumericBound.lt r).tree label, (NumericBound.lte r).tree label, (NumericBound.gt r).tree label,
        (NumericBound.gte r).tree label, .ofNumber r], ¬ t.Admits e v) ∧
    ∀ (origin : Nat) (j : Json) (r : Number), Directive.number j = .ok r →
      Registry.builtin.decode origin j = .ok (.ofNumber r) ∧
      ∀ b : NumericBound, b.reference = r →
        Registry.builtin.decode origin (.object [(b.token, j)]) = .ok (b.tree fun _ => [origin]) := by
  refine ⟨fun m n => Number.compare_eq_none_iff, fun m n => (Number.compare_eq_swap_iff .lt).symm,
    fun m n o => Number.compare_lt_trans, fun r v hr hv => ?_, fun r v => ?_, fun r s v hrs => ?_,
    fun r v hnan => ?_, fun origin j r hj => ⟨NumericBound.decode_reference hj origin, ?_⟩⟩
  -- of the three ways to compare, the value has exactly one, and the three trees go with the three ways
  · obtain ⟨order, horder⟩ : ∃ order, v.compare r = some order := by
      rw [← Option.ne_none_iff_exists', Ne, Number.compare_eq_none_iff, not_or]
      exact ⟨hv, hr⟩
    refine ⟨partTree label r order, ⟨NumericBound.mem_partTrees_iff.mpr ⟨order, rfl⟩, ?_⟩, ?_⟩
    · exact (admits_partTree_iff t label r v order).mpr horder
    · rintro e ⟨hmem, hadmits⟩
      obtain ⟨part, rfl⟩ := NumericBound.mem_partTrees_iff.mp hmem
      rw [admits_partTree_iff, horder, Option.some.injEq] at hadmits
      rw [hadmits]
  · simp only [admits_tree_iff, admits_literal_iff]
    simp [NumericBound.lt, NumericBound.lte, NumericBound.gt, NumericBound.gte]
  · simp only [admits_tree_iff]
    simp only [NumericBound.lt, NumericBound.gt, Direction.order, Bool.false_eq_true, false_and, or_false]
    -- a bound above is turned around, so that transitivity is used in the same direction
    refine ⟨fun hvr => Number.compare_lt_trans hvr hrs, fun hvs => ?_⟩
    exact (Number.compare_eq_swap_iff .lt).mpr
      (Number.compare_lt_trans hrs ((Number.compare_eq_swap_iff .lt).mp hvs))
  · have hnone : v.compare r = none := Number.compare_eq_none_iff.mpr hnan.symm
    simp only [List.forall_mem_cons, admits_tree_iff, admits_literal_iff]
    simp [NumericBound.lt, NumericBound.lte, NumericBound.gt, NumericBound.gte, hnone]
  · rintro b rfl
    exact b.decode_token hj origin

end Tester

/-- Two integers keep their order although they become one binary64 number. The greater one is taken from a
directive. -/
theorem bounds_follow_order_beyond_exact :
    let t := Tester.ofOptions { threshold := 0 }
    let label : NumericBound → Label := fun _ => [0]
    let low : Number := .int (2 ^ 53)
    let high : Number := .int (2 ^ 53 + 1)
    let rounded : Number := .float (.ofInt (2 ^ 53))
    let most : Number := .float (.infinity false)
    low.compare high = some .lt ∧ high.compare most = some .lt ∧ low.compare most = some .lt ∧
      (∃! e, e ∈ [(NumericBound.lt rounded).tree label, (NumericBound.gt rounded).tree label,
        .ofNumber rounded] ∧ t.Admits e high) ∧
      t.Admits ((NumericBound.lt most).tree label) low ∧
      ¬ t.Admits ((NumericBound.lte (.float .nan)).tree label) high ∧
      Registry.builtin.decode 0 (.object [("$lt", .integer (2 ^ 53 + 1))])
        = .ok ((NumericBound.lt high).tree label) := by
  intro t label low high rounded most
  obtain ⟨-, -, htrans, hone, -, hmono, hnan, hdecode⟩ := Tester.bounds_follow_order t label
  have hlow : low.compare high = some .lt := by decide
  have hhigh : high.compare most = some .lt := by decide
  have hadmits : t.Admits ((NumericBound.lt high).tree label) low :=
    (Tester.admits_partTree_iff t label high low .lt).mpr hlow
  have hread : Directive.number (.integer (2 ^ 53 + 1)) = .ok high := rfl
  refine ⟨hlow, hhigh, htrans low high most hlow hhigh, hone rounded high (by decide) (by decide),
    (hmono high most low hhigh).1 hadmits, hnan (.float .nan) high (.inl rfl) _ ?_, ?_⟩
  · simp
  · exact (hdecode 0 _ high hread).2 (.lt high) rfl

end Conformance
