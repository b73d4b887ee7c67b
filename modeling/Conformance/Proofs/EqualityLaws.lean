import Conformance.Proofs.DeepEquality
import Conformance.Proofs.ExactIntegers

/-!
# The laws of structural equality

Structural equality is symmetric, although the comparison of leaves goes by the expected side alone. It is
reflexive but for undefined numbers, each of which differs from itself. Transitivity is a matter of numbers:
integers are compared exactly with integers and rounded with binary64 numbers, so that it holds as long as no
integer is rounded, and not beyond.

The laws are those of numbers at the leaves (`Number.equals_symm`, `Number.equals_self_iff`,
`Number.equals_trans`), carried up by induction on the tree. What is inside of a rule does not matter: a rule is
equal to the rule object that it is. So `OccursIn` looks for parts of a tree outside of rules only.
-/

set_option autoImplicit false

namespace Conformance

/-! ## Numbers -/

namespace Number

variable {m n o : Number}

theorem equals_symm (h : m.equals n = true) : n.equals m = true := by
  rw [equals_iff] at h ⊢
  exact (compare_eq_swap_iff .eq).mpr h

theorem equals_self_iff (n : Number) : n.equals n = true ↔ n ≠ .float .nan := by
  constructor
  · rintro h rfl
    exact absurd h (by decide)
  · exact equals_self

/-- Transitivity asks for integers that are converted exactly: two others may round to the same float. -/
theorem equals_trans (hm : m.IntWith ExactInt) (hn : n.IntWith ExactInt) (ho : o.IntWith ExactInt)
    (hmn : m.equals n = true) (hno : n.equals o = true) : m.equals o = true := by
  rw [equals, compare_eq_of_equals hm hn hmn ho]
  exact hno

end Number

namespace Tree

variable {ρ σ τ : Type}

/-! ## Parts of trees -/

/-- Induction on trees, with one case for numbers of either kind. -/
theorem induction {P : Tree ρ → Prop} (null : P .null) (bool : ∀ b, P (.bool b))
    (number : ∀ n : Number, P (.ofNumber n)) (string : ∀ s, P (.string s))
    (array : ∀ items, (∀ t ∈ items, P t) → P (.array items))
    (document : ∀ entries, (∀ entry ∈ entries, P entry.2) → P (.document entries))
    (rule : ∀ label content, P (.rule label content)) (t : Tree ρ) : P t := by
  refine @Tree.rec ρ P (fun items => ∀ t ∈ items, P t) (fun entries => ∀ entry ∈ entries, P entry.2)
    (fun entry => P entry.2) null bool (fun i => number (.int i)) (fun x => number (.float x)) string array
    document rule nofun ?_ nofun ?_ ?_ t
  · intro t rest ht hrest
    exact List.forall_mem_cons.mpr ⟨ht, hrest⟩
  · intro entry rest hentry hrest
    exact List.forall_mem_cons.mpr ⟨hentry, hrest⟩
  · intro _ _ h
    exact h

/-- The tree is a part of another one, or the whole of it. What rules carry is not a part. -/
inductive OccursIn (s : Tree ρ) : Tree ρ → Prop where
  | here : OccursIn s s
  | item {items : List (Tree ρ)} {t : Tree ρ} (hmem : t ∈ items) (h : OccursIn s t) :
      OccursIn s (.array items)
  | entry {entries : List (String × Tree ρ)} {entry : String × Tree ρ} (hmem : entry ∈ entries)
      (h : OccursIn s entry.2) : OccursIn s (.document entries)

def IntsWith (P : Int → Prop) (t : Tree ρ) : Prop := ∀ i, (Tree.int i).OccursIn t → P i

namespace IntsWith

variable {P : Int → Prop}

theorem number {n : Number} (h : (ofNumber n : Tree ρ).IntsWith P) : n.IntWith P := by
  cases n with
  | int i => exact h i .here
  | float x => trivial

theorem item {items : List (Tree ρ)} (h : (Tree.array items).IntsWith P) :
    ∀ t ∈ items, t.IntsWith P := fun _ ht i hi => h i (.item ht hi)

theorem entry {entries : List (String × Tree ρ)} (h : (Tree.document entries).IntsWith P) :
    ∀ entry ∈ entries, entry.2.IntsWith P := fun _ hentry i hi => h i (.entry hentry hi)

end IntsWith

/-! ## The laws -/

/-- Rules are not told apart here but by their labels, and nothing else is equal to a rule. -/
theorem deepEqual_rule_iff {label : Label} {x : ρ} {t : Tree σ} :
    (Tree.rule label x).deepEqual t = true ↔ ∃ y, t = .rule label y := by
  cases t with
  | rule other y =>
      rw [deepEqual, beq_iff_eq]
      constructor
      · rintro rfl
        exact ⟨y, rfl⟩
      · rintro ⟨_, heq⟩
        cases heq
        rfl
  | _ => simp [deepEqual, compareScalars]

/-- By induction on the first tree: each constructor is equal only to trees of its own kind. -/
theorem deepEqual_symm {a : Tree ρ} {b : Tree σ} (h : a.deepEqual b = true) : b.deepEqual a = true := by
  induction a using Tree.induction generalizing b with
  | null =>
      obtain rfl := deepEqual_null_iff.mp h
      rfl
  | bool v =>
      obtain rfl := deepEqual_bool_iff.mp h
      exact deepEqual_bool_iff.mpr rfl
  | number m =>
      obtain ⟨n, hn, heq⟩ := deepEqual_number_iff.mp h
      obtain rfl := number?_eq_some_iff.mp hn
      exact deepEqual_number_iff.mpr ⟨m, number?_ofNumber m, Number.equals_symm heq⟩
  | string s =>
      obtain rfl := deepEqual_string_iff.mp h
      exact deepEqual_string_iff.mpr rfl
  | array xs ih =>
      obtain ⟨ys, rfl, hall⟩ := deepEqual_array_iff.mp h
      refine deepEqual_array_iff.mpr ⟨xs, rfl, List.Forall₂.flip ?_⟩
      exact forall₂_imp_of_mem hall fun x hx _ _ hxy => ih x hx hxy
  | document xs ih =>
      obtain ⟨ys, rfl, hall⟩ := deepEqual_document_iff.mp h
      refine deepEqual_document_iff.mpr ⟨xs, rfl, List.Forall₂.flip ?_⟩
      exact forall₂_imp_of_mem hall fun x hx _ _ hxy => ⟨hxy.1.symm, ih x hx hxy.2⟩
  | rule label x =>
      obtain ⟨y, rfl⟩ := deepEqual_rule_iff.mp h
      exact deepEqual_rule_iff.mpr ⟨x, rfl⟩

/-- A tree is equal to itself unless NaN occurs in it; under a rule it does not occur. -/
theorem deepEqual_self_iff (a : Tree ρ) : a.deepEqual a = true ↔ ¬ (Tree.float .nan).OccursIn a := by
  induction a using Tree.induction with
  | null => exact iff_of_true rfl (by rintro ⟨⟩)
  | bool v => exact iff_of_true (deepEqual_bool_iff.mpr rfl) (by rintro ⟨⟩)
  | number n =>
      have hself : (ofNumber n : Tree ρ).deepEqual (ofNumber n : Tree ρ) = true ↔ n.equals n = true := by
        rw [deepEqual_number_iff, number?_ofNumber]
        simp
      rw [hself, Number.equals_self_iff]
      -- a number in which NaN occurs is NaN
      refine not_congr ⟨?_, fun h => ?_⟩
      · rintro rfl
        exact .here
      · cases n with
        | int i => cases h
        | float x =>
            cases h
            rfl
  | string s => exact iff_of_true (deepEqual_string_iff.mpr rfl) (by rintro ⟨⟩)
  | array items ih =>
      rw [deepEqual, deepEqualItems_iff, List.forall₂_same]
      constructor
      · rintro hall (_ | ⟨hmem, hnan⟩)
        exact (ih _ hmem).mp (hall _ hmem) hnan
      · exact fun hfree t ht => (ih t ht).mpr fun hnan => hfree (.item ht hnan)
  | document entries ih =>
      rw [deepEqual, deepEqualEntries_iff, List.forall₂_same]
      constructor
      · rintro hall (_ | _ | ⟨hmem, hnan⟩)
        exact (ih _ hmem).mp (hall _ hmem).2 hnan
      · exact fun hfree entry hentry =>
          ⟨rfl, (ih entry hentry).mpr fun hnan => hfree (.entry hentry hnan)⟩
  | rule label x => exact iff_of_true (deepEqual_rule_iff.mpr ⟨x, rfl⟩) (by rintro ⟨⟩)

/-- The hypotheses are about integers alone: the rest of equality is transitive as it stands. -/
theorem deepEqual_trans {a : Tree ρ} {b : Tree σ} {c : Tree τ} (ha : a.IntsWith ExactInt)
    (hb : b.IntsWith ExactInt) (hc : c.IntsWith ExactInt) (hab : a.deepEqual b = true)
    (hbc : b.deepEqual c = true) : a.deepEqual c = true := by
  induction a using Tree.induction generalizing b c with
  | null =>
      obtain rfl := deepEqual_null_iff.mp hab
      exact deepEqual_null_iff.mpr (deepEqual_null_iff.mp hbc)
  | bool v =>
      obtain rfl := deepEqual_bool_iff.mp hab
      exact deepEqual_bool_iff.mpr (deepEqual_bool_iff.mp hbc)
  | number m =>
      obtain ⟨n, hn, hmn⟩ := deepEqual_number_iff.mp hab
      obtain rfl := number?_eq_some_iff.mp hn
      obtain ⟨o, ho, hno⟩ := deepEqual_number_iff.mp hbc
      obtain rfl := number?_eq_some_iff.mp ho
      exact deepEqual_number_iff.mpr ⟨o, ho, Number.equals_trans ha.number hb.number hc.number hmn hno⟩
  | string s =>
      obtain rfl := deepEqual_string_iff.mp hab
      exact deepEqual_string_iff.mpr (deepEqual_string_iff.mp hbc)
  | array xs ih =>
      obtain ⟨ys, rfl, hxy⟩ := deepEqual_array_iff.mp hab
      obtain ⟨zs, rfl, hyz⟩ := deepEqual_array_iff.mp hbc
      -- the range is known of the elements of all three arrays
      have hxy' := forall₂_imp_of_mem hxy fun x _ y hy h => And.intro (hb.item y hy) h
      have hyz' := forall₂_imp_of_mem hyz fun y _ z hz h => And.intro (hc.item z hz) h
      refine deepEqual_array_iff.mpr ⟨zs, rfl, forall₂_trans_of_mem hxy' hyz' ?_⟩
      exact fun x hx y z hy hz => ih x hx (ha.item x hx) hy.1 hz.1 hy.2 hz.2
  | document xs ih =>
      obtain ⟨ys, rfl, hxy⟩ := deepEqual_document_iff.mp hab
      obtain ⟨zs, rfl, hyz⟩ := deepEqual_document_iff.mp hbc
      have hxy' := forall₂_imp_of_mem hxy fun x _ y hy h => And.intro (hb.entry y hy) h
      have hyz' := forall₂_imp_of_mem hyz fun y _ z hz h => And.intro (hc.entry z hz) h
      refine deepEqual_document_iff.mpr ⟨zs, rfl, forall₂_trans_of_mem hxy' hyz' ?_⟩
      exact fun x hx y z hy hz =>
        ⟨hy.2.1.trans hz.2.1, ih x hx (ha.entry x hx) hy.1 hz.1 hy.2.2 hz.2.2⟩
  | rule label x =>
      obtain ⟨y, rfl⟩ := deepEqual_rule_iff.mp hab
      exact deepEqual_rule_iff.mpr (deepEqual_rule_iff.mp hbc)

/-- **Structural equality is an equality** as far as numbers allow it. It does not depend on the order of the two
trees; a tree is equal to itself if no number in it is undefined, and only then; and with integers that binary64
keeps apart it is transitive. Where the comparison of leaves comes to an answer, the answer is that of structural
equality. -/
theorem deepEqual_laws (ρ σ τ : Type) :
    (∀ (a : Tree ρ) (b : Tree σ), a.deepEqual b = b.deepEqual a) ∧
    (∀ a : Tree ρ, a.deepEqual a = true ↔ ¬ (Tree.float .nan).OccursIn a) ∧
    (∀ (a : Tree ρ) (b : Tree σ) (c : Tree τ), a.IntsWith ExactInt → b.IntsWith ExactInt →
      c.IntsWith ExactInt → a.deepEqual b = true → b.deepEqual c = true → a.deepEqual c = true) ∧
    ∀ (a : Tree ρ) (b : Tree σ), a.compareScalars b ≠ .unrecognized →
      (a.compareScalars b = .equal ↔ a.deepEqual b = true) := by
  refine ⟨fun a b => ?_, deepEqual_self_iff, fun a b c => deepEqual_trans, fun a b hanswer => ?_⟩
  · exact Bool.eq_iff_iff.mpr ⟨deepEqual_symm, deepEqual_symm⟩
  · rw [deepEqual_of_recognized hanswer, beq_iff_eq]

end Tree

/-- Integers and binary64 numbers take turns at the ends of the range, beside a rule that is one object with
different things to show. -/
theorem deepEqual_laws_mixed :
    let a : Expected := .document [("n", .array [.int (2 ^ 53), .float (.ofInt (-3))]), ("r", .rule [0] .any)]
    let b : Value := .document [("n", .array [.float (.ofInt (2 ^ 53)), .int (-3)]), ("r", .rule [0] "Any")]
    let c : Value := .document [("n", .array [.int (2 ^ 53), .int (-3)]), ("r", .rule [0] "")]
    a.deepEqual b = true ∧ b.deepEqual c = true ∧ a.deepEqual c = true ∧
      (Tree.int 1 : Expected).deepEqual (.float (.ofInt 1) : Value) = true := by
  intro a b c
  have hexact : ∀ {ρ : Type} (x y : Tree ρ) (content : ρ), x.IntsWith ExactInt → y.IntsWith ExactInt →
      (Tree.document [("n", .array [x, y]), ("r", .rule [0] content)]).IntsWith ExactInt := by
    rintro ρ x y content hx hy i (_ | _ | ⟨hmem, h⟩)
    simp only [List.mem_cons, List.not_mem_nil, or_false] at hmem
    rcases hmem with rfl | rfl
    · obtain _ | ⟨hmem, h⟩ := h
      simp only [List.mem_cons, List.not_mem_nil, or_false] at hmem
      rcases hmem with rfl | rfl
      · exact hx i h
      · exact hy i h
    · cases h
  have hint : ∀ {ρ : Type} (i : Int), ExactInt i → (Tree.int i : Tree ρ).IntsWith ExactInt := by
    rintro ρ i hi _ ⟨⟩
    exact hi
  have hfloat : ∀ {ρ : Type} (x : Binary64), (Tree.float x : Tree ρ).IntsWith ExactInt := nofun
  have hbig : ExactInt (2 ^ 53) := ⟨by decide, by decide⟩
  have hsmall : ExactInt (-3) := ⟨by decide, by decide⟩
  have hab : a.deepEqual b = true := by decide
  have hbc : b.deepEqual c = true := by decide
  obtain ⟨-, -, htrans, hscalars⟩ := Tree.deepEqual_laws Rule String String
  refine ⟨hab, hbc, htrans a b c ?_ ?_ ?_ hab hbc, (hscalars _ _ (by decide)).mp (by decide)⟩
  · exact hexact _ _ _ (hint _ hbig) (hfloat _)
  · exact hexact _ _ _ (hfloat _) (hint _ hsmall)
  · exact hexact _ _ _ (hint _ hbig) (hint _ hsmall)

/-- Beyond the range two integers are equal to one binary64 number and not to one another. -/
example :
    let a : Value := .int (2 ^ 53 + 1)
    let b : Value := .float (.ofInt (2 ^ 53))
    let c : Value := .int (2 ^ 53)
    a.deepEqual b = true ∧ b.deepEqual c = true ∧ a.deepEqual c = false := by decide

end Conformance
