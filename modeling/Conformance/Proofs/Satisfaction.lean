import Conformance.Proofs.Builtin
import Conformance.Proofs.Checks

/-!
# Satisfaction

`Sat e a` says what it means for a value `a` to satisfy an expected tree `e`, in terms of the two alone. It
is defined by recursion on the tree and not as an inductive relation, since a `nor` or a `not` asks that its
operands are *not* satisfied. The main statement is that a tester accepts a value exactly if it satisfies
the tree, whatever the options of the tester.
-/

set_option autoImplicit false

namespace Conformance

/-- How a number that is strictly within a bound compares with the reference. -/
def Direction.order : Direction → Ordering
  | .below => .lt
  | .above => .gt

namespace Sat

/-! ## What is asked of a value, given what is asked of its parts -/

/-- The first entry with each expected key is as it should be. -/
def Entries (expected : List (String × (Value → Prop))) (actual : List (String × Value)) : Prop :=
  ∀ p ∈ expected, ∃ v, lookup p.1 actual = some v ∧ p.2 v

/-- In turn, each expectation claims the first value that meets it, among those not claimed yet. -/
inductive Claims : List (Value → Prop) → List Value → Prop where
  | nil (values : List Value) : Claims [] values
  | cons {p : Value → Prop} {rest : List (Value → Prop)} {before after : List Value} {v : Value}
      (hbefore : ∀ x ∈ before, ¬ p x) (hclaim : p v) (hrest : Claims rest (before ++ after)) :
      Claims (p :: rest) (before ++ v :: after)

def Bounds (b : LengthBounds) (n : Nat) : Prop :=
  (∀ m, b.eq = some m → n = m) ∧ (∀ m, b.lt = some m → n < m) ∧ (∀ m, b.lte = some m → n ≤ m) ∧
    (∀ m, b.gt = some m → m < n) ∧ (∀ m, b.gte = some m → m ≤ n)

/-- The number is on the side of the reference that is asked for, or equal to it where that is enough. -/
def Within (b : NumericBound) (n : Number) : Prop :=
  n.compare b.reference = some b.direction.order ∨ b.inclusive = true ∧ n.compare b.reference = some .eq

end Sat

/-! ## Satisfaction of trees -/

mutual

/-- The value satisfies the expected tree. -/
def Sat : Expected → Value → Prop
  | .document entries, a => ∃ actual, a = .document actual ∧ Sat.Entries (satEntries entries) actual
  | .array items, a => ∃ actual, a = .array actual ∧ List.Forall₂ (fun p v => p v) (satItems items) actual
  | .rule _ r, a => SatRule r a
  | .null, a => (.null : Expected).deepEqual a = true
  | .bool b, a => (.bool b : Expected).deepEqual a = true
  | .int i, a => (.int i : Expected).deepEqual a = true
  | .float x, a => (.float x : Expected).deepEqual a = true
  | .string s, a => (.string s : Expected).deepEqual a = true

def satEntries : List (String × Expected) → List (String × (Value → Prop))
  | [] => []
  | (key, e) :: rest => (key, Sat e) :: satEntries rest

def satItems : List Expected → List (Value → Prop)
  | [] => []
  | e :: rest => Sat e :: satItems rest

/-- The value satisfies the rule. Of custom rules nothing is said. -/
def SatRule : Rule → Value → Prop
  | .equal (.document entries), a =>
    ∃ actual, a = .document actual ∧ Sat.Entries (satEntries entries) actual ∧
      ∀ entry ∈ actual, ∃ p ∈ satEntries entries, p.1 = entry.1
  | .equal e, a => Sat e a
  | .notEqual e, a => e.deepEqual a = false
  | .nil target explicit, a => if explicit then a.isNull = target else a.isNull ≠ target
  | .required, a => a.isZero = false
  | .any, _ => True
  | .empty want, a => a.isEmpty = want
  | .pattern p, a => ∃ s, a = .string s ∧ p.matchesIn s = true
  | .elementsMatch es, a =>
    ∃ values, a = .array values ∧ values.length = es.length ∧ Sat.Claims (satItems es) values
  | .length bounds, a => ∃ n, a.length? = some n ∧ Sat.Bounds bounds n
  | .inSet es, a => ∃ p ∈ satItems es, p a
  | .numeric bound, a => ∃ n, a.number? = some n ∧ Sat.Within bound n
  | .and es, a => ∀ p ∈ satItems es, p a
  | .or es, a => ∃ p ∈ satItems es, p a
  | .nor es, a => ∀ p ∈ satItems es, ¬ p a
  | .not e, a => ¬ Sat e a
  | .custom _ _, _ => False

end

theorem satEntries_eq_map (es : List (String × Expected)) :
    satEntries es = es.map fun entry => (entry.1, Sat entry.2) := by
  induction es with
  | nil => rfl
  | cons entry rest ih => rw [satEntries, ih, List.map_cons]

theorem satItems_eq_map (es : List Expected) : satItems es = es.map Sat := by
  induction es with
  | nil => rfl
  | cons e rest ih => rw [satItems, ih, List.map_cons]

/-! ## Equality of leaves -/

/-- Where the comparison of leaves has an answer, it is that of structural equality. -/
theorem deepEqual_of_recognized {ρ σ : Type} {e : Tree ρ} {a : Tree σ}
    (h : e.compareScalars a ≠ .unrecognized) : e.deepEqual a = (e.compareScalars a == .equal) := by
  cases e with
  | null => exact absurd rfl h
  | array items => exact absurd rfl h
  | document entries => exact absurd rfl h
  | rule label r => exact absurd rfl h
  | bool b => rw [Tree.deepEqual] <;> nofun
  | int i => rw [Tree.deepEqual] <;> nofun
  | float x => rw [Tree.deepEqual] <;> nofun
  | string s => rw [Tree.deepEqual] <;> nofun

theorem deepEqual_of_equal {e : Expected} {a : Value} (h : e.compareScalars a = .equal) :
    e.deepEqual a = true := by
  rw [deepEqual_of_recognized (by rw [h]; nofun), h]
  rfl

theorem deepEqual_of_differs {e : Expected} {a : Value} {message : String}
    (h : e.compareScalars a = .differs message) : e.deepEqual a = false := by
  rw [deepEqual_of_recognized (by rw [h]; nofun), h]
  rfl

/-- A leaf is compared twice, by value where that has an answer and by structure where not; it comes to
structural equality. -/
theorem alone_leaf_eq_nil_iff (e : Expected) (a : Value) :
    Find.alone (Check.leaf e) a = [] ↔ e.deepEqual a = true := by
  unfold Find.alone Check.leaf
  cases h : e.compareScalars a with
  | equal => simp [deepEqual_of_equal h]
  | differs message => simp [deepEqual_of_differs h]
  | unrecognized =>
      dsimp only
      split
      · rename_i heq
        simp [heq]
      · rename_i hne
        simpa using hne

/-- `$ne` makes the same two comparisons as a leaf, with the opposite aim. -/
theorem alone_notEqual_eq_nil_iff (e : Expected) (a : Value) :
    Find.alone (Check.notEqual e) a = [] ↔ e.deepEqual a = false := by
  unfold Find.alone Check.notEqual
  cases h : e.compareScalars a with
  | equal => simp [deepEqual_of_equal h]
  | differs message => simp [deepEqual_of_differs h]
  | unrecognized =>
      dsimp only
      split
      · rename_i heq
        simp [heq]
      · rename_i hne
        simpa using hne

/-! ## Rules without operands -/

theorem alone_nil_eq_nil_iff (target explicit : Bool) (a : Value) :
    Find.alone (Check.nil target explicit) a = []
      ↔ if explicit then a.isNull = target else a.isNull ≠ target := by
  unfold Find.alone Check.nil
  cases explicit <;> cases target <;> cases a.isNull <;> simp

theorem alone_required_eq_nil_iff (a : Value) :
    Find.alone Check.required a = [] ↔ a.isZero = false := by
  unfold Find.alone Check.required
  cases a.isZero <;> simp

theorem alone_empty_eq_nil_iff (want : Bool) (a : Value) :
    Find.alone (Check.empty want) a = [] ↔ a.isEmpty = want := by
  unfold Find.alone Check.empty
  cases want <;> cases a.isEmpty <;> simp

theorem alone_pattern_eq_nil_iff (p : Pattern) (a : Value) :
    Find.alone (Check.pattern p) a = [] ↔ ∃ s, a = .string s ∧ p.matchesIn s = true := by
  unfold Find.alone Check.pattern
  cases a with
  | string s => cases hmatch : p.matchesIn s <;> simp [Tree.string?, hmatch]
  | _ => simp [Tree.string?]

/-- A bound admits the numbers on its side of the reference: without an order, as with NaN, none at all. -/
theorem NumericBound.admits_iff (b : NumericBound) (n : Number) : b.admits n = true ↔ Sat.Within b n := by
  obtain ⟨r, direction, inclusive⟩ := b
  unfold admits Sat.Within
  dsimp only
  cases n.compare r with
  | none => simp
  | some order => cases order <;> cases direction <;> simp [Direction.order]

theorem alone_numeric_eq_nil_iff (bound : NumericBound) (a : Value) :
    Find.alone (Check.numeric bound) a = [] ↔ ∃ n, a.number? = some n ∧ Sat.Within bound n := by
  unfold Find.alone Check.numeric
  cases a.number? with
  | none => simp
  | some n => cases hadmits : bound.admits n <;> simp [← NumericBound.admits_iff, hadmits]

theorem lengthBound_eq_nil_iff (n : Nat) (t : Check.LengthTest) :
    Find.lengthBound n t = [] ↔ ∀ m, t.bound = some m → t.holds n m = true := by
  unfold Find.lengthBound
  cases t.bound with
  | none => simp
  | some m => cases hholds : t.holds n m <;> simp [hholds]

/-- The tests of a length are its five bounds. -/
theorem length_eq_nil_iff (bounds : LengthBounds) (a : Value) :
    Find.length bounds a = [] ↔ ∃ n, a.length? = some n ∧ Sat.Bounds bounds n := by
  unfold Find.length
  cases a.length? with
  | none => simp
  | some n =>
      simp only [List.flatMap_eq_nil_iff, lengthBound_eq_nil_iff, Check.lengthTests, Sat.Bounds,
        List.forall_mem_cons]
      simp

/-! ## Documents and arrays

In what follows `find` and `sat` are what is found and what is asked for at each of several trees, and the
hypothesis says that they agree. -/

section Parts

variable {find : Expected → Finder} {sat : Expected → Value → Prop}

/-- Nothing is found at the entries if each key is there, with a first value as it is asked for. -/
theorem entries_eq_nil_iff {es : List (String × Expected)} {actual : List (String × Value)}
    (h : ∀ entry ∈ es, ∀ v, find entry.2 v = [] ↔ sat entry.2 v) :
    (es.map fun entry => (entry.1, find entry.2)).flatMap (Find.entry actual) = []
      ↔ Sat.Entries (es.map fun entry => (entry.1, sat entry.2)) actual := by
  simp only [List.flatMap_eq_nil_iff, Sat.Entries, List.forall_mem_map]
  refine forall_congr' fun entry => imp_congr_right fun hmem => ?_
  rw [Find.entry]
  cases lookup entry.1 actual with
  | none => simp [Find.missing]
  | some v => simp [below, h entry hmem v]

theorem document_eq_nil_iff {es : List (String × Expected)}
    (h : ∀ entry ∈ es, ∀ v, find entry.2 v = [] ↔ sat entry.2 v) (a : Value) :
    Find.document (es.map fun entry => (entry.1, find entry.2)) a = []
      ↔ ∃ actual, a = .document actual ∧
        Sat.Entries (es.map fun entry => (entry.1, sat entry.2)) actual := by
  cases a with
  | document actual =>
      rw [Find.document, entries_eq_nil_iff h]
      simp
  | _ => exact iff_of_false (Find.here_ne_nil _) (by simp)

theorem elements_eq_nil_iff (position : Nat) {es : List Expected} {values : List Value}
    (h : ∀ e ∈ es, ∀ v, find e v = [] ↔ sat e v) (hlength : es.length = values.length) :
    Find.elements position (es.map find) values = []
      ↔ List.Forall₂ (fun p v => p v) (es.map sat) values := by
  induction es generalizing position values with
  | nil =>
      cases values with
      | nil => simp [Find.elements]
      | cons v values => simp at hlength
  | cons e rest ih =>
      cases values with
      | nil => simp at hlength
      | cons v values =>
          have hrest := ih (position + 1) (fun e he => h e (List.mem_cons_of_mem _ he))
            (Nat.succ.inj hlength)
          have hfirst := h e List.mem_cons_self v
          rw [List.map_cons, List.map_cons, List.forall₂_cons, ← hrest, ← hfirst]
          simp [Find.elements, below]

theorem array_eq_nil_iff {es : List Expected} (h : ∀ e ∈ es, ∀ v, find e v = [] ↔ sat e v)
    (a : Value) : Find.array (es.map find) a = []
      ↔ ∃ actual, a = .array actual ∧ List.Forall₂ (fun p v => p v) (es.map sat) actual := by
  cases a with
  | array values =>
      rw [Find.array, List.length_map]
      by_cases hlength : es.length = values.length
      · rw [if_pos hlength, elements_eq_nil_iff 0 h hlength]
        simp
      · rw [if_neg hlength]
        refine iff_of_false (Find.here_ne_nil _) ?_
        rintro ⟨_, heq, hall⟩
        cases heq
        exact hlength (by simpa using hall.length_eq)
  | _ => exact iff_of_false (Find.here_ne_nil _) (by simp)

/-- A document has no key that is not among the known ones. -/
theorem extraKeys_eq_nil_iff (known : List String) (actual : List (String × Value)) :
    Check.extraKeys known actual = [] ↔ ∀ entry ∈ actual, entry.1 ∈ known := by
  induction actual generalizing known with
  | nil => simp [Check.extraKeys]
  | cons entry rest ih =>
      rw [Check.extraKeys]
      by_cases hknown : entry.1 ∈ known
      · simp [hknown, ih]
      · simp [hknown]

theorem extras_eq_nil_iff (known : List String) (actual : List (String × Value)) :
    (Check.extraKeys known actual).flatMap Find.extra = []
      ↔ ∀ entry ∈ actual, entry.1 ∈ known := by
  rw [← extraKeys_eq_nil_iff]
  cases Check.extraKeys known actual with
  | nil => simp
  | cons key rest => simp [Find.extra]

theorem strictDocument_eq_nil_iff {es : List (String × Expected)}
    (h : ∀ entry ∈ es, ∀ v, find entry.2 v = [] ↔ sat entry.2 v) (a : Value) :
    Find.strictDocument (es.map fun entry => (entry.1, find entry.2)) a = []
      ↔ ∃ actual, a = .document actual ∧
        Sat.Entries (es.map fun entry => (entry.1, sat entry.2)) actual ∧
        ∀ entry ∈ actual, ∃ p ∈ es.map fun entry => (entry.1, sat entry.2), p.1 = entry.1 := by
  cases a with
  | document actual =>
      rw [Find.strictDocument, List.append_eq_nil_iff, entries_eq_nil_iff h, extras_eq_nil_iff]
      simp
  | _ => exact iff_of_false (Find.here_ne_nil _) (by simp)

/-! ## Rules with operands -/

/-- What is left when a value is claimed: all values but the first that is accepted. -/
theorem claim_eq_some_iff {f : Finder} {values left : List Value} :
    Find.claim f values = some left ↔ ∃ before v after, values = before ++ v :: after ∧
      left = before ++ after ∧ (∀ x ∈ before, f x ≠ []) ∧ f v = [] := by
  induction values generalizing left with
  | nil => simp [Find.claim]
  | cons value rest ih =>
      rw [Find.claim]
      by_cases haccepts : f value = []
      · rw [if_pos (accepts_iff.mpr haccepts), Option.some.injEq]
        constructor
        · rintro rfl
          exact ⟨[], value, rest, rfl, rfl, by simp, haccepts⟩
        · rintro ⟨before, v, after, hsplit, rfl, hbefore, -⟩
          -- the first value is accepted, so that no value can stand before the one claimed
          cases before with
          | nil => exact (List.cons.inj hsplit).2
          | cons x before =>
              have hx : value = x := (List.cons.inj hsplit).1
              exact absurd (hx ▸ haccepts) (hbefore x List.mem_cons_self)
      · rw [if_neg (fun h => haccepts (accepts_iff.mp h)), Option.map_eq_some_iff]
        constructor
        · rintro ⟨left', hclaim, rfl⟩
          obtain ⟨before, v, after, rfl, rfl, hbefore, hv⟩ := ih.mp hclaim
          refine ⟨value :: before, v, after, rfl, rfl, ?_, hv⟩
          rw [List.forall_mem_cons]
          exact ⟨haccepts, hbefore⟩
        · rintro ⟨before, v, after, hsplit, rfl, hbefore, hv⟩
          cases before with
          | nil =>
              have hvalue : value = v := (List.cons.inj hsplit).1
              exact absurd (hvalue ▸ hv) haccepts
          | cons x before =>
              obtain ⟨rfl, rfl⟩ := List.cons.inj hsplit
              rw [List.forall_mem_cons] at hbefore
              exact ⟨before ++ after, ih.mpr ⟨before, v, after, rfl, rfl, hbefore.2, hv⟩, rfl⟩

/-- Nothing is found if each operand in turn finds a value to claim. -/
theorem claimAll_eq_nil_iff {es : List Expected} {values : List Value} {text : Expected → String}
    (h : ∀ e ∈ es, ∀ v, find e v = [] ↔ sat e v) :
    Find.claimAll (es.map fun e => (text e, find e)) values = []
      ↔ Sat.Claims (es.map sat) values := by
  induction es generalizing values with
  | nil => exact ⟨fun _ => .nil values, fun _ => rfl⟩
  | cons e rest ih =>
      have hfirst := h e List.mem_cons_self
      have hrest := fun values => @ih values fun e he => h e (List.mem_cons_of_mem _ he)
      rw [List.map_cons, List.map_cons, Find.claimAll]
      constructor
      · intro hnil
        cases hclaim : Find.claim (find e) values with
        | none => simp [hclaim] at hnil
        | some left =>
            rw [hclaim] at hnil
            obtain ⟨before, v, after, rfl, rfl, hbefore, hv⟩ := claim_eq_some_iff.mp hclaim
            -- the values before the one that is claimed find something in the operand, so that none of them
            -- satisfies it
            exact .cons (fun x hx hsat => hbefore x hx ((hfirst x).mpr hsat)) ((hfirst v).mp hv)
              ((hrest _).mp hnil)
      · intro hclaims
        cases hclaims with
        | @cons _ _ before after v hbefore hv hleft =>
            have hclaim : Find.claim (find e) (before ++ v :: after) = some (before ++ after) :=
              claim_eq_some_iff.mpr ⟨before, v, after, rfl, rfl,
                fun x hx hnil => hbefore x hx ((hfirst x).mp hnil), (hfirst v).mpr hv⟩
            rw [hclaim]
            exact (hrest _).mpr hleft

theorem elementsMatch_eq_nil_iff {es : List Expected} {text : Expected → String}
    (h : ∀ e ∈ es, ∀ v, find e v = [] ↔ sat e v) (a : Value) :
    Find.elementsMatch (es.map fun e => (text e, find e)) a = []
      ↔ ∃ values, a = .array values ∧ values.length = es.length ∧
        Sat.Claims (es.map sat) values := by
  cases a with
  | array values =>
      rw [Find.elementsMatch, List.length_map]
      by_cases hlength : values.length = es.length
      · rw [if_pos hlength, claimAll_eq_nil_iff h]
        simp [hlength]
      · rw [if_neg hlength]
        refine iff_of_false (Find.here_ne_nil _) ?_
        rintro ⟨_, heq, hsame, -⟩
        cases heq
        exact hlength hsame
  | _ => exact iff_of_false (Find.here_ne_nil _) (by simp)

theorem any_accepts_iff {es : List Expected} {a : Value} (h : ∀ e ∈ es, ∀ v, find e v = [] ↔ sat e v) :
    (es.any fun e => Find.accepts (find e) a) = true ↔ ∃ p ∈ es.map sat, p a := by
  rw [List.any_eq_true]
  constructor
  · rintro ⟨e, he, haccepts⟩
    exact ⟨sat e, List.mem_map_of_mem he, (h e he a).mp (accepts_iff.mp haccepts)⟩
  · rintro ⟨p, hp, hsat⟩
    obtain ⟨e, he, rfl⟩ := List.mem_map.mp hp
    exact ⟨e, he, accepts_iff.mpr ((h e he a).mpr hsat)⟩

theorem inSet_eq_nil_iff {es : List Expected} {text : Expected → String}
    (h : ∀ e ∈ es, ∀ v, find e v = [] ↔ sat e v) (a : Value) :
    Find.inSet (es.map fun e => (text e, find e)) a = [] ↔ ∃ p ∈ es.map sat, p a := by
  rw [← any_accepts_iff h, Find.inSet, List.any_map]
  by_cases hany : (es.any fun e => Find.accepts (find e) a) = true
  · exact iff_of_true (if_pos hany) hany
  · refine iff_of_false ?_ hany
    rw [if_neg (by exact hany)]
    exact Find.here_ne_nil _

/-- The positions count for the messages only. -/
theorem nor_eq_nil_iff (position : Nat) (fs : List Finder) (a : Value) :
    Find.nor position fs a = [] ↔ fs.any (Find.accepts · a) = false := by
  induction fs generalizing position with
  | nil => simp [Find.nor]
  | cons f rest ih =>
      have hrest := ih (position + 1)
      unfold Find.nor at hrest ⊢
      rw [List.zipIdx_cons, List.flatMap_cons, List.any_cons, List.append_eq_nil_iff, hrest]
      dsimp only
      cases Find.accepts f a with
      | true => simp
      | false => simp

end Parts

/-! ## The main statement -/

/-- Strict equality is stricter for documents alone. -/
theorem sat_same {e : Expected} (hshape : ∀ entries, e ≠ .document entries) (label : Label)
    (a : Value) : Sat (.rule label (.equal e)) a = Sat e a := by
  cases e with
  | document entries => exact absurd rfl (hshape entries)
  | _ => rfl

/-- In either mode there is nothing to find exactly where a value satisfies the tree. -/
theorem findTree_eq_nil_iff {e : Expected} (h : Builtin e) (k : Bool) (a : Value) :
    findTree k e a = [] ↔ Sat e a := by
  induction h generalizing a with
  | null => exact alone_leaf_eq_nil_iff .null a
  | bool b => exact alone_leaf_eq_nil_iff (.bool b) a
  | int i => exact alone_leaf_eq_nil_iff (.int i) a
  | float x => exact alone_leaf_eq_nil_iff (.float x) a
  | string s => exact alone_leaf_eq_nil_iff (.string s) a
  | array _ ih =>
      rw [findTree, Sat, findItems_eq_map, satItems_eq_map]
      exact array_eq_nil_iff ih a
  | document _ ih =>
      rw [findTree, Sat, findEntries_eq_map, satEntries_eq_map]
      exact document_eq_nil_iff ih a
  | strict label _ ih =>
      rw [findTree, findRule, Sat, SatRule, findEntries_eq_map, satEntries_eq_map]
      exact strictDocument_eq_nil_iff ih a
  | same label hshape _ ih => rw [findTree_same hshape, sat_same hshape, ih a]
  | notEqual label e => exact alone_notEqual_eq_nil_iff e a
  | nil label target explicit => exact alone_nil_eq_nil_iff target explicit a
  | required label => exact alone_required_eq_nil_iff a
  | any label => exact iff_of_true rfl trivial
  | empty label want => exact alone_empty_eq_nil_iff want a
  | pattern label p => exact alone_pattern_eq_nil_iff p a
  | elementsMatch label _ ih =>
      rw [findTree, findRule, Sat, SatRule, findOperands_eq_map, satItems_eq_map]
      exact elementsMatch_eq_nil_iff ih a
  | length label bounds => exact length_eq_nil_iff bounds a
  | inSet label _ ih =>
      rw [findTree, findRule, Sat, SatRule, findOperands_eq_map, satItems_eq_map]
      exact inSet_eq_nil_iff ih a
  | numeric label bound => exact alone_numeric_eq_nil_iff bound a
  | @and label es _ ih =>
      rw [findTree, findRule, Sat, SatRule, findItems_eq_map, satItems_eq_map, Find.and]
      simp only [List.flatMap_eq_nil_iff, List.forall_mem_map]
      exact forall_congr' fun e => imp_congr_right fun he => ih e he a
  | or label _ ih =>
      rw [findTree, findRule, Sat, SatRule, findItems_eq_map, satItems_eq_map, or_eq_nil_iff,
        List.any_map]
      exact any_accepts_iff ih
  | @nor label es _ ih =>
      rw [findTree, findRule, Sat, SatRule, findItems_eq_map, satItems_eq_map, nor_eq_nil_iff,
        List.any_map]
      have hany : (es.any fun e => Find.accepts (findTree k e) a) = true
          ↔ ∃ p ∈ es.map Sat, p a := any_accepts_iff ih
      rw [← Bool.not_eq_true]
      refine (not_congr hany).trans ?_
      simp
  | not label _ ih =>
      rw [findTree, findRule, Sat, SatRule, Find.not, ← ih a, ← accepts_iff]
      split
      · rename_i haccepts
        simp [haccepts]
      · rename_i hno
        simp [hno]

namespace Tester

/-- The tester accepts what satisfies the tree. -/
theorem test_eq_ok_of_sat {e : Expected} (hbuiltin : Builtin e) {a : Value} (h : Sat e a) (t : Tester) :
    (t.test e a).1 = .ok () := by
  rw [test_eq_verdict, verdict_eq_ok_iff]
  exact (findTree_eq_nil_iff hbuiltin t.options.collectAll a).mpr h

/-- What the tester accepts satisfies the tree. -/
theorem sat_of_test_eq_ok {e : Expected} (hbuiltin : Builtin e) {a : Value} {t : Tester}
    (h : (t.test e a).1 = .ok ()) : Sat e a := by
  rw [test_eq_verdict, verdict_eq_ok_iff] at h
  exact (findTree_eq_nil_iff hbuiltin t.options.collectAll a).mp h

end Tester

/-- **A tester accepts exactly the values that satisfy the expected tree**, in either mode and with any
threshold. -/
theorem Tester.test_eq_ok_iff_sat {e : Expected} (h : Builtin e) (t : Tester) (a : Value) :
    (t.test e a).1 = .ok () ↔ Sat e a := by
  rw [Tester.test_eq_verdict, verdict_eq_ok_iff]
  exact findTree_eq_nil_iff h t.options.collectAll a

/-- Every expected entry is held against the first entry with its key. -/
theorem test_ok_of_repeated_key :
    ((Tester.ofOptions { threshold := 0 }).test
      (.document [("a", .rule [0] (.not .null)), ("a", .rule [1] (.or [.bool true, .rule [2] .any]))])
      (.document [("a", .bool false), ("a", .null)])).1 = .ok () := by
  refine (Tester.test_eq_ok_iff_sat (.document fun entry hmem => ?_) _ _).mpr ?_
  · simp only [List.mem_cons, List.not_mem_nil, or_false] at hmem
    rcases hmem with rfl | rfl
    · exact .not [0] .null
    · refine .or [1] fun e he => ?_
      simp only [List.mem_cons, List.not_mem_nil, or_false] at he
      rcases he with rfl | rfl
      · exact .bool true
      · exact .any [2]
  · refine ⟨_, rfl, fun p hp => ?_⟩
    simp only [satEntries, List.mem_cons, List.not_mem_nil, or_false] at hp
    rcases hp with rfl | rfl
    · refine ⟨.bool false, rfl, ?_⟩
      show ¬ Tree.deepEqual _ _ = true
      decide
    · exact ⟨.bool false, rfl, Sat (.rule [2] .any), by simp [satItems], trivial⟩

end Conformance
