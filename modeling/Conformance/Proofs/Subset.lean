import Conformance.Proofs.DeepEquality
import Conformance.Proofs.ExactIntegers
import Mathlib.Logic.Relation

/-!
# Satisfaction composes

Further keys of a document do no harm to an expected tree without strict parts (`Lenient`): what it asks for can
be met by a value with less in it. So if one value satisfies such a tree, and a second value satisfies the first,
then the second satisfies the tree; and so does a value to which keys have been added.

Both are cases of one argument. `Kept P R v w` says that `w` keeps what a lenient tree can ask of `v`: documents
keep what is found under their keys, arrays their elements, up to the relation `R`, and numbers the way in which
they compare with the references of the tree, whose integers have the property `P`. A relation with which values
are kept hands satisfaction on (`sat_of_kept`), by induction on the tree.
-/

set_option autoImplicit false

namespace Conformance

/-! ## Trees that do not mind further keys -/

/-- No part of the tree asks for the absence of something. All integers in it have the property `P`. -/
inductive Lenient (P : Int → Prop) : Expected → Prop where
  | null : Lenient P .null
  | bool (b : Bool) : Lenient P (.bool b)
  | int {i : Int} (h : P i) : Lenient P (.int i)
  | float (x : Binary64) : Lenient P (.float x)
  | string (s : String) : Lenient P (.string s)
  | array {items : List Expected} (h : ∀ e ∈ items, Lenient P e) : Lenient P (.array items)
  | document {entries : List (String × Expected)} (h : ∀ entry ∈ entries, Lenient P entry.2) :
      Lenient P (.document entries)
  | any (label : Label) : Lenient P (.rule label .any)
  | nil (label : Label) (target explicit : Bool) : Lenient P (.rule label (.nil target explicit))
  | required (label : Label) : Lenient P (.rule label .required)
  | nonEmpty (label : Label) : Lenient P (.rule label (.empty false))
  | pattern (label : Label) (p : Pattern) : Lenient P (.rule label (.pattern p))
  | numeric (label : Label) {bound : NumericBound} (h : bound.reference.IntWith P) :
      Lenient P (.rule label (.numeric bound))
  | inSet (label : Label) {es : List Expected} (h : ∀ e ∈ es, Lenient P e) :
      Lenient P (.rule label (.inSet es))
  | and (label : Label) {es : List Expected} (h : ∀ e ∈ es, Lenient P e) : Lenient P (.rule label (.and es))
  | or (label : Label) {es : List Expected} (h : ∀ e ∈ es, Lenient P e) : Lenient P (.rule label (.or es))

theorem Lenient.builtin {P : Int → Prop} {e : Expected} (h : Lenient P e) : Builtin e := by
  induction h with
  | null => exact .null
  | bool b => exact .bool b
  | @int i _ => exact .int i
  | float x => exact .float x
  | string s => exact .string s
  | array _ ih => exact .array ih
  | document _ ih => exact .document ih
  | any label => exact .any label
  | nil label target explicit => exact .nil label target explicit
  | required label => exact .required label
  | nonEmpty label => exact .empty label false
  | pattern label p => exact .pattern label p
  | @numeric label bound _ => exact .numeric label bound
  | inSet label _ ih => exact .inSet label ih
  | and label _ ih => exact .and label ih
  | or label _ ih => exact .or label ih

/-- The tree has no rules in it, and all its integers have the property `P`. -/
inductive Tree.Plain {ρ : Type} (P : Int → Prop) : Tree ρ → Prop where
  | null : Plain P .null
  | bool (b : Bool) : Plain P (.bool b)
  | int {i : Int} (h : P i) : Plain P (.int i)
  | float (x : Binary64) : Plain P (.float x)
  | string (s : String) : Plain P (.string s)
  | array {items : List (Tree ρ)} (h : ∀ t ∈ items, Plain P t) : Plain P (.array items)
  | document {entries : List (String × Tree ρ)} (h : ∀ entry ∈ entries, Plain P entry.2) :
      Plain P (.document entries)

namespace Tree.Plain

variable {ρ : Type} {P : Int → Prop}

theorem builtin {e : Expected} (h : e.Plain P) : Builtin e := by
  induction h with
  | null => exact .null
  | bool b => exact .bool b
  | @int i _ => exact .int i
  | float x => exact .float x
  | string s => exact .string s
  | array _ ih => exact .array ih
  | document _ ih => exact .document ih

theorem item {items : List (Tree ρ)} (h : (Tree.array items).Plain P) : ∀ t ∈ items, t.Plain P := by
  cases h
  assumption

theorem entry {entries : List (String × Tree ρ)} (h : (Tree.document entries).Plain P) :
    ∀ entry ∈ entries, entry.2.Plain P := by
  cases h
  assumption

theorem number {t : Tree ρ} (h : t.Plain P) {n : Number} (hn : t.number? = some n) : n.IntWith P := by
  cases h with
  | int hi =>
      cases hn
      exact hi
  | float x =>
      cases hn
      trivial
  | _ => cases hn

end Tree.Plain

/-! ## What is kept -/

/-- The two numbers compare alike with every other one whose integers have the property `P`. -/
def Number.Alike (P : Int → Prop) (m n : Number) : Prop :=
  ∀ other : Number, other.IntWith P → m.compare other = n.compare other

/-- The second value keeps what a lenient tree can ask of the first, if related values do. -/
inductive Kept (P : Int → Prop) (R : Value → Value → Prop) : Value → Value → Prop where
  | number {v w : Value} {m n : Number} (hv : v.number? = some m) (hw : w.number? = some n)
      (h : m.Alike P n) : Kept P R v w
  | array {xs ys : List Value} (h : List.Forall₂ R xs ys) : Kept P R (.array xs) (.array ys)
  | document {xs ys : List (String × Value)}
      (h : ∀ key v, lookup key xs = some v → ∃ w, lookup key ys = some w ∧ R v w) :
      Kept P R (.document xs) (.document ys)
  /-- All other values are kept as they are. -/
  | other {v : Value} (hnumber : v.number? = none) (hlength : v.length? = none) : Kept P R v v

/-- Whether a number is a zero is a matter of comparing it with one. -/
theorem Tree.isZero_ofNumber (n : Number) : (Tree.ofNumber n : Value).isZero = n.equals (.int 0) := by
  rw [Bool.eq_iff_iff, Number.equals_iff]
  cases n with
  | int i => simp [Tree.ofNumber, Tree.isZero, Number.compare]
  | float x =>
      have hzero : (Binary64.ofInt 0).rank = some 0 := by decide
      simp [Tree.ofNumber, Tree.isZero, Binary64.isZero, Number.compare, Number.toBinary64,
        Binary64.compare_eq_some_eq_iff, hzero]

namespace Kept

variable {P : Int → Prop} {R : Value → Value → Prop} {v w : Value}

/-- What is neither a number nor has elements or entries is the same. -/
theorem eq_of_other (h : Kept P R v w) (hnumber : v.number? = none) (hlength : v.length? = none) :
    w = v := by
  cases h with
  | number hv _ _ =>
      rw [hnumber] at hv
      cases hv
  | array _ => cases hlength
  | document _ => cases hlength
  | other _ _ => rfl

theorem isNull_eq (h : Kept P R v w) : w.isNull = v.isNull := by
  cases h with
  | number hv hw _ =>
      rw [Tree.number?_eq_some_iff] at hv hw
      subst hv hw
      rename_i m n _
      cases m <;> cases n <;> rfl
  | _ => rfl

/-- A number is kept as a number that compares alike. -/
theorem number_alike (h : Kept P R v w) {m : Number} (hv : v.number? = some m) :
    ∃ n, w.number? = some n ∧ m.Alike P n := by
  cases h with
  | number hv' hw halike =>
      rw [hv] at hv'
      cases hv'
      exact ⟨_, hw, halike⟩
  | array _ => cases hv
  | document _ => cases hv
  | other hnumber _ =>
      rw [hv] at hnumber
      cases hnumber

/-- Only numbers have to be asked, and they compare alike with zero. -/
theorem isZero_eq (hzero : P 0) (h : Kept P R v w) : w.isZero = v.isZero := by
  cases h with
  | number hv hw halike =>
      rw [Tree.number?_eq_some_iff] at hv hw
      have hsame := halike (.int 0) hzero
      rw [hv, hw, Tree.isZero_ofNumber, Tree.isZero_ofNumber, Number.equals, Number.equals, hsame]
  | _ => rfl

/-- Nothing becomes empty. -/
theorem isEmpty_eq_false (hzero : P 0) (h : Kept P R v w) (hv : v.isEmpty = false) : w.isEmpty = false := by
  cases h with
  | @number v w m n hm hn halike =>
      have hsame := isZero_eq (R := R) hzero (.number hm hn halike)
      rw [Tree.number?_eq_some_iff] at hm hn
      subst hm hn
      cases m <;> cases n <;> exact hsame.trans hv
  | @array xs ys hall =>
      cases hall with
      | nil => exact hv
      | cons _ _ => rfl
  | @document xs ys hfind =>
      cases xs with
      | nil => cases hv
      | cons entry rest =>
          obtain ⟨key, first⟩ := entry
          obtain ⟨w, hw, -⟩ := hfind key first List.lookup_cons_self
          cases ys with
          | nil => cases hw
          | cons _ _ => rfl
  | other _ _ => exact hv

theorem deepEqual_number (h : Kept P R v w) (want : Number) (hwant : want.IntWith P)
    (hv : (Tree.ofNumber want : Expected).deepEqual v = true) :
    (Tree.ofNumber want : Expected).deepEqual w = true := by
  obtain ⟨m, hm, heq⟩ := Tree.deepEqual_number_iff.mp hv
  obtain ⟨n, hn, halike⟩ := h.number_alike hm
  refine Tree.deepEqual_number_iff.mpr ⟨n, hn, ?_⟩
  rw [Number.equals_iff, Number.compare_swap, halike want hwant, ← Number.compare_swap] at heq
  exact Number.equals_iff.mpr heq

theorem within_of_number (h : Kept P R v w) {bound : NumericBound} (hbound : bound.reference.IntWith P)
    (hv : ∃ m, v.number? = some m ∧ Sat.Within bound m) : ∃ n, w.number? = some n ∧ Sat.Within bound n := by
  obtain ⟨m, hm, hwithin⟩ := hv
  obtain ⟨n, hn, halike⟩ := h.number_alike hm
  refine ⟨n, hn, ?_⟩
  rw [Sat.Within, halike bound.reference hbound] at hwithin
  exact hwithin

end Kept

/-- What an operand accepts is still accepted, for each of several operands. -/
theorem imp_of_mem_satItems {es : List Expected} {v w : Value}
    (h : ∀ e ∈ es, Sat e v → Sat e w) : ∀ p ∈ satItems es, p v → p w := by
  rw [satItems_eq_map]
  exact List.forall_mem_map.mpr h

/-- **Values that are kept go on to satisfy a lenient tree.** -/
theorem sat_of_kept {P : Int → Prop} {R : Value → Value → Prop} (hzero : P 0)
    (hkept : ∀ v w, R v w → Kept P R v w) {e : Expected} (he : Lenient P e) {v w : Value} (hR : R v w)
    (hsat : Sat e v) : Sat e w := by
  induction he generalizing v w with
  | null =>
      obtain rfl := Tree.deepEqual_null_iff.mp hsat
      rw [(hkept _ w hR).eq_of_other rfl rfl]
      exact hsat
  | bool b =>
      obtain rfl := Tree.deepEqual_bool_iff.mp hsat
      rw [(hkept _ w hR).eq_of_other rfl rfl]
      exact hsat
  | string s =>
      obtain rfl := Tree.deepEqual_string_iff.mp hsat
      rw [(hkept _ w hR).eq_of_other rfl rfl]
      exact hsat
  | @int i hi => exact (hkept v w hR).deepEqual_number (.int i) hi hsat
  | float x => exact (hkept v w hR).deepEqual_number (.float x) trivial hsat
  | @array items _ ih =>
      -- the items are related one by one, so that the hypothesis of the induction carries over each of them
      obtain ⟨values, rfl, hall⟩ := hsat
      rw [satItems_eq_map, List.forall₂_map_left_iff] at hall
      cases hkept _ w hR with
      | number hv _ _ => cases hv
      | @array _ ys hrelated =>
          refine ⟨ys, rfl, ?_⟩
          rw [satItems_eq_map, List.forall₂_map_left_iff]
          exact forall₂_trans_of_mem hall hrelated fun e hmem v w hv hvw => ih e hmem hvw hv
      | other _ hlength => cases hlength
  | @document es _ ih =>
      obtain ⟨xs, rfl, hentries⟩ := hsat
      cases hkept _ w hR with
      | number hv _ _ => cases hv
      | @document _ ys hfind =>
          refine ⟨ys, rfl, ?_⟩
          rw [satEntries_eq_map] at hentries ⊢
          refine List.forall_mem_map.mpr fun entry hmem => ?_
          obtain ⟨v, hv, hsat⟩ := List.forall_mem_map.mp hentries entry hmem
          -- only the first entry with the key is asked for, and a related one is found under it
          obtain ⟨w, hw, hvw⟩ := hfind entry.1 v hv
          exact ⟨w, hw, ih entry hmem hvw hsat⟩
      | other _ hlength => cases hlength
  | any label => trivial
  | nil label target explicit =>
      have hnull := (hkept v w hR).isNull_eq
      rw [Sat, SatRule, ← hnull] at hsat
      exact hsat
  | required label => exact ((hkept v w hR).isZero_eq hzero).trans hsat
  | nonEmpty label => exact (hkept v w hR).isEmpty_eq_false hzero hsat
  | pattern label p =>
      obtain ⟨s, rfl, hmatch⟩ := hsat
      exact ⟨s, (hkept _ w hR).eq_of_other rfl rfl, hmatch⟩
  | numeric label hbound => exact (hkept v w hR).within_of_number hbound hsat
  | inSet label _ ih =>
      obtain ⟨p, hp, hv⟩ := hsat
      exact ⟨p, hp, imp_of_mem_satItems (fun e hmem => ih e hmem hR) p hp hv⟩
  | and label _ ih => exact fun p hp => imp_of_mem_satItems (fun e hmem => ih e hmem hR) p hp (hsat p hp)
  | or label _ ih =>
      obtain ⟨p, hp, hv⟩ := hsat
      exact ⟨p, hp, imp_of_mem_satItems (fun e hmem => ih e hmem hR) p hp hv⟩

/-! ## Values that satisfy values -/

/-- The first value, taken as an expected tree, accepts the second; neither has rules in it. -/
def Covers (P : Int → Prop) (v w : Value) : Prop :=
  ∃ b : Expected, view b = v ∧ b.Plain P ∧ w.Plain P ∧ Sat b w

/-- Numbers of which one is accepted for the other. -/
theorem kept_number_of_sat {R : Value → Value → Prop} {v w : Value} (want : Number)
    (hv : v.number? = some want) (hwant : want.IntWith ExactInt) (hw : w.Plain ExactInt)
    (hsat : (Tree.ofNumber want : Expected).deepEqual w = true) : Kept ExactInt R v w := by
  obtain ⟨got, hgot, hequals⟩ := Tree.deepEqual_number_iff.mp hsat
  refine .number hv hgot fun other hother => ?_
  exact Number.compare_eq_of_equals hwant (hw.number hgot) hequals hother

/-- What a plain tree accepts keeps all that the tree, as a value, could be asked for. -/
theorem kept_of_covers {v w : Value} (h : Covers ExactInt v w) : Kept ExactInt (Covers ExactInt) v w := by
  obtain ⟨b, rfl, hb, hw, hsat⟩ := h
  cases hb with
  | null =>
      obtain rfl := Tree.deepEqual_null_iff.mp hsat
      exact .other rfl rfl
  | bool b =>
      obtain rfl := Tree.deepEqual_bool_iff.mp hsat
      exact .other rfl rfl
  | string s =>
      obtain rfl := Tree.deepEqual_string_iff.mp hsat
      exact .other rfl rfl
  | @int i hi => exact kept_number_of_sat (.int i) rfl hi hw hsat
  | float x => exact kept_number_of_sat (.float x) rfl trivial hw hsat
  | @array items hitems =>
      obtain ⟨ys, rfl, hall⟩ := hsat
      rw [satItems_eq_map, List.forall₂_map_left_iff] at hall
      rw [view, viewItems_eq_map]
      refine .array (List.forall₂_map_left_iff.mpr ?_)
      exact forall₂_imp_of_mem hall fun e he y hy hsat => ⟨e, rfl, hitems e he, hw.item y hy, hsat⟩
  | @document es hes =>
      obtain ⟨ys, rfl, hentries⟩ := hsat
      rw [satEntries_eq_map] at hentries
      rw [view, viewEntries_eq_map]
      refine .document fun key v hv => ?_
      -- the entry that is found in the first document is one that the second has to satisfy
      rw [lookup_map, Option.map_eq_some_iff] at hv
      obtain ⟨e, he, rfl⟩ := hv
      have hmem : (key, e) ∈ es := mem_of_lookup he
      obtain ⟨w', hw', hsat⟩ := List.forall_mem_map.mp hentries (key, e) hmem
      exact ⟨w', hw', e, rfl, hes _ hmem, hw.entry _ (mem_of_lookup hw'), hsat⟩

/-! ## Keys that are added -/

/-- The second value has one more entry in one of its documents, under a key that this document lacked. -/
inductive AddsKey : Value → Value → Prop where
  | here {before after : List (String × Value)} {key : String} (added : Value)
      (hnew : ∀ entry ∈ before ++ after, entry.1 ≠ key) :
      AddsKey (.document (before ++ after)) (.document (before ++ (key, added) :: after))
  | element {before after : List Value} {v w : Value} (h : AddsKey v w) :
      AddsKey (.array (before ++ v :: after)) (.array (before ++ w :: after))
  | entry {before after : List (String × Value)} {key : String} {v w : Value} (h : AddsKey v w) :
      AddsKey (.document (before ++ (key, v) :: after)) (.document (before ++ (key, w) :: after))

theorem Kept.refl {P : Int → Prop} {R : Value → Value → Prop} (hR : ∀ v, R v v) (v : Value) :
    Kept P R v v := by
  cases v with
  | int i => exact .number rfl rfl fun _ _ => rfl
  | float x => exact .number rfl rfl fun _ _ => rfl
  | array items => exact .array (List.forall₂_same.mpr fun v _ => hR v)
  | document entries => exact .document fun key v hv => ⟨v, hv, hR v⟩
  | null => exact .other rfl rfl
  | bool b => exact .other rfl rfl
  | string s => exact .other rfl rfl
  | rule label text => exact .other rfl rfl

/-- A new key is in the way of no other one. -/
theorem lookup_insert {key added : String} {before after : List (String × Value)} {x : Value}
    (hnew : ∀ entry ∈ before ++ after, entry.1 ≠ added) {v : Value}
    (hv : lookup key (before ++ after) = some v) : lookup key (before ++ (added, x) :: after) = some v := by
  have hkey : added ≠ key := (hnew (key, v) (mem_of_lookup hv)).symm
  rw [lookup_insert_of_ne hkey]
  exact hv

/-- An added key leaves everything else where it was. -/
theorem kept_of_addsKey {P : Int → Prop} {v w : Value} (h : AddsKey v w) :
    Kept P (Relation.ReflGen AddsKey) v w := by
  have hrefl : ∀ v, Relation.ReflGen AddsKey v v := fun _ => .refl
  cases h with
  | here added hnew => exact .document fun key v hv => ⟨v, lookup_insert hnew hv, .refl⟩
  | @element before after v w h =>
      refine .array (List.rel_append (List.forall₂_same.mpr fun v _ => hrefl v) ?_)
      exact .cons (.single h) (List.forall₂_same.mpr fun v _ => hrefl v)
  | @entry before after name v w h =>
      refine .document fun key found hfound => ?_
      rw [List.lookup_append] at hfound ⊢
      cases hbefore : lookup key before with
      | some x =>
          rw [hbefore] at hfound
          exact ⟨found, hfound, .refl⟩
      | none =>
          rw [hbefore, Option.none_or] at hfound
          rw [Option.none_or]
          by_cases hkey : name = key
          · subst hkey
            rw [List.lookup_cons_self] at hfound ⊢
            cases hfound
            exact ⟨w, rfl, .single h⟩
          · rw [lookup_cons_of_ne hkey] at hfound ⊢
            exact ⟨found, hfound, .refl⟩

/-! ## Testers -/

/-- **Satisfaction composes** over lenient trees: what satisfies a value that satisfies the tree satisfies the
tree, if all integers are exact; and a value that satisfies the tree goes on to do so when keys are added to its
documents, at any depth. Each test may be made by a tester of its own. -/
theorem Tester.satisfaction_composes (e : Expected) :
    (Lenient ExactInt e → ∀ (b : Expected) (a : Value), b.Plain ExactInt → a.Plain ExactInt →
      ∀ t₁ t₂ t₃ : Tester, (t₁.test e (view b)).1 = .ok () → (t₂.test b a).1 = .ok () →
        (t₃.test e a).1 = .ok ()) ∧
    (Lenient (fun _ => True) e → ∀ v w : Value, Relation.ReflTransGen AddsKey v w →
      ∀ t₁ t₂ : Tester, (t₁.test e v).1 = .ok () → (t₂.test e w).1 = .ok ()) := by
  constructor
  · intro he b a hb ha t₁ t₂ t₃ h₁ h₂
    have hzero : ExactInt 0 := ⟨by decide, by decide⟩
    have hcovers : Covers ExactInt (view b) a := ⟨b, rfl, hb, ha, sat_of_test_eq_ok hb.builtin h₂⟩
    have hsat : Sat e a :=
      sat_of_kept hzero (fun _ _ => kept_of_covers) he hcovers (sat_of_test_eq_ok he.builtin h₁)
    exact test_eq_ok_of_sat he.builtin hsat t₃
  · intro he v w hadds t₁ t₂ h₁
    have hsat : Sat e w := by
      induction hadds with
      | refl => exact sat_of_test_eq_ok he.builtin h₁
      | tail _ hlast ih =>
          refine sat_of_kept (R := Relation.ReflGen AddsKey) trivial ?_ he (.single hlast) ih
          rintro v w (_ | hstep)
          · exact Kept.refl (fun _ => .refl) v
          · exact kept_of_addsKey hstep
    exact test_eq_ok_of_sat he.builtin hsat t₂

/-- A key that the document in the middle repeats, first with a binary64 number and then with an integer; and a
key that is added to a document in an array. -/
theorem satisfaction_composes_over_repeated_key :
    let t := Tester.ofOptions { threshold := 0, collectAll := true }
    let e : Expected := .document [("n", .int 3), ("tags", .rule [0] (.and [.rule [1] (.empty false)]))]
    let b : Expected := .document [("n", .float (.ofInt 3)), ("n", .int 3), ("tags", .array [.document []])]
    let a : Value := .document [("x", .null), ("n", .int 3), ("n", .int 9), ("tags", .array [.document []])]
    let more : Value := .document
      [("x", .null), ("n", .int 3), ("n", .int 9), ("tags", .array [.document [("k", .bool true)]])]
    (t.test b a).1 = .ok () ∧ (t.test e a).1 = .ok () ∧ (t.test e more).1 = .ok () := by
  intro t e b a more
  have hexact : ∀ i : Int, 0 ≤ i → i ≤ 9 → ExactInt i := fun i h₀ h₉ => ⟨by omega, by omega⟩
  have hlenient : ∀ P : Int → Prop, P 3 → Lenient P e := by
    intro P h₃
    refine .document (List.forall_mem_cons.mpr ⟨.int h₃, List.forall_mem_singleton.mpr ?_⟩)
    exact .and [0] (List.forall_mem_singleton.mpr (.nonEmpty [1]))
  have htags : ∀ {ρ : Type}, (Tree.array [.document []] : Tree ρ).Plain ExactInt := fun {ρ} =>
    .array (List.forall_mem_singleton.mpr (.document (List.forall_mem_nil _)))
  have hb : b.Plain ExactInt := by
    refine .document (List.forall_mem_cons.mpr ⟨.float _, List.forall_mem_cons.mpr ⟨.int ?_, ?_⟩⟩)
    · exact hexact 3 (by decide) (by decide)
    · exact List.forall_mem_singleton.mpr htags
  have ha : a.Plain ExactInt := by
    refine .document (List.forall_mem_cons.mpr ⟨.null, List.forall_mem_cons.mpr ⟨.int ?_, ?_⟩⟩)
    · exact hexact 3 (by decide) (by decide)
    · refine List.forall_mem_cons.mpr ⟨.int ?_, List.forall_mem_singleton.mpr htags⟩
      exact hexact 9 (by decide) (by decide)
  have hview : (t.test e (view b)).1 = .ok () := by
    rw [Tester.test_eq_verdict]
    rfl
  have hmiddle : (t.test b a).1 = .ok () := by
    rw [Tester.test_eq_verdict]
    rfl
  have hadds : AddsKey a more := by
    have hinner : AddsKey (.document []) (.document [("k", .bool true)]) :=
      @AddsKey.here [] [] "k" (.bool true) nofun
    exact @AddsKey.entry [("x", .null), ("n", .int 3), ("n", .int 9)] [] "tags" _ _
      (@AddsKey.element [] [] _ _ hinner)
  have htest : (t.test e a).1 = .ok () :=
    (Tester.satisfaction_composes e).1 (hlenient ExactInt (hexact 3 (by decide) (by decide))) b a hb ha
      t t t hview hmiddle
  exact ⟨hmiddle, htest, (Tester.satisfaction_composes e).2 (hlenient _ trivial) a more (.single hadds) t t htest⟩

end Conformance
