import Conformance.Proofs.Entries
import Conformance.Proofs.Satisfaction
import Conformance.Proofs.Words

/-!
# Structural equality and satisfaction

Structural equality goes through documents entry by entry in order; a comparison looks keys up and does not mind
further ones. The first implies the second for trees without rules in which no document repeats a key
(`UniqueKeys`): equal documents have the same keys in the same order, so that the keys of the value are unique
too, and every look-up finds the entry at the same position. With the same keys on both sides the strict
comparison has nothing to find either.

A JSON value is such a tree, and equal to itself, if its objects have unique names and none of its numbers is
undefined (`Json.WellFormed`). Every value that is read from a text is of this kind.
-/

set_option autoImplicit false

namespace Conformance

namespace Tree

variable {ρ σ : Type}

/-- No document of the tree repeats a key. What is inside a rule does not matter. -/
inductive UniqueKeys : Tree ρ → Prop where
  | null : UniqueKeys .null
  | bool (b : Bool) : UniqueKeys (.bool b)
  | int (i : Int) : UniqueKeys (.int i)
  | float (x : Binary64) : UniqueKeys (.float x)
  | string (s : String) : UniqueKeys (.string s)
  | array {items : List (Tree ρ)} (h : ∀ t ∈ items, UniqueKeys t) : UniqueKeys (.array items)
  | document {entries : List (String × Tree ρ)} (hkeys : (entries.map Prod.fst).Nodup)
      (h : ∀ entry ∈ entries, UniqueKeys entry.2) : UniqueKeys (.document entries)
  | rule (label : Label) (content : ρ) : UniqueKeys (.rule label content)

/-! ## Structural equality by its parts -/

theorem deepEqualItems_iff {xs : List (Tree ρ)} {ys : List (Tree σ)} :
    deepEqualItems xs ys = true ↔ List.Forall₂ (fun x y => x.deepEqual y = true) xs ys := by
  induction xs generalizing ys with
  | nil =>
      cases ys with
      | nil => simp [deepEqualItems]
      | cons y ys => simp [deepEqualItems]
  | cons x xs ih =>
      cases ys with
      | nil => simp [deepEqualItems]
      | cons y ys => rw [deepEqualItems, Bool.and_eq_true, ih, List.forall₂_cons]

theorem deepEqualEntries_iff {xs : List (String × Tree ρ)} {ys : List (String × Tree σ)} :
    deepEqualEntries xs ys = true
      ↔ List.Forall₂ (fun x y => x.1 = y.1 ∧ x.2.deepEqual y.2 = true) xs ys := by
  induction xs generalizing ys with
  | nil =>
      cases ys with
      | nil => simp [deepEqualEntries]
      | cons y ys => simp [deepEqualEntries]
  | cons x xs ih =>
      cases ys with
      | nil => simp [deepEqualEntries]
      | cons y ys =>
          rw [deepEqualEntries, Bool.and_eq_true, Bool.and_eq_true, beq_iff_eq, ih, List.forall₂_cons]

theorem number?_ofNumber (n : Number) : (ofNumber n : Tree ρ).number? = some n := by
  cases n with
  | int i => rfl
  | float x => rfl

theorem number?_eq_some_iff {t : Tree ρ} {n : Number} : t.number? = some n ↔ t = ofNumber n := by
  constructor
  · intro h
    cases t with
    | int i =>
        cases h
        rfl
    | float x =>
        cases h
        rfl
    | _ => cases h
  · rintro rfl
    exact number?_ofNumber n

theorem deepEqual_null_iff {t : Tree σ} : (.null : Tree ρ).deepEqual t = true ↔ t = .null := by
  cases t with
  | null => exact iff_of_true rfl rfl
  | _ => simp [deepEqual, compareScalars]

theorem deepEqual_bool_iff {b : Bool} {t : Tree σ} :
    (.bool b : Tree ρ).deepEqual t = true ↔ t = .bool b := by
  cases t with
  | bool got => by_cases h : got = b <;> simp [deepEqual, compareScalars, h]
  | _ => simp [deepEqual, compareScalars]

theorem deepEqual_string_iff {s : String} {t : Tree σ} :
    (.string s : Tree ρ).deepEqual t = true ↔ t = .string s := by
  cases t with
  | string got => by_cases h : got = s <;> simp [deepEqual, compareScalars, h]
  | _ => simp [deepEqual, compareScalars]

/-- Numbers are compared as numbers, whether they are integers or floats. -/
theorem deepEqual_number_iff {want : Number} {t : Tree σ} :
    (ofNumber want : Tree ρ).deepEqual t = true ↔ ∃ got, t.number? = some got ∧ want.equals got = true := by
  have hscalars : ∀ kind, (compareNumber want kind t == .equal) = true
      ↔ ∃ got, t.number? = some got ∧ want.equals got = true := by
    intro kind
    unfold compareNumber
    cases t.number? with
    | none => simp
    | some got =>
        cases h : want.equals got with
        | true => simp [h]
        | false => simp [h]
  cases want with
  | int i =>
      rw [← hscalars "int"]
      simp [ofNumber, deepEqual, compareScalars]
  | float x =>
      rw [← hscalars "float"]
      simp [ofNumber, deepEqual, compareScalars]

theorem deepEqual_array_iff {xs : List (Tree ρ)} {t : Tree σ} : (Tree.array xs).deepEqual t = true
    ↔ ∃ ys, t = .array ys ∧ List.Forall₂ (fun x y => x.deepEqual y = true) xs ys := by
  cases t with
  | array ys =>
      rw [deepEqual, deepEqualItems_iff]
      simp
  | _ => simp [deepEqual, compareScalars]

theorem deepEqual_document_iff {xs : List (String × Tree ρ)} {t : Tree σ} :
    (Tree.document xs).deepEqual t = true ↔ ∃ ys, t = .document ys ∧
      List.Forall₂ (fun x y => x.1 = y.1 ∧ x.2.deepEqual y.2 = true) xs ys := by
  cases t with
  | document ys =>
      rw [deepEqual, deepEqualEntries_iff]
      simp
  | _ => simp [deepEqual, compareScalars]

/-! ## Trees without rules -/

theorem hasRule_array_eq_false_iff {items : List (Tree ρ)} :
    (Tree.array items).hasRule = false ↔ ∀ t ∈ items, t.hasRule = false := by
  rw [hasRule, ← Bool.not_eq_true, Registry.someHasRule_iff]
  simp

theorem hasRule_document_eq_false_iff {entries : List (String × Tree ρ)} :
    (Tree.document entries).hasRule = false ↔ ∀ entry ∈ entries, entry.2.hasRule = false := by
  rw [hasRule, ← Bool.not_eq_true, Registry.someEntryHasRule_iff]
  simp

end Tree

theorem builtin_of_hasRule_eq_false {e : Expected} (hkeys : e.UniqueKeys) (hfree : e.hasRule = false) :
    Builtin e := by
  induction hkeys with
  | null => exact .null
  | bool b => exact .bool b
  | int i => exact .int i
  | float x => exact .float x
  | string s => exact .string s
  | array _ ih => exact .array fun e he => ih e he (Tree.hasRule_array_eq_false_iff.mp hfree e he)
  | document _ _ ih =>
      exact .document fun entry hmem => ih entry hmem (Tree.hasRule_document_eq_false_iff.mp hfree entry hmem)
  | rule label r => cases hfree

theorem builtin_equal {e : Expected} (h : Builtin e) (label : Label) : Builtin (.rule label (.equal e)) := by
  cases h with
  | document hentries => exact .strict label hentries
  | _ => exact .same label nofun (by constructor <;> assumption)

/-! ## Equality implies satisfaction -/

/-- What equal entries ask for is found in the value, since no key is repeated. -/
theorem entries_of_forall₂ {es : List (String × Expected)} {ys : List (String × Value)}
    (hkeys : (es.map Prod.fst).Nodup)
    (hall : List.Forall₂ (fun x y => x.1 = y.1 ∧ x.2.deepEqual y.2 = true) es ys)
    (hsat : ∀ entry ∈ es, ∀ v : Value, entry.2.deepEqual v = true → Sat entry.2 v) :
    Sat.Entries (satEntries es) ys := by
  have hunique : (ys.map Prod.fst).Nodup := keys_eq_of_forall₂ (fun _ _ h => h.1) hall ▸ hkeys
  rw [satEntries_eq_map]
  refine List.forall_mem_map.mpr fun entry hmem => ?_
  -- the entry at the same position has the same key, and is the first one with it
  obtain ⟨i, hi, hget⟩ := List.getElem_of_mem hmem
  have hi' : i < ys.length := hall.length_eq ▸ hi
  have hpair := List.forall₂_iff_get.mp hall |>.2 i hi hi'
  simp only [List.get_eq_getElem, hget] at hpair
  refine ⟨ys[i].2, lookup_of_mem hunique ?_, hsat entry hmem _ hpair.2⟩
  rw [hpair.1]
  exact List.getElem_mem hi'

/-- A value that is structurally equal to a tree satisfies it. -/
theorem sat_of_deepEqual {e : Expected} (hkeys : e.UniqueKeys) (hfree : e.hasRule = false) {a : Value}
    (h : e.deepEqual a = true) : Sat e a := by
  induction hkeys generalizing a with
  | null => exact h
  | bool b => exact h
  | int i => exact h
  | float x => exact h
  | string s => exact h
  | @array items _ ih =>
      have hitems := Tree.hasRule_array_eq_false_iff.mp hfree
      obtain ⟨ys, rfl, hall⟩ := Tree.deepEqual_array_iff.mp h
      refine ⟨ys, rfl, ?_⟩
      rw [satItems_eq_map, List.forall₂_map_left_iff]
      exact forall₂_imp_of_mem hall fun e he y _ hy => ih e he (hitems e he) hy
  | @document es hkeys _ ih =>
      have hentries := Tree.hasRule_document_eq_false_iff.mp hfree
      obtain ⟨ys, rfl, hall⟩ := Tree.deepEqual_document_iff.mp h
      exact ⟨ys, rfl, entries_of_forall₂ hkeys hall
        fun entry hmem v hv => ih entry hmem (hentries entry hmem) hv⟩
  | rule label r => cases hfree

/-- It satisfies the strict form of the tree as well. -/
theorem sat_equal_of_deepEqual {e : Expected} (hkeys : e.UniqueKeys) (hfree : e.hasRule = false) {a : Value}
    (h : e.deepEqual a = true) (label : Label) : Sat (.rule label (.equal e)) a := by
  have hsat : Sat e a := sat_of_deepEqual hkeys hfree h
  cases e with
  | document es =>
      obtain ⟨ys, rfl, hall⟩ := Tree.deepEqual_document_iff.mp h
      obtain ⟨_, heq, hentries⟩ := hsat
      cases heq
      refine ⟨ys, rfl, hentries, fun y hy => ?_⟩
      -- position by position the keys are the same, so that none is left over
      have hkey : y.1 ∈ es.map Prod.fst := by
        rw [keys_eq_of_forall₂ (fun _ _ h => h.1) hall]
        exact List.mem_map_of_mem hy
      obtain ⟨entry, hentry, hname⟩ := List.mem_map.mp hkey
      rw [satEntries_eq_map]
      exact ⟨_, List.mem_map_of_mem hentry, hname⟩
  | _ => exact hsat

/-! ## JSON values -/

theorem Number.equals_self {n : Number} (h : n ≠ .float .nan) : n.equals n = true := by
  cases n with
  | int i => simp [equals, compare]
  | float x =>
      cases x with
      | nan => exact absurd rfl h
      | signed negative magnitude => simp [equals, compare, Binary64.compare, toBinary64, Binary64.rank]

namespace Json

/-- The names of every object are pairwise distinct, and no number is undefined. -/
inductive WellFormed : Json → Prop where
  | null : WellFormed .null
  | bool (b : Bool) : WellFormed (.bool b)
  | integer (i : Int) : WellFormed (.integer i)
  | float {x : Binary64} (h : x ≠ .nan) : WellFormed (.float x)
  | string (s : String) : WellFormed (.string s)
  | array {items : List Json} (h : ∀ x ∈ items, WellFormed x) : WellFormed (.array items)
  | object {members : List (String × Json)} (hnames : (members.map Prod.fst).Nodup)
      (h : ∀ m ∈ members, WellFormed m.2) : WellFormed (.object members)

theorem mem_names_putMember {name key : String} {value : Json} {members : List (String × Json)} :
    key ∈ (putMember name value members).map Prod.fst ↔ key = name ∨ key ∈ members.map Prod.fst := by
  induction members with
  | nil => simp [putMember]
  | cons m rest ih =>
      rw [putMember]
      split
      · rename_i hname
        simp [hname]
      · rw [List.map_cons, List.mem_cons, ih, List.map_cons, List.mem_cons]
        exact or_left_comm

/-- A name is put in once: a second member of the name takes the place of the first. -/
theorem nodup_names_putMember {name : String} {value : Json} {members : List (String × Json)}
    (h : (members.map Prod.fst).Nodup) : ((putMember name value members).map Prod.fst).Nodup := by
  induction members with
  | nil => exact List.nodup_singleton name
  | cons m rest ih =>
      rw [putMember]
      rw [List.map_cons, List.nodup_cons] at h
      split
      · rename_i hname
        rw [List.map_cons, List.nodup_cons]
        exact hname ▸ h
      · rename_i hname
        rw [List.map_cons, List.nodup_cons, mem_names_putMember]
        exact ⟨not_or.mpr ⟨hname, h.1⟩, ih h.2⟩

theorem wellFormed_integerLiteral (negative : Bool) (n : Nat) : (integerLiteral negative n).WellFormed := by
  unfold integerLiteral
  split
  · exact .integer _
  · split
    · exact .float nofun
    · exact .integer _

theorem hereditary_wellFormed : Hereditary WellFormed
    fun members => (members.map Prod.fst).Nodup ∧ ∀ m ∈ members, WellFormed m.2 where
  null := .null
  bool := .bool
  integer := fun negative n _ => wellFormed_integerLiteral negative n
  decimal := by
    intro negative digits exponent x hx
    obtain ⟨word, -, rfl⟩ := Option.map_eq_some_iff.mp hx
    exact .float nofun
  zero := fun _ => .float nofun
  string := .string
  array := fun _ => .array
  noMembers := ⟨List.nodup_nil, List.forall_mem_nil _⟩
  putMember := fun _ _ _ hvalue hmembers =>
    ⟨nodup_names_putMember hmembers.1, forall_mem_putMember hvalue hmembers.2⟩
  object := fun _ hmembers => .object hmembers.1 hmembers.2

/-- What is read from a text has no name twice in one object, at any depth. -/
theorem read_wellFormed {text : String} {j : Json} (h : read text = .ok j) : j.WellFormed :=
  hereditary_wellFormed.of_read h

end Json

namespace Tree

variable {ρ σ : Type}

/-- JSON values have no rules in them, whatever the names of their members. -/
theorem hasRule_ofJson {j : Json} (h : j.WellFormed) : (ofJson j : Tree ρ).hasRule = false := by
  induction h with
  | null => rfl
  | bool b => rfl
  | integer i =>
      rw [ofJson]
      cases Number.ofInteger i with
      | int i => rfl
      | float x => rfl
  | float _ => rfl
  | string s => rfl
  | array _ ih =>
      rw [ofJson, hasRule_array_eq_false_iff, ofJsonItems_eq_map]
      exact List.forall_mem_map.mpr ih
  | object _ _ ih =>
      rw [ofJson, hasRule_document_eq_false_iff, ofJsonMembers_eq_map]
      exact List.forall_mem_map.mpr ih

theorem uniqueKeys_ofJson {j : Json} (h : j.WellFormed) : (ofJson j : Tree ρ).UniqueKeys := by
  induction h with
  | null => exact .null
  | bool b => exact .bool b
  | integer i =>
      rw [ofJson]
      cases Number.ofInteger i with
      | int i => exact .int i
      | float x => exact .float x
  | float _ => exact .float _
  | string s => exact .string s
  | array _ ih =>
      rw [ofJson, ofJsonItems_eq_map]
      exact .array (List.forall_mem_map.mpr ih)
  | @object members hnames _ ih =>
      have hkeys : (ofJsonMembers members : List (String × Tree ρ)).map Prod.fst
          = members.map Prod.fst := by
        rw [ofJsonMembers_eq_map, List.map_map]
        rfl
      rw [ofJson]
      refine .document (hkeys ▸ hnames) ?_
      rw [ofJsonMembers_eq_map]
      exact List.forall_mem_map.mpr ih

/-- On both sides of a comparison, a JSON value is the same to structural equality. -/
theorem deepEqual_ofJson {j : Json} (h : j.WellFormed) :
    (ofJson j : Tree ρ).deepEqual (ofJson j : Tree σ) = true := by
  induction h with
  | null => rfl
  | bool b => exact deepEqual_bool_iff.mpr rfl
  | integer i =>
      have hnan : Number.ofInteger i ≠ .float .nan := by
        unfold Number.ofInteger
        split
        · nofun
        · nofun
      rw [ofJson, ofJson]
      exact deepEqual_number_iff.mpr ⟨_, number?_ofNumber _, Number.equals_self hnan⟩
  | @float x hx =>
      have hnan : Number.float x ≠ .float .nan := fun heq => hx (Number.float.inj heq)
      exact deepEqual_number_iff.mpr ⟨.float x, rfl, Number.equals_self hnan⟩
  | string s => exact deepEqual_string_iff.mpr rfl
  | array _ ih =>
      rw [ofJson, ofJson, deepEqual, deepEqualItems_iff, ofJsonItems_eq_map, ofJsonItems_eq_map,
        List.forall₂_map_left_iff, List.forall₂_map_right_iff, List.forall₂_same]
      exact ih
  | object _ _ ih =>
      rw [ofJson, ofJson, deepEqual, deepEqualEntries_iff, ofJsonMembers_eq_map, ofJsonMembers_eq_map,
        List.forall₂_map_left_iff, List.forall₂_map_right_iff, List.forall₂_same]
      exact fun m hm => ⟨rfl, ih m hm⟩

end Tree

/-! ## Testers -/

namespace Tester

/-- **What is structurally equal is accepted**, as it stands and under the strict form, if the tree has no
rules and repeats no key. So a JSON value is accepted where it is expected, and all that can be read is. -/
theorem accepts_equal (t : Tester) :
    (∀ (e : Expected) (a : Value), e.hasRule = false → e.UniqueKeys → e.deepEqual a = true →
      (t.test e a).1 = .ok () ∧ ∀ label, (t.test (.rule label (.equal e)) a).1 = .ok ()) ∧
    (∀ j : Json, j.WellFormed → (t.test (.ofJson j) (.ofJson j)).1 = .ok ()) ∧
    ∀ (text : String) (j : Json), Json.read text = .ok j →
      (t.test (.ofJson j) (.ofJson j)).1 = .ok () := by
  have hequal : ∀ (e : Expected) (a : Value), e.hasRule = false → e.UniqueKeys →
      e.deepEqual a = true → (t.test e a).1 = .ok () := by
    intro e a hfree hkeys heq
    exact test_eq_ok_of_sat (builtin_of_hasRule_eq_false hkeys hfree) (sat_of_deepEqual hkeys hfree heq) t
  have hjson : ∀ j : Json, j.WellFormed → (t.test (.ofJson j) (.ofJson j)).1 = .ok () := fun j hj =>
    hequal _ _ (Tree.hasRule_ofJson hj) (Tree.uniqueKeys_ofJson hj) (Tree.deepEqual_ofJson hj)
  refine ⟨fun e a hfree hkeys heq => ⟨hequal e a hfree hkeys heq, fun label => ?_⟩, hjson, ?_⟩
  · have hsat := sat_equal_of_deepEqual hkeys hfree heq label
    have hbuiltin : Builtin (.rule label (.equal e)) :=
      builtin_equal (builtin_of_hasRule_eq_false hkeys hfree) label
    exact test_eq_ok_of_sat hbuiltin hsat t
  · exact fun text j hread => hjson j (Json.read_wellFormed hread)

end Tester

/-- Objects that look like directives are expected as they are, and integers are equal to binary64 numbers. -/
theorem accepts_equal_of_lookalikes :
    let t := Tester.ofOptions { threshold := 0 }
    let j : Json := .object [("$not", .object [("$in", .array [])]), ("n", .integer 1)]
    let e : Expected := .document [("n", .int 1), ("m", .array [.float (.ofInt 2)])]
    let a : Value := .document [("n", .float (.ofInt 1)), ("m", .array [.int 2])]
    (t.test (.ofJson j) (.ofJson j)).1 = .ok () ∧ (t.test e a).1 = .ok () ∧
      (t.test (.rule [0] (.equal e)) a).1 = .ok () := by
  intro t j e a
  have hnames : j.WellFormed := by
    refine .object (by decide) (List.forall_mem_cons.mpr ⟨?_, List.forall_mem_singleton.mpr (.integer 1)⟩)
    exact .object (List.nodup_singleton _) (List.forall_mem_singleton.mpr (.array (List.forall_mem_nil _)))
  have hkeys : e.UniqueKeys := by
    refine .document (by decide) (List.forall_mem_cons.mpr ⟨.int 1, List.forall_mem_singleton.mpr ?_⟩)
    exact .array (List.forall_mem_singleton.mpr (.float _))
  have hequal := (Tester.accepts_equal t).1 e a rfl hkeys (by decide)
  exact ⟨(Tester.accepts_equal t).2.1 j hnames, hequal.1, hequal.2 [0]⟩

end Conformance
