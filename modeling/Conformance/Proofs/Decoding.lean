import Conformance.Directive.Builtin
import Mathlib.Data.List.Forall2

/-!
# Decoding, part by part

What decoding makes of a value is put together from what it makes of the parts: of the items of an array, of
the values of a document's members, and of the payload of a directive, which the constructor of its token
looks at. This holds in every registry, and nothing is said of constructors here.

`Json.HasDirective r j` says that there is a directive of the registry somewhere in `j`, also within payloads.
A value without any decodes into the tree of plain data that it is (`decoded_of_plain`).
-/

set_option autoImplicit false

namespace Conformance

/-! ## Results that are put together -/

section Results

variable {ε δ α β : Type}

theorem bind_eq_ok_iff {x : Except ε α} {f : α → Except ε β} {b : β} :
    x >>= f = .ok b ↔ ∃ a, x = .ok a ∧ f a = .ok b := by
  cases x with
  | error err => exact iff_of_false nofun (by rintro ⟨a, h, -⟩; cases h)
  | ok a =>
      constructor
      · intro h
        exact ⟨a, rfl, h⟩
      · rintro ⟨a', ha, h⟩
        cases ha
        exact h

theorem map_eq_ok_iff {x : Except ε α} {f : α → β} {b : β} :
    x.map f = .ok b ↔ ∃ a, x = .ok a ∧ f a = b := by
  cases x with
  | error err => exact iff_of_false nofun (by rintro ⟨a, h, -⟩; cases h)
  | ok a => simp [Except.map]

theorem mapError_eq_ok_iff {x : Except ε α} {f : ε → δ} {a : α} :
    x.mapError f = .ok a ↔ x = .ok a := by
  cases x with
  | error err => exact iff_of_false nofun nofun
  | ok a' => simp [Except.mapError]

end Results

/-! ## Values and their parts -/

/-- Induction on JSON values: what holds of a value if it holds of all its parts holds of every value. -/
theorem Json.induction {P : Json → Prop} (null : P .null) (bool : ∀ b, P (.bool b))
    (integer : ∀ i, P (.integer i)) (float : ∀ x, P (.float x)) (string : ∀ s, P (.string s))
    (array : ∀ items, (∀ x ∈ items, P x) → P (.array items))
    (object : ∀ members, (∀ m ∈ members, P m.2) → P (.object members)) (j : Json) : P j := by
  refine @Json.rec P (fun items => ∀ x ∈ items, P x) (fun members => ∀ m ∈ members, P m.2)
    (fun m => P m.2) null bool integer float string array object nofun ?_ nofun ?_ ?_ j
  · intro x rest hx hrest
    exact List.forall_mem_cons.mpr ⟨hx, hrest⟩
  · intro m rest hm hrest
    exact List.forall_mem_cons.mpr ⟨hm, hrest⟩
  · intro _ _ h
    exact h

/-- The members are those of a directive: there is only one, and its name is a token. -/
def Registry.IsDirective (r : Registry) (members : List (String × Json)) : Prop :=
  ∃ token payload, members = [(token, payload)] ∧ r.contains token = true

/-- There is a directive at some depth, in whatever it is. -/
inductive Json.HasDirective (r : Registry) : Json → Prop where
  | here {members : List (String × Json)} (h : r.IsDirective members) : HasDirective r (.object members)
  | item {items : List Json} {x : Json} (hmem : x ∈ items) (h : HasDirective r x) :
      HasDirective r (.array items)
  | member {members : List (String × Json)} {m : String × Json} (hmem : m ∈ members)
      (h : HasDirective r m.2) : HasDirective r (.object members)

namespace Registry

variable {r : Registry}

/-! ## Decoding the parts -/

@[simp] theorem json_payload (r : Registry) (label : Label) (j : Json) : (r.payload label j).json = j := by
  cases j <;> rfl

theorem decoded_array (r : Registry) (label : Label) (items : List Json) :
    (r.payload label (.array items)).decoded
      = (decodedItems 0 (r.payloadItems label 0 items)).map .array := rfl

theorem decoded_directive {token : String} {c : Constructor} (hfind : r.find? token = some c)
    (label : Label) (j : Json) : (r.payload label (.object [(token, j)])).decoded
      = ofConstructor token (c label (r.payload (0 :: label) j)) := by
  have hdirective : r.directive? (r.payloadMembers label 0 [(token, j)])
      = some (token, c, r.payload (0 :: label) j) := by
    simp only [payloadMembers, directive?, hfind, Option.map_some]
  rw [payload]
  simp only [decodedObject, hdirective]

/-- Only errors are changed on the way out of a constructor. -/
theorem ofConstructor_eq_ok_iff {token : String} {result : Except RuleError Expected} {e : Expected} :
    ofConstructor token result = .ok e ↔ result = .ok e := by
  cases result with
  | ok e' => rw [ofConstructor, Except.ok.injEq, Except.ok.injEq]
  | error source => cases source <;> exact iff_of_false nofun nofun

theorem decoded_directive_eq_ok_iff {token : String} {c : Constructor} (hfind : r.find? token = some c)
    {label : Label} {j : Json} {e : Expected} :
    (r.payload label (.object [(token, j)])).decoded = .ok e
      ↔ c label (r.payload (0 :: label) j) = .ok e := by
  rw [decoded_directive hfind, ofConstructor_eq_ok_iff]

theorem decoded_document {members : List (String × Json)} (hplain : ¬ r.IsDirective members)
    (label : Label) : (r.payload label (.object members)).decoded
      = (decodedEntries (r.payloadMembers label 0 members)).map .document := by
  -- with one member the name is no token, and with none or several it is not looked at
  have hdirective : r.directive? (r.payloadMembers label 0 members) = none := by
    match members with
    | [] => rfl
    | [(token, j)] =>
        cases hfind : r.find? token with
        | some c => exact absurd ⟨token, j, rfl, by rw [contains, hfind]; rfl⟩ hplain
        | none => simp only [payloadMembers, directive?, hfind, Option.map_none]
    | _ :: _ :: _ => rfl
  rw [payload]
  simp only [decodedObject, hdirective]

theorem decodedItems_cons_eq_ok_iff {position : Nat} {p : Payload} {rest : List Payload}
    {es : List Expected} : decodedItems position (p :: rest) = .ok es
      ↔ ∃ e es', p.decoded = .ok e ∧ decodedItems (position + 1) rest = .ok es' ∧ es = e :: es' := by
  rw [decodedItems, bind_eq_ok_iff]
  constructor
  · rintro ⟨e, he, h⟩
    obtain ⟨es', hrest, hes⟩ := bind_eq_ok_iff.mp h
    exact ⟨e, es', mapError_eq_ok_iff.mp he, hrest, (Except.ok.inj hes).symm⟩
  · rintro ⟨e, es', he, hrest, rfl⟩
    exact ⟨e, mapError_eq_ok_iff.mpr he, bind_eq_ok_iff.mpr ⟨es', hrest, rfl⟩⟩

theorem decodedEntries_cons_eq_ok_iff {key : String} {p : Payload} {rest : List (String × Payload)}
    {es : List (String × Expected)} : decodedEntries ((key, p) :: rest) = .ok es
      ↔ ∃ e es', p.decoded = .ok e ∧ decodedEntries rest = .ok es' ∧ es = (key, e) :: es' := by
  rw [decodedEntries, bind_eq_ok_iff]
  constructor
  · rintro ⟨e, he, h⟩
    obtain ⟨es', hrest, hes⟩ := bind_eq_ok_iff.mp h
    exact ⟨e, es', mapError_eq_ok_iff.mp he, hrest, (Except.ok.inj hes).symm⟩
  · rintro ⟨e, es', he, hrest, rfl⟩
    exact ⟨e, mapError_eq_ok_iff.mpr he, bind_eq_ok_iff.mpr ⟨es', hrest, rfl⟩⟩

/-- Decoding a value succeeds, whatever its label. -/
def Decodes (r : Registry) (j : Json) : Prop := ∀ label, ∃ e, (r.payload label j).decoded = .ok e

/-- The tree is what decoding makes of the value, with some label. -/
def DecodesTo (r : Registry) (j : Json) (e : Expected) : Prop :=
  ∃ label, (r.payload label j).decoded = .ok e

theorem decodesTo_of_decodedItems {label : Label} {n position : Nat} {items : List Json}
    {es : List Expected} (h : decodedItems position (r.payloadItems label n items) = .ok es) :
    List.Forall₂ r.DecodesTo items es := by
  induction items generalizing n position es with
  | nil =>
      cases h
      exact .nil
  | cons x rest ih =>
      obtain ⟨e, es', hx, hrest, rfl⟩ := decodedItems_cons_eq_ok_iff.mp h
      exact .cons ⟨n :: label, hx⟩ (ih hrest)

/-- Items that can be decoded under every label can be decoded under theirs. -/
theorem exists_decodedItems {items : List Json} (h : ∀ x ∈ items, r.Decodes x) (label : Label)
    (n position : Nat) : ∃ es, decodedItems position (r.payloadItems label n items) = .ok es := by
  induction items generalizing n position with
  | nil => exact ⟨[], rfl⟩
  | cons x rest ih =>
      obtain ⟨hx, hrest⟩ := List.forall_mem_cons.mp h
      obtain ⟨e, he⟩ := hx (n :: label)
      obtain ⟨es, hes⟩ := ih hrest (n + 1) (position + 1)
      exact ⟨e :: es, decodedItems_cons_eq_ok_iff.mpr ⟨e, es, he, hes, rfl⟩⟩

theorem decodesTo_of_decodedEntries {label : Label} {n : Nat} {members : List (String × Json)}
    {es : List (String × Expected)} (h : decodedEntries (r.payloadMembers label n members) = .ok es) :
    List.Forall₂ (fun m entry => m.1 = entry.1 ∧ r.DecodesTo m.2 entry.2) members es := by
  induction members generalizing n es with
  | nil =>
      cases h
      exact .nil
  | cons m rest ih =>
      obtain ⟨e, es', hm, hrest, rfl⟩ := decodedEntries_cons_eq_ok_iff.mp h
      exact .cons ⟨rfl, n :: label, hm⟩ (ih hrest)

theorem exists_decodedEntries {members : List (String × Json)} (h : ∀ m ∈ members, r.Decodes m.2)
    (label : Label) (n : Nat) : ∃ es, decodedEntries (r.payloadMembers label n members) = .ok es := by
  induction members generalizing n with
  | nil => exact ⟨[], rfl⟩
  | cons m rest ih =>
      obtain ⟨hm, hrest⟩ := List.forall_mem_cons.mp h
      obtain ⟨e, he⟩ := hm (n :: label)
      obtain ⟨es, hes⟩ := ih hrest (n + 1)
      exact ⟨(m.1, e) :: es, decodedEntries_cons_eq_ok_iff.mpr ⟨e, es, he, hes, rfl⟩⟩

/-! ## Values without directives -/

theorem decodedItems_ofJson {items : List Json}
    (h : ∀ x ∈ items, ∀ label, (r.payload label x).decoded = .ok (.ofJson x)) (label : Label)
    (n position : Nat) :
    decodedItems position (r.payloadItems label n items) = .ok (Tree.ofJsonItems items) := by
  induction items generalizing n position with
  | nil => rfl
  | cons x rest ih =>
      obtain ⟨hx, hrest⟩ := List.forall_mem_cons.mp h
      exact decodedItems_cons_eq_ok_iff.mpr ⟨_, _, hx (n :: label), ih hrest (n + 1) (position + 1), rfl⟩

theorem decodedEntries_ofJson {members : List (String × Json)}
    (h : ∀ m ∈ members, ∀ label, (r.payload label m.2).decoded = .ok (.ofJson m.2)) (label : Label)
    (n : Nat) : decodedEntries (r.payloadMembers label n members) = .ok (Tree.ofJsonMembers members) := by
  induction members generalizing n with
  | nil => rfl
  | cons m rest ih =>
      obtain ⟨hm, hrest⟩ := List.forall_mem_cons.mp h
      exact decodedEntries_cons_eq_ok_iff.mpr ⟨_, _, hm (n :: label), ih hrest (n + 1), rfl⟩

/-- A value without directives decodes into the tree of plain data that it is, in every registry. -/
theorem decoded_of_plain {j : Json} (h : ¬ j.HasDirective r) (label : Label) :
    (r.payload label j).decoded = .ok (.ofJson j) := by
  induction j using Json.induction generalizing label with
  | array items ih =>
      have hitems : ∀ x ∈ items, ∀ label, (r.payload label x).decoded = .ok (.ofJson x) :=
        fun x hx => ih x hx fun hx' => h (.item hx hx')
      rw [decoded_array, decodedItems_ofJson hitems]
      rfl
  | object members ih =>
      have hplain : ¬ r.IsDirective members := fun hdirective => h (.here hdirective)
      have hmembers : ∀ m ∈ members, ∀ label, (r.payload label m.2).decoded = .ok (.ofJson m.2) :=
        fun m hm => ih m hm fun hm' => h (.member hm hm')
      rw [decoded_document hplain, decodedEntries_ofJson hmembers]
      rfl
  | _ => rfl

/-! ## Rules in decoded trees -/

theorem someHasRule_iff {ρ : Type} (ts : List (Tree ρ)) :
    Tree.someHasRule ts = true ↔ ∃ t ∈ ts, t.hasRule = true := by
  induction ts with
  | nil => exact iff_of_false nofun (by rintro ⟨t, hmem, -⟩; cases hmem)
  | cons t rest ih => rw [Tree.someHasRule, Bool.or_eq_true, ih, List.exists_mem_cons_iff]

theorem someEntryHasRule_iff {ρ : Type} (entries : List (String × Tree ρ)) :
    Tree.someEntryHasRule entries = true ↔ ∃ entry ∈ entries, entry.2.hasRule = true := by
  induction entries with
  | nil => exact iff_of_false nofun (by rintro ⟨t, hmem, -⟩; cases hmem)
  | cons entry rest ih => rw [Tree.someEntryHasRule, Bool.or_eq_true, ih, List.exists_mem_cons_iff]

theorem exists_of_forall₂ {α β : Type} {R : α → β → Prop} {xs : List α} {ys : List β}
    (h : List.Forall₂ R xs ys) : ∀ x ∈ xs, ∃ y, R x y := by
  induction h with
  | nil => exact List.forall_mem_nil _
  | cons hfirst _ ih => exact List.forall_mem_cons.mpr ⟨⟨_, hfirst⟩, ih⟩

theorem exists_mem_iff_of_forall₂ {α β : Type} {R : α → β → Prop} {xs : List α} {ys : List β}
    (h : List.Forall₂ R xs ys) {p : α → Prop} {q : β → Prop}
    (hpq : ∀ x ∈ xs, ∀ y, R x y → (p x ↔ q y)) : (∃ x ∈ xs, p x) ↔ ∃ y ∈ ys, q y := by
  induction h with
  | nil => exact iff_of_false (by rintro ⟨x, hmem, -⟩; cases hmem) (by rintro ⟨y, hmem, -⟩; cases hmem)
  | cons hfirst _ ih =>
      obtain ⟨hx, hrest⟩ := List.forall_mem_cons.mp hpq
      rw [List.exists_mem_cons_iff, List.exists_mem_cons_iff, hx _ hfirst, ih hrest]

/-- Every constructor of the registry builds trees with rules. -/
def MakesRules (r : Registry) : Prop :=
  ∀ token c, r.find? token = some c → ∀ label p e, c label p = .ok e → e.hasRule = true

/-- Where constructors make rules, the decoded tree has one exactly if the value has a directive. -/
theorem hasRule_iff_hasDirective (hr : r.MakesRules) {j : Json} {label : Label} {e : Expected}
    (h : (r.payload label j).decoded = .ok e) : e.hasRule = true ↔ j.HasDirective r := by
  induction j using Json.induction generalizing label e with
  | array items ih =>
      rw [decoded_array, map_eq_ok_iff] at h
      obtain ⟨es, hes, rfl⟩ := h
      have hparts : (∃ x ∈ items, x.HasDirective r) ↔ ∃ e ∈ es, e.hasRule = true :=
        exists_mem_iff_of_forall₂ (decodesTo_of_decodedItems hes)
          fun x hx e hdecoded => (ih x hx hdecoded.choose_spec).symm
      rw [Tree.hasRule, someHasRule_iff, ← hparts]
      constructor
      · rintro ⟨x, hmem, hx⟩
        exact .item hmem hx
      · rintro ⟨⟩
        exact ⟨_, ‹_›, ‹_›⟩
  | object members ih =>
      -- a directive makes a rule whatever its payload has; in any other object the members decide, as the items
      -- did
      by_cases hdirective : r.IsDirective members
      · refine iff_of_true ?_ (.here hdirective)
        obtain ⟨token, payload, rfl, hcontains⟩ := hdirective
        obtain ⟨c, hfind⟩ := Option.isSome_iff_exists.mp hcontains
        exact hr token c hfind _ _ e ((decoded_directive_eq_ok_iff hfind).mp h)
      · rw [decoded_document hdirective, map_eq_ok_iff] at h
        obtain ⟨es, hes, rfl⟩ := h
        have hparts : (∃ m ∈ members, m.2.HasDirective r) ↔ ∃ entry ∈ es, entry.2.hasRule = true :=
          exists_mem_iff_of_forall₂ (decodesTo_of_decodedEntries hes)
            fun m hm e hdecoded => (ih m hm hdecoded.2.choose_spec).symm
        rw [Tree.hasRule, someEntryHasRule_iff, ← hparts]
        constructor
        · rintro ⟨m, hmem, hm⟩
          exact .member hmem hm
        · intro hj
          cases hj with
          | here h => exact absurd h hdirective
          | member hmem hm => exact ⟨_, hmem, hm⟩
  | integer i =>
      cases h
      refine iff_of_false ?_ nofun
      cases Number.ofInteger i <;> exact nofun
  | _ =>
      cases h
      exact iff_of_false nofun nofun

end Registry

end Conformance
