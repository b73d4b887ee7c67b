import Conformance.Proofs.Satisfaction
import Mathlib.Data.Fintype.Card
import Mathlib.Data.List.FinRange
import Mathlib.Data.List.NodupEquivFin
import Mathlib.Data.List.Perm.Basic

/-!
# Elements in any order

A rule for elements in any order lets each expected element claim the first value that it accepts, among those
that are not claimed yet, and no claim is ever given up. `Matched es values` says what the rule is for: a
bijection between the positions of the expected elements and those of the values under which every value
satisfies its element. Claims that all succeed make up such a bijection. The converse does not hold in general,
since an element may claim the one value that a later one needs. It holds if no two elements compete, that is,
if any two of them accept the same ones among the values or none together (`Uncontested`). The argument is an
exchange: the value that was claimed and the one that the bijection had in its place are as good for any
element that accepts the former.

In between, a bijection is a list of values in another order that meets the elements one by one
(`exists_equiv_iff_forall₂_perm`), so that the inductions are on lists.
-/

set_option autoImplicit false

namespace Conformance

/-- There is a bijection between the positions of the elements and those of the values under which every value
satisfies its element. -/
def Matched (es : List Expected) (values : List Value) : Prop :=
  ∃ σ : Fin es.length ≃ Fin values.length, ∀ i, Sat es[i] values[σ i]

/-- No two of the elements compete: they accept the same ones among the values, or none together. -/
def Uncontested (es : List Expected) (values : List Value) : Prop :=
  ∀ e ∈ es, ∀ e' ∈ es, (∀ v ∈ values, Sat e v ↔ Sat e' v) ∨ ∀ v ∈ values, ¬ (Sat e v ∧ Sat e' v)

/-! ## Bijections of positions -/

section Positions

variable {α β : Type} {R : α → β → Prop}

theorem perm_ofFn_comp {n m : Nat} (σ : Fin n ≃ Fin m) (f : Fin m → β) :
    (List.ofFn (f ∘ σ)).Perm (List.ofFn f) := by
  have hsize : n = m := by simpa using Fintype.card_congr σ
  subst hsize
  exact Equiv.Perm.ofFn_comp_perm σ f

/-- A list in another order is the list read through a bijection. -/
theorem exists_equiv_of_perm {ys zs : List β} (h : zs.Perm ys) :
    ∃ σ : Fin zs.length ≃ Fin ys.length, ∀ i, zs[i] = ys[σ i] := by
  -- the new order lists the positions of the old one, each of them once
  have hmap : zs.Perm ((List.finRange ys.length).map ys.get) := by rwa [List.map_get_finRange]
  obtain ⟨places, rfl, hplaces⟩ : ∃ places : List (Fin ys.length),
      zs = places.map ys.get ∧ places.Perm (List.finRange ys.length) :=
    (congrFun (congrFun (List.eq_map_comp_perm ys.get) zs) _).mpr hmap
  have hnodup : places.Nodup := hplaces.nodup_iff.mpr (List.nodup_finRange _)
  have hall : ∀ i, i ∈ places := fun i => hplaces.mem_iff.mpr (List.mem_finRange i)
  have hlength : (places.map ys.get).length = places.length := List.length_map _
  refine ⟨(finCongr hlength).trans (hnodup.getEquivOfForallMemList places hall), fun i => ?_⟩
  simp

/-- Elements and values are matched one to one exactly if the values can be put in an order in which they meet
the elements one by one. -/
theorem exists_equiv_iff_forall₂_perm {xs : List α} {ys : List β} :
    (∃ σ : Fin xs.length ≃ Fin ys.length, ∀ i, R xs[i] ys[σ i])
      ↔ ∃ zs, List.Forall₂ R xs zs ∧ zs.Perm ys := by
  constructor
  · rintro ⟨σ, hσ⟩
    refine ⟨List.ofFn fun i => ys[σ i], ?_, ?_⟩
    · refine List.forall₂_iff_get.mpr ⟨List.length_ofFn.symm, fun i hi _ => ?_⟩
      simpa using hσ ⟨i, hi⟩
    · have hperm := perm_ofFn_comp σ ys.get
      rwa [List.ofFn_get] at hperm
  · rintro ⟨zs, hall, hperm⟩
    obtain ⟨hlength, hmeets⟩ := List.forall₂_iff_get.mp hall
    obtain ⟨σ, hσ⟩ := exists_equiv_of_perm hperm
    refine ⟨(finCongr hlength).trans σ, fun i => ?_⟩
    have hi : i.val < zs.length := hlength ▸ i.isLt
    have hread : zs[i.val] = ys[σ ⟨i.val, hi⟩] := hσ ⟨i.val, hi⟩
    have hmeet : R xs[i.val] zs[i.val] := hmeets i.val i.isLt hi
    rw [hread] at hmeet
    exact hmeet

/-- If one value is to be given up for another one, and whoever accepts the former accepts the latter, then the
rest can still be met. -/
theorem exists_exchange {xs : List α} {ys : List β} (h : List.Forall₂ R xs ys) {given own : β}
    (hmem : given ∈ ys) (hswap : ∀ x ∈ xs, R x given → R x own) :
    ∃ zs, List.Forall₂ R xs zs ∧ (given :: zs).Perm (own :: ys) := by
  induction h with
  | nil => cases hmem
  | @cons x y xs ys hfirst hrest ih =>
      obtain ⟨hx, hxs⟩ := List.forall_mem_cons.mp hswap
      rcases List.mem_cons.mp hmem with rfl | hlater
      · exact ⟨own :: ys, .cons (hx hfirst) hrest, .swap own given ys⟩
      · obtain ⟨zs, hzs, hperm⟩ := ih hlater hxs
        refine ⟨y :: zs, .cons hfirst hzs, ?_⟩
        calc (given :: y :: zs).Perm (y :: given :: zs) := .swap y given zs
          _ |>.Perm (y :: own :: ys) := hperm.cons y
          _ |>.Perm (own :: y :: ys) := .swap own y ys

end Positions

/-! ## Claims -/

/-- What has been claimed meets the expectations one by one, and together with the rest it is what was there. -/
theorem Sat.Claims.exists_forall₂ {ps : List (Value → Prop)} {values : List Value}
    (h : Sat.Claims ps values) :
    ∃ taken left, List.Forall₂ (fun p v => p v) ps taken ∧ (taken ++ left).Perm values := by
  induction h with
  | nil values => exact ⟨[], values, .nil, .refl values⟩
  | @cons p rest before after v _ hclaim _ ih =>
      obtain ⟨taken, left, htaken, hperm⟩ := ih
      refine ⟨v :: taken, left, .cons hclaim htaken, ?_⟩
      calc (v :: (taken ++ left)).Perm (v :: (before ++ after)) := hperm.cons v
        _ |>.Perm (before ++ v :: after) := List.perm_middle.symm

theorem exists_first_of_mem {values : List Value} {p : Value → Prop} {own : Value} (hmem : own ∈ values)
    (hown : p own) : ∃ before v after, values = before ++ v :: after ∧ (∀ x ∈ before, ¬ p x) ∧ p v := by
  classical
  have hsome : (values.find? fun v => decide (p v)).isSome := by
    rw [List.find?_isSome]
    exact ⟨own, hmem, by simpa using hown⟩
  obtain ⟨v, hv⟩ := Option.isSome_iff_exists.mp hsome
  obtain ⟨haccepted, before, after, hsplit, hbefore⟩ := List.find?_eq_some_iff_append.mp hv
  exact ⟨before, v, after, hsplit, by simpa using hbefore, by simpa using haccepted⟩

/-- Expectations that do not compete can make their claims in any order, if there is a way to meet them all. -/
theorem claims_of_forall₂_perm {ps : List (Value → Prop)} {values taken : List Value}
    (hfair : ∀ p ∈ ps, ∀ q ∈ ps, (∀ v ∈ values, p v ↔ q v) ∨ ∀ v ∈ values, ¬ (p v ∧ q v))
    (hmeets : List.Forall₂ (fun p v => p v) ps taken) (hperm : taken.Perm values) :
    Sat.Claims ps values := by
  induction ps generalizing values taken with
  | nil => exact .nil values
  | cons p rest ih =>
      cases hmeets with
      | @cons _ own _ others hown hothers =>
          have hownmem : own ∈ values := hperm.subset List.mem_cons_self
          obtain ⟨before, v, after, rfl, hbefore, hv⟩ := exists_first_of_mem hownmem hown
          have hvmem : v ∈ before ++ v :: after := List.mem_append_cons_self
          have hleft : (own :: others).Perm (v :: (before ++ after)) := hperm.trans List.perm_middle
          -- whoever accepts the claimed value accepts the one that is given in exchange
          have hswap : ∀ q ∈ rest, q v → q own := by
            intro q hq hqv
            rcases hfair p List.mem_cons_self q (List.mem_cons_of_mem p hq) with hsame | hnone
            · exact (hsame own hownmem).mp hown
            · exact absurd ⟨hv, hqv⟩ (hnone v hvmem)
          have hrest : ∃ others', List.Forall₂ (fun p v => p v) rest others' ∧
              others'.Perm (before ++ after) := by
            rcases List.mem_cons.mp (hperm.mem_iff.mpr hvmem) with rfl | hlater
            · exact ⟨others, hothers, hleft.cons_inv⟩
            · obtain ⟨others', hmeets', hperm'⟩ := exists_exchange hothers hlater hswap
              exact ⟨others', hmeets', (hperm'.trans hleft).cons_inv⟩
          obtain ⟨others', hmeets', hperm'⟩ := hrest
          refine .cons hbefore hv (ih (fun q hq q' hq' => ?_) hmeets' hperm')
          have hsub : ∀ w ∈ before ++ after, w ∈ before ++ v :: after := by
            intro w hw
            rcases List.mem_append.mp hw with hw | hw
            · exact List.mem_append_left _ hw
            · exact List.mem_append_right _ (List.mem_cons_of_mem v hw)
          rcases hfair q (List.mem_cons_of_mem p hq) q' (List.mem_cons_of_mem p hq') with hsame | hnone
          · exact .inl fun w hw => hsame w (hsub w hw)
          · exact .inr fun w hw => hnone w (hsub w hw)

/-! ## Matched elements -/

section Matching

variable {es es' : List Expected} {values values' : List Value}

/-- Instead of a bijection: the values in another order, each in the place of its element. -/
theorem matched_iff_forall₂_perm :
    Matched es values ↔ ∃ taken, List.Forall₂ Sat es taken ∧ taken.Perm values :=
  exists_equiv_iff_forall₂_perm

theorem Matched.length_eq (h : Matched es values) : values.length = es.length := by
  obtain ⟨σ, -⟩ := h
  simpa using (Fintype.card_congr σ).symm

/-- Neither the order of the elements nor that of the values matters. -/
theorem Matched.perm (h : Matched es values) (hes : es'.Perm es) (hvalues : values'.Perm values) :
    Matched es' values' := by
  obtain ⟨taken, htaken, hperm⟩ := matched_iff_forall₂_perm.mp h
  obtain ⟨taken', htaken', hperm'⟩ := List.perm_comp_forall₂ hes htaken
  refine matched_iff_forall₂_perm.mpr ⟨taken', htaken', ?_⟩
  calc taken'.Perm taken := hperm'
    _ |>.Perm values := hperm
    _ |>.Perm values' := hvalues.symm

theorem Uncontested.perm (h : Uncontested es values) (hes : es'.Perm es) (hvalues : values'.Perm values) :
    Uncontested es' values' := by
  intro e he e' he'
  rcases h e (hes.subset he) e' (hes.subset he') with hsame | hnone
  · exact .inl fun v hv => hsame v (hvalues.subset hv)
  · exact .inr fun v hv => hnone v (hvalues.subset hv)

/-- Claims that all succeed, with as many values as elements, make up a bijection. -/
theorem matched_of_claims (hlength : values.length = es.length) (h : Sat.Claims (satItems es) values) :
    Matched es values := by
  obtain ⟨taken, left, htaken, hperm⟩ := h.exists_forall₂
  rw [satItems_eq_map, List.forall₂_map_left_iff] at htaken
  have hleft : left = [] := by
    have htotal : taken.length + left.length = values.length := by
      rw [← List.length_append, hperm.length_eq]
    have htakenlength : es.length = taken.length := htaken.length_eq
    exact List.length_eq_zero_iff.mp (by omega)
  rw [hleft, List.append_nil] at hperm
  exact matched_iff_forall₂_perm.mpr ⟨taken, htaken, hperm⟩

/-- Where no two elements compete, none takes what a later one needs. -/
theorem claims_of_matched (hfair : Uncontested es values) (h : Matched es values) :
    Sat.Claims (satItems es) values := by
  obtain ⟨taken, htaken, hperm⟩ := matched_iff_forall₂_perm.mp h
  rw [satItems_eq_map]
  refine claims_of_forall₂_perm ?_ (List.forall₂_map_left_iff.mpr htaken) hperm
  intro p hp q hq
  obtain ⟨e, he, rfl⟩ := List.mem_map.mp hp
  obtain ⟨e', he', rfl⟩ := List.mem_map.mp hq
  exact hfair e he e' he'

/-- The claims of the rule are a matching, whether the elements compete or not. -/
theorem matched_of_sat_elementsMatch {label : Label} {a : Value}
    (h : Sat (.rule label (.elementsMatch es)) a) : ∃ values, a = .array values ∧ Matched es values := by
  obtain ⟨values, rfl, hlength, hclaims⟩ := h
  exact ⟨values, rfl, matched_of_claims hlength hclaims⟩

/-- Without competition the rule is complete as well. -/
theorem sat_elementsMatch_iff (hfair : Uncontested es values) (label : Label) :
    Sat (.rule label (.elementsMatch es)) (.array values) ↔ Matched es values := by
  constructor
  · intro h
    obtain ⟨values', heq, hmatched⟩ := matched_of_sat_elementsMatch h
    cases heq
    exact hmatched
  · intro h
    exact ⟨values, rfl, h.length_eq, claims_of_matched hfair h⟩

end Matching

/-! ## Testers -/

/-- **Elements in any order are matched one to one.** What is accepted is an array whose elements satisfy the
expected ones under a bijection. Where the expected elements do not compete, every array with such a bijection
is accepted, and neither the order of the expected elements nor that of the values makes a difference. -/
theorem Tester.elementsMatch_matches {es : List Expected} (h : ∀ e ∈ es, Builtin e) (t : Tester)
    (label : Label) :
    (∀ a, (t.test (.rule label (.elementsMatch es)) a).1 = .ok () →
      ∃ values, a = .array values ∧ Matched es values) ∧
    ∀ values, Uncontested es values →
      ((t.test (.rule label (.elementsMatch es)) (.array values)).1 = .ok () ↔ Matched es values) ∧
      ∀ es' values', es'.Perm es → values'.Perm values → ∀ (t' : Tester) (label' : Label),
        ((t'.test (.rule label' (.elementsMatch es')) (.array values')).1 = .ok ()
          ↔ (t.test (.rule label (.elementsMatch es)) (.array values)).1 = .ok ()) := by
  have haccepts : ∀ {es values}, (∀ e ∈ es, Builtin e) → Uncontested es values →
      ∀ (t : Tester) (label : Label),
        (t.test (.rule label (.elementsMatch es)) (.array values)).1 = .ok () ↔ Matched es values := by
    intro es values hbuiltin hfair t label
    rw [← sat_elementsMatch_iff hfair label]
    have hrule : Builtin (.rule label (.elementsMatch es)) := .elementsMatch label hbuiltin
    exact ⟨sat_of_test_eq_ok hrule, fun hsat => test_eq_ok_of_sat hrule hsat t⟩
  refine ⟨fun a ha => ?_, fun values hfair => ⟨haccepts h hfair t label, ?_⟩⟩
  · exact matched_of_sat_elementsMatch (sat_of_test_eq_ok (.elementsMatch label h) ha)
  · intro es' values' hes hvalues t' label'
    have hbuiltin' : ∀ e ∈ es', Builtin e := fun e he => h e (hes.subset he)
    rw [haccepts hbuiltin' (hfair.perm hes hvalues) t' label', haccepts h hfair t label]
    exact ⟨fun hm => hm.perm hes.symm hvalues.symm, fun hm => hm.perm hes hvalues⟩

/-- Two of these elements accept the same numbers, and the third one no number at all. -/
theorem elementsMatch_matches_reversed :
    let above (label : Label) : Expected := .rule label (.numeric ⟨.int 1, .above, false⟩)
    let es : List Expected := [above [0], .string "x", above [1]]
    let values : List Value := [.int 3, .int 2, .string "x"]
    let t : Tester := .ofOptions {}
    Uncontested es values ∧ Matched es values ∧
      (t.test (.rule [2] (.elementsMatch es.reverse)) (.array values.reverse)).1 = .ok () := by
  intro above es values t
  have hbuiltin : ∀ e ∈ es, Builtin e :=
    List.forall_mem_cons.mpr ⟨.numeric [0] _, List.forall_mem_cons.mpr
      ⟨.string "x", List.forall_mem_singleton.mpr (.numeric [1] _)⟩⟩
  have hapart : ∀ label, ∀ v ∈ values, ¬ (Sat (above label) v ∧ Sat (.string "x") v) := by
    rintro label v hv ⟨⟨n, hn, -⟩, (hstring : Tree.deepEqual _ _ = true)⟩
    simp only [values, List.mem_cons, List.not_mem_nil, or_false] at hv
    rcases hv with rfl | rfl | rfl
    · exact absurd hstring (by decide)
    · exact absurd hstring (by decide)
    · cases hn
  have hkinds : ∀ e ∈ es, (∃ label, e = above label) ∨ e = .string "x" :=
    List.forall_mem_cons.mpr ⟨.inl ⟨[0], rfl⟩, List.forall_mem_cons.mpr
      ⟨.inr rfl, List.forall_mem_singleton.mpr (.inl ⟨[1], rfl⟩)⟩⟩
  have hfair : Uncontested es values := by
    intro e he e' he'
    rcases hkinds e he with ⟨label, rfl⟩ | rfl
    · rcases hkinds e' he' with ⟨label', rfl⟩ | rfl
      · exact .inl fun v _ => Iff.rfl
      · exact .inr (hapart label)
    · rcases hkinds e' he' with ⟨label', rfl⟩ | rfl
      · exact .inr fun v hv hboth => hapart label' v hv hboth.symm
      · exact .inl fun v _ => Iff.rfl
  have hmatches := Tester.elementsMatch_matches hbuiltin t [2]
  have haccepted : (t.test (.rule [2] (.elementsMatch es)) (.array values)).1 = .ok () := by
    rw [Tester.test_eq_verdict]
    rfl
  obtain ⟨hiff, hperm⟩ := hmatches.2 values hfair
  refine ⟨hfair, hiff.mp haccepted, ?_⟩
  exact (hperm es.reverse values.reverse es.reverse_perm values.reverse_perm t [2]).mpr haccepted

/-- An element that accepts everything claims the only value that the other one accepts. -/
example :
    let es : List Expected := [.rule [0] .any, .int 1]
    let values : List Value := [.int 1, .int 2]
    Matched es values ∧
      ((Tester.ofOptions {}).test (.rule [1] (.elementsMatch es)) (.array values)).1 ≠ .ok () := by
  intro es values
  constructor
  · refine matched_iff_forall₂_perm.mpr ⟨values.reverse, ?_, values.reverse_perm⟩
    exact .cons trivial (.cons (by decide : Tree.deepEqual _ _ = true) .nil)
  · rw [Tester.test_eq_verdict]
    nofun

end Conformance
