import Conformance.Tree.Basic
import Mathlib.Data.List.Forall2
import Mathlib.Data.List.Nodup

/-!
# Lists of entries

What a look-up finds, in terms of the entries of a document: the value of some entry with the key, or nothing if
there is none. In a document that repeats no key, every entry is the one that is found. Two lists are compared
one by one with `List.Forall₂`.
-/

set_option autoImplicit false

namespace Conformance

variable {α β : Type}

/-! ## Look-ups -/

theorem lookup_cons_of_ne {key name : String} (h : name ≠ key) (v : α) (rest : List (String × α)) :
    lookup key ((name, v) :: rest) = lookup key rest := by
  rw [List.lookup_cons, beq_eq_false_iff_ne.mpr h.symm]

theorem mem_of_lookup {key : String} {entries : List (String × α)} {v : α}
    (h : lookup key entries = some v) : (key, v) ∈ entries := by
  obtain ⟨before, after, rfl, -⟩ := List.lookup_eq_some_iff.mp h
  exact List.mem_append_right before List.mem_cons_self

theorem ne_of_lookup_eq_none {key : String} {entries : List (String × α)} (h : lookup key entries = none) :
    ∀ entry ∈ entries, entry.1 ≠ key := by
  intro entry hmem
  exact (bne_iff_ne.mp (List.lookup_eq_none_iff.mp h entry hmem)).symm

theorem exists_lookup_of_mem_keys {key : String} {entries : List (String × α)}
    (h : key ∈ entries.map Prod.fst) : ∃ v, lookup key entries = some v := by
  obtain ⟨entry, hmem, rfl⟩ := List.mem_map.mp h
  exact Option.isSome_iff_exists.mp (List.lookup_isSome_iff.mpr ⟨entry, hmem, BEq.rfl⟩)

/-- Where no key is repeated, every entry is the one that is found under its key. -/
theorem lookup_of_mem {entries : List (String × α)} (hkeys : (entries.map Prod.fst).Nodup) {key : String}
    {v : α} (hmem : (key, v) ∈ entries) : lookup key entries = some v := by
  obtain ⟨before, after, rfl⟩ := List.append_of_mem hmem
  refine List.lookup_eq_some_iff.mpr ⟨before, after, rfl, fun entry hentry => bne_iff_ne.mpr ?_⟩
  rintro rfl
  rw [List.map_append, List.map_cons, List.nodup_append] at hkeys
  exact hkeys.2.2 entry.1 (List.mem_map_of_mem hentry) entry.1 List.mem_cons_self rfl

theorem lookup_map (f : α → β) (key : String) (entries : List (String × α)) :
    lookup key (entries.map fun entry => (entry.1, f entry.2)) = (lookup key entries).map f := by
  induction entries with
  | nil => rfl
  | cons entry rest ih =>
      obtain ⟨name, v⟩ := entry
      rw [List.map_cons]
      by_cases hkey : name = key
      · subst hkey
        rw [List.lookup_cons_self, List.lookup_cons_self, Option.map_some]
      · rw [lookup_cons_of_ne hkey, lookup_cons_of_ne hkey, ih]

/-- An entry with another key may stand anywhere. -/
theorem lookup_insert_of_ne {key added : String} (hne : added ≠ key) (x : α)
    (before after : List (String × α)) :
    lookup key (before ++ (added, x) :: after) = lookup key (before ++ after) := by
  rw [List.lookup_append, List.lookup_append, lookup_cons_of_ne hne]

/-- Two neighbours with different keys may change places: at most one of them has the key. -/
theorem lookup_swap (key : String) {x y : String × α} (hne : x.1 ≠ y.1)
    (before after : List (String × α)) :
    lookup key (before ++ x :: y :: after) = lookup key (before ++ y :: x :: after) := by
  have hneighbours : lookup key (x :: y :: after) = lookup key (y :: x :: after) := by
    obtain ⟨first, v⟩ := x
    by_cases hfirst : first = key
    · subst hfirst
      rw [List.lookup_cons_self, lookup_cons_of_ne hne.symm, List.lookup_cons_self]
    · rw [lookup_cons_of_ne hfirst, List.lookup_cons, List.lookup_cons, lookup_cons_of_ne hfirst]
  rw [List.lookup_append, List.lookup_append, hneighbours]

/-- What comes later under the same key is never found. -/
theorem lookup_insert_again (key name : String) (v w : α) (before between after : List (String × α)) :
    lookup key (before ++ (name, v) :: (between ++ (name, w) :: after))
      = lookup key (before ++ (name, v) :: (between ++ after)) := by
  have hfirst : lookup key ((name, v) :: (between ++ (name, w) :: after))
      = lookup key ((name, v) :: (between ++ after)) := by
    by_cases hname : name = key
    · subst hname
      rw [List.lookup_cons_self, List.lookup_cons_self]
    · rw [lookup_cons_of_ne hname, lookup_cons_of_ne hname, lookup_insert_of_ne hname]
  rw [List.lookup_append, List.lookup_append, hfirst]

/-! ## Lists compared one by one -/

/-- What is known of the pairs may depend on where the two come from. -/
theorem forall₂_imp_of_mem {R S : α → β → Prop} {xs : List α} {ys : List β} (h : List.Forall₂ R xs ys)
    (himp : ∀ x ∈ xs, ∀ y ∈ ys, R x y → S x y) : List.Forall₂ S xs ys := by
  induction h with
  | nil => exact .nil
  | @cons x y xs ys hfirst _ ih =>
      have hhead : S x y := himp x List.mem_cons_self y List.mem_cons_self hfirst
      exact .cons hhead (ih fun x hx y hy => himp x (List.mem_cons_of_mem _ hx) y (List.mem_cons_of_mem _ hy))

/-- Two comparisons in a row make one. -/
theorem forall₂_trans_of_mem {γ : Type} {R : α → β → Prop} {S : β → γ → Prop} {T : α → γ → Prop}
    {xs : List α} {ys : List β} {zs : List γ} (hxy : List.Forall₂ R xs ys) (hyz : List.Forall₂ S ys zs)
    (himp : ∀ x ∈ xs, ∀ y z, R x y → S y z → T x z) : List.Forall₂ T xs zs := by
  induction hxy generalizing zs with
  | nil =>
      cases hyz
      exact .nil
  | cons hfirst _ ih =>
      obtain ⟨hx, hrest⟩ := List.forall_mem_cons.mp himp
      cases hyz with
      | cons hnext hlater => exact .cons (hx _ _ hfirst hnext) (ih hlater hrest)

theorem keys_eq_of_forall₂ {R : String × α → String × β → Prop} (hR : ∀ x y, R x y → x.1 = y.1)
    {xs : List (String × α)} {ys : List (String × β)} (h : List.Forall₂ R xs ys) :
    xs.map Prod.fst = ys.map Prod.fst := by
  induction h with
  | nil => rfl
  | cons hfirst _ ih => rw [List.map_cons, List.map_cons, hR _ _ hfirst, ih]

end Conformance
