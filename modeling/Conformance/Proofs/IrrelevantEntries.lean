import Conformance.Proofs.Checks
import Mathlib.Logic.Relation

/-!
# Entries that do not matter

Of a document that it is compared with, an expected document sees the first entry with each of its own keys, and
nothing else: not the other keys, not what comes later under the same key, not the order. `Unnoticed keys` lists
the changes that cannot be seen by those who ask for these keys. The main statement is about two runs, on two
testers that need not have anything in common but their mode: one may search and the other build an index, in
which positions and slots have changed with every entry put in.
-/

set_option autoImplicit false

namespace Conformance

/-- A change to the entries of a document that is not noticed by those who ask for the given keys. -/
inductive Unnoticed (keys : List String) : List (String × Value) → List (String × Value) → Prop where
  /-- An entry with another key is put in. -/
  | insert (before after : List (String × Value)) {key : String} (v : Value) (h : key ∉ keys) :
      Unnoticed keys (before ++ after) (before ++ (key, v) :: after)
  /-- Neighbours with different keys change places. -/
  | swap (before after : List (String × Value)) {x y : String × Value} (h : x.1 ≠ y.1) :
      Unnoticed keys (before ++ x :: y :: after) (before ++ y :: x :: after)
  /-- An entry is put in behind one with the same key. -/
  | again (before between after : List (String × Value)) (key : String) (v w : Value) :
      Unnoticed keys (before ++ (key, v) :: (between ++ after))
        (before ++ (key, v) :: (between ++ (key, w) :: after))

/-- Look-ups of the keys find the same in both lists of entries. -/
def SameUnder (keys : List String) (xs ys : List (String × Value)) : Prop :=
  ∀ key ∈ keys, lookup key xs = lookup key ys

/-- A change that is not noticed leaves the first value under each of the keys. -/
theorem Unnoticed.sameUnder {keys : List String} {xs ys : List (String × Value)} (h : Unnoticed keys xs ys) :
    SameUnder keys xs ys := by
  intro key hkey
  cases h with
  | @insert before after added v hnew =>
      have hne : added ≠ key := by
        rintro rfl
        exact hnew hkey
      exact (lookup_insert_of_ne hne v before after).symm
  | swap before after hne => exact lookup_swap key hne before after
  | again before between after name v w => exact (lookup_insert_again key name v w before between after).symm

/-- Any number of such changes, made or undone, is not noticed either. -/
theorem sameUnder_of_eqvGen {keys : List String} {xs ys : List (String × Value)}
    (h : Relation.EqvGen (Unnoticed keys) xs ys) : SameUnder keys xs ys := by
  induction h with
  | rel xs ys h => exact h.sameUnder
  | refl xs => exact fun key _ => rfl
  | symm xs ys _ ih => exact fun key hkey => (ih key hkey).symm
  | trans xs ys zs _ _ ih ih' => exact fun key hkey => (ih key hkey).trans (ih' key hkey)

/-- An expected document finds the same in documents that are the same under its keys. -/
theorem findTree_document_congr {k : Bool} {entries : List (String × Expected)}
    {actual actual' : List (String × Value)} (h : SameUnder (entries.map Prod.fst) actual actual') :
    findTree k (.document entries) (.document actual) = findTree k (.document entries) (.document actual') := by
  rw [findTree_document, findTree_document]
  refine List.flatMap_congr fun entry hmem => ?_
  have hkey : entry.1 ∈ entries.map Prod.fst := List.mem_map_of_mem hmem
  rw [Find.entry, Find.entry, h entry.1 hkey]

/-- **Irrelevant entries do not interfere.** Two documents in which the first entries under the keys of an expected
one are the same have the same result, whatever the testers of one mode are. So it is with documents that come
from each other by putting in entries with other keys or behind one with the same key, by changing the order of
different keys, and by undoing such changes. -/
theorem Tester.test_document_congr (entries : List (String × Expected)) (t t' : Tester)
    (hmode : t.options.collectAll = t'.options.collectAll) (actual actual' : List (String × Value)) :
    ((∀ entry ∈ entries, lookup entry.1 actual = lookup entry.1 actual') →
        (t.test (.document entries) (.document actual)).1 = (t'.test (.document entries) (.document actual')).1) ∧
      (Relation.EqvGen (Unnoticed (entries.map Prod.fst)) actual actual' →
        (t.test (.document entries) (.document actual)).1
          = (t'.test (.document entries) (.document actual')).1) := by
  have hsame : SameUnder (entries.map Prod.fst) actual actual' →
      (t.test (.document entries) (.document actual)).1
        = (t'.test (.document entries) (.document actual')).1 := by
    intro h
    rw [test_eq_verdict, test_eq_verdict, ← hmode, findTree_document_congr h]
  constructor
  · intro h
    exact hsame (List.forall_mem_map.mpr h)
  · intro h
    exact hsame (sameUnder_of_eqvGen h)

/-- Two mismatches are found on both sides of the threshold, with an index in which all keys fall into one slot
and a document that has changed in all three ways. -/
theorem test_document_congr_of_changes :
    let entries : List (String × Expected) := [("b", .int 2), ("a", .rule [0] .required), ("c", .null)]
    let actual : List (String × Value) := [("a", .int 0), ("b", .int 2)]
    let actual' : List (String × Value) :=
      [("x", .null), ("b", .int 2), ("a", .int 0), ("b", .null), ("x", .int 1)]
    let searching : Tester := .ofOptions { threshold := 3, collectAll := true }
    let indexed : Tester := ⟨{ threshold := 2, collectAll := true }, .empty .standard, fun _ => 0⟩
    (searching.test (.document entries) (.document actual)).1
        = (indexed.test (.document entries) (.document actual')).1 ∧
      (searching.test (.document entries) (.document actual)).1.mismatches.map (·.path.segments)
        = [[.key "a"], [.key "c"]] := by
  intro entries actual actual' searching indexed
  let keys := entries.map Prod.fst
  have hnew : "x" ∉ keys := by decide
  have hchanges : Relation.EqvGen (Unnoticed keys) actual actual' := by
    -- a new key in front and at the end, the neighbours swapped, and a second entry for one of them
    have hfront : Unnoticed keys actual [("x", .null), ("a", .int 0), ("b", .int 2)] :=
      .insert [] actual .null hnew
    have hswap : Unnoticed keys [("x", .null), ("a", .int 0), ("b", .int 2)]
        [("x", .null), ("b", .int 2), ("a", .int 0)] :=
      .swap [("x", .null)] [] (by decide)
    have hagain : Unnoticed keys [("x", .null), ("b", .int 2), ("a", .int 0)]
        [("x", .null), ("b", .int 2), ("a", .int 0), ("b", .null)] :=
      .again [("x", .null)] [("a", .int 0)] [] "b" (.int 2) .null
    have hend : Unnoticed keys [("x", .null), ("b", .int 2), ("a", .int 0), ("b", .null)] actual' :=
      .insert [("x", .null), ("b", .int 2), ("a", .int 0), ("b", .null)] [] (.int 1) hnew
    exact .trans _ _ _ (.rel _ _ hfront)
      (.trans _ _ _ (.rel _ _ hswap) (.trans _ _ _ (.rel _ _ hagain) (.rel _ _ hend)))
  refine ⟨(Tester.test_document_congr entries searching indexed rfl actual actual').2 hchanges, ?_⟩
  rw [Tester.test_eq_verdict]
  rfl

end Conformance
