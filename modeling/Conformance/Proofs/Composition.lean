import Conformance.Proofs.Checks

/-!
# The report of a whole and the reports of its parts

Where a tester collects, its report on a tree is made of its reports on the parts of the tree, with nothing
lost, nothing said twice and nothing out of order. What is found at a part comes under the step that leads
there; where a document or an array is not even the right shape, nothing is said of the parts.
-/

set_option autoImplicit false

namespace Conformance

structure Compositional (report : Expected → Value → List Mismatch) : Prop where
  /-- Entry by entry, in the order of the expected document. -/
  document : ∀ (es : List (String × Expected)) (actual : List (String × Value)),
    report (.document es) (.document actual) = es.flatMap fun entry =>
      match lookup entry.1 actual with
      | some v => (report entry.2 v).map (Mismatch.under ⟨[.key entry.1]⟩)
      | none => [⟨⟨[.key entry.1]⟩, "key not found"⟩]
  documentShape : ∀ (es : List (String × Expected)) (a : Value), (∀ actual, a ≠ .document actual) →
    report (.document es) a = [⟨.root, "expected document, got " ++ a.kind⟩]
  /-- Element by element. -/
  array : ∀ (es : List Expected) (values : List Value), es.length = values.length →
    report (.array es) (.array values) = (es.zip values).zipIdx.flatMap fun ((e, v), i) =>
      (report e v).map (Mismatch.under ⟨[.index i]⟩)
  arrayLength : ∀ (es : List Expected) (values : List Value), es.length ≠ values.length →
    report (.array es) (.array values)
      = [⟨.root, "length mismatch: expected " ++ toString es.length ++ ", got " ++
          toString values.length⟩]
  arrayShape : ∀ (es : List Expected) (a : Value), (∀ values, a ≠ .array values) →
    report (.array es) a = [⟨.root, "expected array, got " ++ a.kind⟩]
  /-- Operand by operand. -/
  and : ∀ (label : Label) (es : List Expected) (a : Value),
    report (.rule label (.and es)) a = es.flatMap (report · a)
  /-- Nothing if some operand has nothing to say. -/
  orAccepted : ∀ (label : Label) (es : List Expected) (a : Value), (∃ e ∈ es, report e a = []) →
    report (.rule label (.or es)) a = []
  /-- Otherwise operand by operand. There are operands: a directive without any is not decoded. -/
  orRejected : ∀ (label : Label) (es : List Expected) (a : Value), es ≠ [] →
    (∀ e ∈ es, report e a ≠ []) → report (.rule label (.or es)) a = es.flatMap (report · a)
  /-- One mismatch for each operand that has nothing to say. -/
  nor : ∀ (label : Label) (es : List Expected) (a : Value),
    report (.rule label (.nor es)) a
      = (es.zipIdx.filter fun (e, _) => (report e a).isEmpty).map fun (_, i) =>
          ⟨.root, "$nor failed: alternative " ++ toString i ++ " matched"⟩

/-- A tester that collects reports all that there is to find. -/
theorem Tester.mismatches_test {t : Tester} (hmode : t.options.collectAll = true) (e : Expected)
    (a : Value) : (t.test e a).1.mismatches = findTree true e a := by
  rw [test_eq_verdict, hmode, mismatches_verdict_true]

theorem flatMap_ite_singleton {α β : Type} (p : α → Bool) (f : α → β) (l : List α) :
    (l.flatMap fun x => if p x then [f x] else []) = (l.filter p).map f := by
  induction l with
  | nil => rfl
  | cons x rest ih =>
      rw [List.flatMap_cons, ih]
      by_cases hx : p x = true
      · rw [if_pos hx, List.filter_cons_of_pos hx, List.map_cons, List.singleton_append]
      · rw [if_neg hx, List.filter_cons_of_neg hx, List.nil_append]

/-- What is found when everything is collected follows the structure of the tree. -/
theorem compositional_findTree : Compositional (findTree true) where
  document := findTree_document true
  documentShape := fun es _ hshape => findTree_document_shape true es hshape
  array := fun _ _ hlength => findTree_array true hlength
  arrayLength := fun _ _ hlength => findTree_array_length true hlength
  arrayShape := fun es _ hshape => findTree_array_shape true es hshape
  and := findTree_and true
  orAccepted := by
    rintro label es a ⟨e, he, haccepts⟩
    rw [findTree_or, or_eq_nil_iff, List.any_map, List.any_eq_true]
    exact ⟨e, he, accepts_iff.mpr haccepts⟩
  orRejected := fun label es a hsome hall => by
    rw [findTree_or, or_of_rejected (by simpa using hsome) (List.forall_mem_map.mpr hall),
      List.flatMap_map]
  nor := fun label es a => by
    rw [findTree_nor, ← flatMap_ite_singleton]
    rfl

/-- **The report of a tester that collects is compositional.** -/
theorem Tester.compositional_mismatches (t : Tester) (hmode : t.options.collectAll = true) :
    Compositional fun e a => (t.test e a).1.mismatches := by
  simp only [Tester.mismatches_test hmode]
  exact compositional_findTree

/-- The mismatches of rejected alternatives come under the key of the entry that offers them. -/
theorem compositional_mismatches_or_in_document :
    let t : Tester := .ofOptions { collectAll := true }
    let report : Expected → Value → List Mismatch := fun e a => (t.test e a).1.mismatches
    let alternatives : List Expected := [.int 1, .document [("x", .int 2)]]
    report (.document [("k", .rule [0] (.or alternatives))]) (.document [("k", .document [])])
        = (alternatives.flatMap (report · (.document []))).map (Mismatch.under ⟨[.key "k"]⟩) ∧
      (alternatives.flatMap (report · (.document []))).length = 2 := by
  intro t report alternatives
  have h : Compositional report := Tester.compositional_mismatches t rfl
  have hrejected : ∀ e ∈ alternatives, report e (.document []) ≠ [] := by
    rw [List.forall_mem_cons, List.forall_mem_singleton]
    exact ⟨List.cons_ne_nil _ _, List.cons_ne_nil _ _⟩
  have hor := h.orRejected [0] alternatives (.document []) (List.cons_ne_nil _ _) hrejected
  refine ⟨?_, rfl⟩
  rw [h.document, List.flatMap_singleton, ← hor]
  rfl

end Conformance
