import Conformance.Proofs.Checks

/-!
# What a tester has been through

A tester changes with every comparison that it makes: buffers of its pool are made, lent and taken back.
None of this shows in later results. Nor does the plan for look-ups, since an index that is built into an
emptied buffer finds what a search from the start finds, whatever the hash, and whatever the buffer held
before. All that a result depends on, apart from the tree and the value, is the mode.
-/

set_option autoImplicit false

namespace Conformance

namespace Tester

/-- The tester once it has made some comparisons. -/
def after (t : Tester) (past : List (Expected × Value)) : Tester :=
  past.foldl (fun t p => (t.test p.1 p.2).2) t

@[simp] theorem options_test (t : Tester) (e : Expected) (a : Value) :
    (t.test e a).2.options = t.options := rfl

@[simp] theorem options_after (t : Tester) (past : List (Expected × Value)) :
    (t.after past).options = t.options := by
  induction past generalizing t with
  | nil => rfl
  | cons p rest ih =>
      have hstep : (t.after (p :: rest)) = (t.test p.1 p.2).2.after rest := rfl
      rw [hstep, ih, options_test]

/-- **Testers of the same mode give the same results**, with any two thresholds, hashes and pools, and after
any two sequences of comparisons. -/
theorem test_after_eq (t₁ t₂ : Tester) (hmode : t₁.options.collectAll = t₂.options.collectAll)
    (past₁ past₂ : List (Expected × Value)) (e : Expected) (a : Value) :
    ((t₁.after past₁).test e a).1 = ((t₂.after past₂).test e a).1 := by
  rw [test_eq_verdict, test_eq_verdict, options_after, options_after, hmode]

/-- A negative threshold, a hash that takes all keys for one, and a buffer that held another document. -/
theorem test_after_eq_of_collisions :
    let e : Expected := .document [("b", .int 2), ("a", .int 1), ("b", .rule [0] (.notEqual (.int 3)))]
    let a : Value := .document [("a", .int 1), ("b", .int 3), ("b", .int 2)]
    let indexed : Tester := ⟨{ threshold := -3, collectAll := true }, .empty .standard, fun _ => 0⟩
    let searching : Tester := .ofOptions { threshold := 100, collectAll := true }
    let past : List (Expected × Value) := [(.document [("x", .null)], a)]
    ((indexed.after past).test e a).1 = (searching.test e a).1 ∧
      (searching.test e a).1.mismatches.map (·.path.segments) = [[.key "b"], [.key "b"]] := by
  intro e a indexed searching past
  refine ⟨test_after_eq indexed searching rfl past [] e a, ?_⟩
  rw [test_eq_verdict]
  rfl

end Tester

end Conformance
