import Conformance.Proofs.Checks

/-!
# Wrappers that make no difference

To ask for a conjunction of one operand is to ask for the operand, to ask for equality with anything but a
document is to ask for the thing itself, and a conjunction within a conjunction may be written out. `Wraps` lists
these three. `InPlace R` is the closure of a relation under the positions of a tree that the comparison comes to:
entries, elements, and the operands of the four combinators. What is found at a whole depends on its parts only
through what is found at these, so that relations which preserve it may be applied anywhere.

The operands of other rules are left out for a reason: their texts are part of messages.
-/

set_option autoImplicit false

namespace Conformance

/-- The second tree is the first one in a wrapper, or one wrapper less. -/
inductive Wraps : Expected → Expected → Prop where
  | conjunction (label : Label) (e : Expected) : Wraps e (.rule label (.and [e]))
  | equality (label : Label) {e : Expected} (hshape : ∀ entries, e ≠ .document entries) :
      Wraps e (.rule label (.equal e))
  /-- The operands of a conjunction take its place among those of another one. -/
  | flattening (outer inner label : Label) (before operands after : List Expected) :
      Wraps (.rule outer (.and (before ++ .rule inner (.and operands) :: after)))
        (.rule label (.and (before ++ operands ++ after)))

/-- The second tree is the first one with one part replaced by a related one. A rule with another operand is
another rule, so that its label may change. -/
inductive InPlace (R : Expected → Expected → Prop) : Expected → Expected → Prop where
  | here {e f : Expected} (h : R e f) : InPlace R e f
  | entry (before after : List (String × Expected)) (key : String) {e f : Expected} (h : InPlace R e f) :
      InPlace R (.document (before ++ (key, e) :: after)) (.document (before ++ (key, f) :: after))
  | element (before after : List Expected) {e f : Expected} (h : InPlace R e f) :
      InPlace R (.array (before ++ e :: after)) (.array (before ++ f :: after))
  | and (label label' : Label) (before after : List Expected) {e f : Expected} (h : InPlace R e f) :
      InPlace R (.rule label (.and (before ++ e :: after))) (.rule label' (.and (before ++ f :: after)))
  | or (label label' : Label) (before after : List Expected) {e f : Expected} (h : InPlace R e f) :
      InPlace R (.rule label (.or (before ++ e :: after))) (.rule label' (.or (before ++ f :: after)))
  | nor (label label' : Label) (before after : List Expected) {e f : Expected} (h : InPlace R e f) :
      InPlace R (.rule label (.nor (before ++ e :: after))) (.rule label' (.nor (before ++ f :: after)))
  | not (label label' : Label) {e f : Expected} (h : InPlace R e f) :
      InPlace R (.rule label (.not e)) (.rule label' (.not f))

/-! ## What is found -/

/-- A wrapper finds what is found without it. -/
theorem Wraps.findTree_eq {e f : Expected} (h : Wraps e f) (k : Bool) : findTree k e = findTree k f := by
  cases h with
  | conjunction label e =>
      funext a
      rw [findTree_and, List.flatMap_singleton]
  | equality label hshape => exact (findTree_same hshape k label).symm
  | flattening outer inner label before operands after =>
      funext a
      calc findTree k (.rule outer (.and (before ++ .rule inner (.and operands) :: after))) a
          = before.flatMap (findTree k · a)
              ++ (findTree k (.rule inner (.and operands)) a ++ after.flatMap (findTree k · a)) := by
            rw [findTree_and, List.flatMap_append, List.flatMap_cons]
        _ = before.flatMap (findTree k · a)
              ++ (operands.flatMap (findTree k · a) ++ after.flatMap (findTree k · a)) := by
            rw [findTree_and]
        _ = findTree k (.rule label (.and (before ++ operands ++ after))) a := by
            rw [findTree_and, List.flatMap_append, List.flatMap_append, List.append_assoc]

/-- **Findings are a congruence**: a part may be replaced by one that finds the same. -/
theorem InPlace.findTree_eq {R : Expected → Expected → Prop} {k : Bool}
    (hR : ∀ e f, R e f → findTree k e = findTree k f) {e f : Expected} (h : InPlace R e f) :
    findTree k e = findTree k f := by
  -- of the operands of a combinator only their finders are used
  have hitems : ∀ (before after : List Expected) {e f : Expected}, findTree k e = findTree k f →
      findItems k (before ++ e :: after) = findItems k (before ++ f :: after) := by
    intro before after e f ih
    rw [findItems_eq_map, findItems_eq_map, List.map_append, List.map_append, List.map_cons,
      List.map_cons, ih]
  induction h with
  | here h => exact hR _ _ h
  | entry before after key h ih =>
      rw [findTree, findTree, findEntries_eq_map, findEntries_eq_map, List.map_append, List.map_append,
        List.map_cons, List.map_cons, ih]
  | element before after h ih => rw [findTree, findTree, hitems before after ih]
  | and label label' before after h ih =>
      rw [findTree, findRule, findTree, findRule, hitems before after ih]
  | or label label' before after h ih =>
      rw [findTree, findRule, findTree, findRule, hitems before after ih]
  | nor label label' before after h ih =>
      rw [findTree, findRule, findTree, findRule, hitems before after ih]
  | not label label' h ih => rw [findTree, findRule, findTree, findRule, ih]

/-! ## The main statement -/

/-- **Wrappers are transparent**: to put one around a part of a tree, or to take one away, leaves the whole result
as it is, in either mode and with any threshold. -/
theorem Tester.test_wrapped {e f : Expected} (h : InPlace Wraps e f) (t : Tester) (a : Value) :
    (t.test f a).1 = (t.test e a).1 := by
  -- a result is a verdict on what is found, so that equal findings are enough
  have hsame : findTree t.options.collectAll e = findTree t.options.collectAll f :=
    h.findTree_eq fun e f hwraps => hwraps.findTree_eq t.options.collectAll
  rw [test_eq_verdict, test_eq_verdict, hsame]

/-- An `or` that has to stop quotes the path and the message from under the wrapper, and so it does where the
conjunction that wraps them is one among several operands. -/
theorem test_wrapped_quoted :
    let wrapped : Expected → Expected := fun e =>
      .document [("k", .rule [0] (.or [.array [.null, e], .rule [1] (.not (.rule [2] .any))]))]
    let a : Value := .document [("k", .array [.null, .int 2])]
    let t : Tester := .ofOptions { threshold := 0 }
    (t.test (wrapped (.rule [3] (.and [.int 1]))) a).1 = (t.test (wrapped (.int 1)) a).1 ∧
      (t.test (wrapped (.rule [3] (.equal (.int 1)))) a).1 = (t.test (wrapped (.int 1)) a).1 ∧
      (t.test (wrapped (.rule [3] (.and [.rule [4] .required, .int 1, .string "x", .null]))) a).1
        = (t.test (wrapped (.rule [3] (.and
            [.rule [4] .required, .rule [5] (.and [.int 1, .string "x"]), .null]))) a).1 ∧
      (t.test (wrapped (.int 1)) a).1 = .error (.single ⟨⟨[.key "k"]⟩,
        "$or failed: value did not satisfy any alternative; first error: [1]: " ++
          "expected int 1, got int 2"⟩) := by
  intro wrapped a t
  have hplace : ∀ {e f : Expected}, Wraps e f → InPlace Wraps (wrapped e) (wrapped f) := by
    intro e f h
    exact .entry [] [] "k" (.or [0] [0] [] _ (.element [.null] [] (.here h)))
  refine ⟨?_, ?_, ?_, ?_⟩
  · exact Tester.test_wrapped (hplace (.conjunction [3] (.int 1))) t a
  · exact Tester.test_wrapped (hplace (.equality [3] (by nofun))) t a
  · exact Tester.test_wrapped
      (hplace (.flattening [3] [5] [3] [.rule [4] .required] [.int 1, .string "x"] [.null])) t a
  · rw [Tester.test_eq_verdict]
    rfl

end Conformance
