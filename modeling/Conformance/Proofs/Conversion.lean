import Conformance.Proofs.Constructors
import Conformance.Rule.Text

/-!
# The two conversions of a JSON value

A value comes into a comparison in two ways: decoded by a registry on the side of the expectation, and as plain
data (`Tree.ofJson`) on the other side. Off directives the two are the same conversion, whatever constructors
the registry has. With the registry of all directives, a rule in the decoded tree is the trace of a directive in
the value, and the other way round.
-/

set_option autoImplicit false

namespace Conformance

/-- Plain data has no rules to show, so that both sides of a comparison have the same tree for it. -/
theorem view_ofJson (j : Json) : view (.ofJson j) = .ofJson j := by
  induction j using Json.induction with
  | integer i =>
      have hnumber : ∀ n : Number, view (.ofNumber n) = .ofNumber n := by
        intro n
        cases n with
        | int i => rfl
        | float x => rfl
      exact hnumber (.ofInteger i)
  | array items ih =>
      rw [Tree.ofJson, Tree.ofJson, view, viewItems_eq_map, Tree.ofJsonItems_eq_map,
        Tree.ofJsonItems_eq_map, List.map_map]
      exact congrArg Tree.array (List.map_congr_left ih)
  | object members ih =>
      rw [Tree.ofJson, Tree.ofJson, view, viewEntries_eq_map, Tree.ofJsonMembers_eq_map,
        Tree.ofJsonMembers_eq_map, List.map_map]
      exact congrArg Tree.document (List.map_congr_left fun m hm => by simp [ih m hm])
  | _ => rfl

/-- **Decoding and the plain conversion agree off directives.** In every registry, a value without directives is
decoded into the very tree that the other side of a comparison has for it. With all directives, a decoded tree
has a rule exactly if the value has a directive at some depth. -/
theorem Registry.decode_off_directives (origin : Nat) (j : Json) :
    (∀ r : Registry, ¬ j.HasDirective r →
      r.decode origin j = .ok (.ofJson j) ∧ view (.ofJson j) = .ofJson j) ∧
    ∀ e, Registry.builtin.decode origin j = .ok e →
      (e.hasRule = true ↔ j.HasDirective Registry.builtin) := by
  constructor
  · intro r hplain
    exact ⟨Registry.decoded_of_plain hplain [origin], view_ofJson j⟩
  · intro e he
    exact Registry.hasRule_iff_hasDirective Directive.builtin_makesRules he

/-- A registry whose only constructor refuses everything is never asked: one object has a second member, and the
other one a token that is not registered. The latter is a directive where all are, and makes a rule. -/
theorem decode_off_directives_lookalikes :
    let r : Registry := ⟨[("$x", fun _ _ => .error .pattern)]⟩
    let j : Json := .array [.object [("$x", .null), ("$any", .bool true)],
      .object [("$any", .integer 0xFFFFFFFFFFFFFFFF)]]
    r.decode 0 j = .ok (.ofJson j) ∧
      ∃ e, Registry.builtin.decode 0 j = .ok e ∧ e.hasRule = true := by
  intro r j
  have hplain : ¬ j.HasDirective r := by
    intro (h : Json.HasDirective r (.array _))
    cases h with
    | item hmem hitem =>
        simp only [List.mem_cons, List.not_mem_nil, or_false] at hmem
        rcases hmem with rfl | rfl
        · cases hitem with
          | here hdirective =>
              obtain ⟨token, payload, hmembers, -⟩ := hdirective
              cases hmembers
          | member hmem hmember =>
              simp only [List.mem_cons, List.not_mem_nil, or_false] at hmem
              rcases hmem with rfl | rfl
              · cases hmember
              · cases hmember
        · cases hitem with
          | here hdirective =>
              obtain ⟨token, payload, hmembers, htoken⟩ := hdirective
              cases hmembers
              exact absurd htoken (by decide)
          | member hmem hmember =>
              cases List.mem_singleton.mp hmem
              cases hmember
  have hmember : j.HasDirective .builtin :=
    .item (List.mem_cons_of_mem _ List.mem_cons_self) (.here ⟨"$any", _, rfl, by decide⟩)
  have hdecoded : ∃ e, Registry.builtin.decode 0 j = .ok e := ⟨_, rfl⟩
  obtain ⟨e, he⟩ := hdecoded
  refine ⟨((Registry.decode_off_directives 0 j).1 r hplain).1, e, he, ?_⟩
  exact ((Registry.decode_off_directives 0 j).2 e he).mpr hmember

end Conformance
