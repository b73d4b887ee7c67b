import Conformance.Proofs.Frame

/-!
# What rules contribute, and the shape of results

A custom rule may do as it likes: record some mismatches and then fail, hand out many at once where the
comparison should stop at the first, or drop the outcome of a nested comparison. Results keep their shape all
the same, since every rule runs at a root of its own and only the node of the rule speaks to the comparison.
`Context.Contributes` says what the node says, given what the body of the rule did.

What the body of a custom rule did is told from its program alone, with no context: `Program.perform` goes
through the program with the results of the tester as answers to its nested comparisons.
-/

set_option autoImplicit false

namespace Conformance

/-! ## Programs -/

namespace Outcome

def under (base : Path) : Outcome → Outcome
  | .ok () => .ok ()
  | .error (.single m) => .error (.single (m.under base))
  | .error (.several ms) => .error (.several ⟨ms.first.under base, ms.rest.map (Mismatch.under base)⟩)

theorem under_verdict (base : Path) (k : Bool) (ms : List Mismatch) :
    Outcome.under base (verdict k ms) = verdict k (ms.map (Mismatch.under base)) := by
  cases ms with
  | nil => cases k <;> rfl
  | cons m rest => cases k <;> rfl

end Outcome

namespace Program

/-- The mismatches that a program records and the outcome that it returns, where nested comparisons come out
as `answer` says. -/
def perform (collects : Bool) (answer : Path → Expected → Value → Outcome) :
    Program → List Mismatch × Outcome
  | .done outcome => ([], outcome)
  | .report failure next =>
    if collects then
      let later := perform collects answer (next (.ok ()))
      (failure.mismatches ++ later.1, later.2)
    else perform collects answer (next (.error failure))
  | .test place expected actual next => perform collects answer (next (answer place expected actual))

/-- A program records nothing where mismatches are not collected. -/
theorem recorded_eq_nil (answer : Path → Expected → Value → Outcome) :
    (p : Program) → (p.perform false answer).1 = []
  | .done _ => rfl
  | .report failure next => by
      rw [perform, if_neg Bool.false_ne_true]
      exact recorded_eq_nil answer (next (.error failure))
  | .test place expected actual next => by
      rw [perform]
      exact recorded_eq_nil answer (next (answer place expected actual))

end Program

open Comparison in
/-- A program leaves in its context what it records, behind what was there, and returns what it returns. -/
theorem runProgram_performs (plan : LookupPlan) (answer : Path → Expected → Value → Outcome) :
    (p : Program) → (cx : Context) →
    (∀ place e v, answer place e v
      = verdict cx.collects ((findTree cx.collects e v).map (Mismatch.under place))) →
    Ends cx (runProgram plan p) (p.perform cx.collects answer).2
      { cx with collected := cx.collected ++ (p.perform cx.collects answer).1 }
  | .done outcome, cx, _ => by
      rw [Program.perform, List.append_nil]
      exact ends_ofOutcome cx outcome
  | .report failure next, ⟨path, k, collected⟩, hanswer => by
      have hreport := (ends_onContext ⟨path, k, collected⟩ (·.reportAll failure)).attempt
      -- one mode keeps the failure and the program sees success, the other hands it to the program
      cases k with
      | true =>
          have hnext := runProgram_performs plan answer (next (.ok ()))
            ⟨path, true, collected ++ failure.mismatches⟩ hanswer
          rw [List.append_assoc] at hnext
          exact hreport.bind hnext
      | false =>
          have hnext := runProgram_performs plan answer (next (.error failure))
            ⟨path, false, collected⟩ hanswer
          exact hreport.bind hnext
  | .test place expected actual next, cx, hanswer => by
      have hchild := checkTree_finds cx.collects plan expected actual (.startAt place cx.collects) rfl
      have hresult : Ends cx (resultIn _ _) (.ok (Context.finish _ _)) cx := hchild.resultIn
      rw [Context.finish_tell rfl] at hresult
      have hnext := runProgram_performs plan answer (next (answer place expected actual)) cx hanswer
      rw [Program.perform]
      rw [hanswer] at hnext ⊢
      exact (ends_context cx).bind (hresult.bind hnext)

open Comparison in
/-- A custom rule is run by its program, in the mode of the context and on the value in its place. -/
theorem custom_performs (plan : LookupPlan) (answer : Path → Expected → Value → Outcome) (name : String)
    (run : Bool → Value → Program) (actual : Value) (cx : Context)
    (hanswer : ∀ place e v, answer place e v
      = verdict cx.collects ((findTree cx.collects e v).map (Mismatch.under place))) :
    Ends cx (checkRule plan (.custom name run) actual)
      ((run cx.collects actual).perform cx.collects answer).2
      { cx with
        collected := cx.collected ++ ((run cx.collects actual).perform cx.collects answer).1 } :=
  (ends_context cx).bind (runProgram_performs plan answer (run cx.collects actual) cx hanswer)

/-! ## The node of a rule -/

/-- What the node of a rule did to a context, beside what the body of the rule did at a root of its own. -/
structure Context.Contributes (cx : Context) (body here : Outcome × Context) : Prop where
  /-- Where mismatches are collected, those that the body recorded are added in order, and then those that
  it returned, each at the place of the rule. -/
  collecting : cx.collects = true → here = (.ok (), { cx with
    collected := cx.collected ++ (body.2.collected ++ body.1.mismatches).map (Mismatch.under cx.path) })
  /-- Elsewhere the comparison goes on if the body succeeded. -/
  success : cx.collects = false → (here.1 = .ok () ↔ body.1 = .ok ())
  /-- If the body failed, the comparison stops with the first mismatch that it returned. -/
  failure : cx.collects = false → ∀ f, body.1 = .error f → here.1 = .error (.single (f.first.under cx.path))
  /-- In both cases the context stays as it was. -/
  frame : cx.collects = false → here.2 = cx

open Comparison in
/-- The node of a rule passes on what its body did, if the body leaves no trace where none is wanted. -/
theorem rule_contributes {run : Check} {actual : Value} {cx after : Context} {r : Outcome}
    (hbody : Ends (.start cx.collects) (run actual) r after) (hframes : Frames (run actual))
    (pool bodyPool : Pool KeySlots) :
    cx.Contributes ((run actual).effect (.start cx.collects) bodyPool)
      ((Check.rule run actual).effect cx pool) := by
  have hbodyEffect := hbody.effect_eq bodyPool
  have hends : Ends cx (Check.rule run actual)
      (cx.tell (after.collected ++ Outcome.mismatches r)).1
      (cx.tell (after.collected ++ Outcome.mismatches r)).2 :=
    (ends_context cx).bind (hbody.apart.bind (ends_reportUnder cx _))
  have hhere := hends.effect_eq pool
  rw [hbodyEffect, hhere]
  cases hk : cx.collects with
  | true =>
      have hno : ¬ cx.collects = false := by simp [hk]
      rw [Context.tell_of_collects hk]
      exact ⟨fun _ => rfl, fun h => absurd h hno, fun h => absurd h hno, fun h => absurd h hno⟩
  | false =>
      -- nothing was recorded, so that the first mismatch is the first of those returned
      have hafter : after.collected = [] := by
        have hsame := hframes ⟨.start cx.collects, bodyPool⟩ hk
        have heffect : ((run actual).effect (.start cx.collects) bodyPool).2 = .start cx.collects := hsame
        rw [hbodyEffect] at heffect
        exact congrArg Context.collected heffect
      have hno : ¬ cx.collects = true := by simp [hk]
      rw [Context.tell_of_not_collects hk, hafter, List.nil_append]
      refine ⟨fun h => absurd h hno, fun _ => ?_, fun _ => ?_, fun _ => rfl⟩
      · cases r with
        | ok u => exact Iff.rfl
        | error f =>
            cases f with
            | single m => exact iff_of_false nofun nofun
            | several ms => exact iff_of_false nofun nofun
      · rintro f hf
        cases hf
        cases f with
        | single m => rfl
        | several ms => rfl

open Comparison in
/-- Every body of a rule leaves no trace where mismatches are not collected. -/
theorem frames_checkRule (plan : LookupPlan) (r : Rule) (actual : Value) :
    Frames (checkRule plan r actual) := by
  cases r with
  | equal e =>
      cases e with
      | document entries => exact Check.frames_strictDocument _ actual
      | _ => exact Check.frames_same _ actual
  | notEqual e => exact frames_settled (Check.settled_notEqual e actual)
  | nil target explicit => exact frames_settled (Check.settled_nil target explicit actual)
  | required => exact frames_settled (Check.settled_required actual)
  | any => exact frames_pure ()
  | empty want => exact frames_settled (Check.settled_empty want actual)
  | pattern p => exact frames_settled (Check.settled_pattern p actual)
  | elementsMatch es => exact Check.frames_elementsMatch _ actual
  | length bounds => exact Check.frames_length bounds actual
  | inSet es => exact Check.frames_inSet _ actual
  | numeric bound => exact frames_settled (Check.settled_numeric bound actual)
  | and es => exact Check.frames_and _ actual
  | or es => exact Check.frames_or _ actual
  | nor es => exact Check.frames_nor 0 _ actual
  | not e => exact Check.frames_not _ actual
  | custom name run =>
      intro s hk
      have hends := custom_performs plan (fun place e v => verdict s.context.collects
        ((findTree s.context.collects e v).map (Mismatch.under place))) name run actual s.context
        fun _ _ _ => rfl
      have hcontext := congrArg Prod.snd (hends.effect_eq s.pool)
      rw [hk, Program.recorded_eq_nil, List.append_nil, ← hk] at hcontext
      exact hcontext

/-! ## The shape of results -/

/-- The outcome is of the shape that a mode asks for: a single mismatch, or a list with at least one where
they are collected. -/
def Outcome.Fits (collects : Bool) : Outcome → Prop
  | .ok () => True
  | .error (.single _) => collects = false
  | .error (.several ms) => collects = true ∧ ms.toList ≠ []

theorem fits_verdict (k : Bool) (ms : List Mismatch) : Outcome.Fits k (verdict k ms) := by
  cases ms with
  | nil =>
      have hok : verdict k [] = .ok () := verdict_eq_ok_iff.mpr rfl
      rw [hok]
      trivial
  | cons m rest =>
      cases k with
      | true => exact ⟨rfl, List.cons_ne_nil m rest⟩
      | false => exact rfl

/-- **Results keep their shape under all rules**: a tester that stops at the first mismatch returns that one,
and a tester that collects returns a list. The node of a rule contributes what the body of the rule recorded
and returned, or the first mismatch that it returned, and the body of a custom rule records and returns what
its program does. -/
theorem Tester.result_shape (t : Tester) (e : Expected) (a : Value) :
    Outcome.Fits t.options.collectAll (t.test e a).1 ∧
    (∀ (label : Label) (r : Rule) (v : Value) (cx : Context) (pool bodyPool : Pool KeySlots),
      cx.Contributes ((checkRule t.plan r v).effect (.start cx.collects) bodyPool)
        ((checkTree t.plan (.rule label r) v).effect cx pool)) ∧
    ∀ (name : String) (run : Bool → Value → Program) (v : Value) (pool : Pool KeySlots),
      let k := t.options.collectAll
      let done := (run k v).perform k fun place e v => Outcome.under place (t.test e v).1
      (checkRule t.plan (.custom name run) v).effect (.start k) pool
        = (done.2, { Context.start k with collected := done.1 }) := by
  refine ⟨?_, fun label r v cx pool bodyPool => ?_, fun name run v pool => ?_⟩
  · rw [test_eq_verdict]
    exact fits_verdict _ _
  · obtain ⟨outcome, after, hends, -⟩ := checkRule_finds cx.collects t.plan r v
    exact rule_contributes hends (frames_checkRule t.plan r v) pool bodyPool
  · intro k done
    have hanswer : ∀ place e v, Outcome.under place (t.test e v).1
        = verdict k ((findTree k e v).map (Mismatch.under place)) := by
      intro place e v
      rw [test_eq_verdict, Outcome.under_verdict]
    exact (custom_performs t.plan _ name run v (.start k) hanswer).effect_eq pool

/-- A list of mismatches that a rule returns where only one is asked for is cut down to the first. -/
example :
    let both : Failure := .several ⟨⟨.root, "one"⟩, [⟨.root, "two"⟩]⟩
    let e : Expected := .document [("k", .rule [0] (.custom "Both" fun _ _ => .done (.error both)))]
    ((Tester.ofOptions {}).test e (.document [("k", .null)])).1
      = .error (.single ⟨⟨[.key "k"]⟩, "one"⟩) := by
  rfl

end Conformance
