import Conformance.Proofs.Checks

/-!
# Comparisons that leave no trace

`Comparison.Frames c` says of a comparison that it changes nothing in a context that does not collect: not
the path, and not the mismatches that may have been collected before. All that comes of it there is the
outcome. It is so of every body of a rule, by one lemma for each kind of body. Operands are checked in
isolation, so that nothing has to be known of them.
-/

set_option autoImplicit false

namespace Conformance

/-! ## The judgement -/

namespace Comparison

variable {α β : Type}

/-- Where mismatches are not collected, the comparison ends with the context as it was. -/
def Frames (c : Comparison α) : Prop :=
  ∀ s : Session, s.context.collects = false → (c.run s).2.context = s.context

theorem frames_pure (a : α) : Frames (pure a : Comparison α) := fun _ _ => rfl

/-- Whether the first comparison fails or not, the second one can only start from the context as it was. -/
theorem Frames.bind {c : Comparison α} {f : α → Comparison β} (hc : Frames c)
    (hf : ∀ a, Frames (f a)) : Frames (c >>= f) := by
  intro s hk
  cases hrun : c.run s with
  | mk r s' =>
      have hsame : s'.context = s.context := by
        have h := hc s hk
        rwa [hrun] at h
      cases r with
      | error failure =>
          rw [run_bind_error f hrun]
          exact hsame
      | ok a =>
          have hk' : s'.context.collects = false := by rw [hsame, hk]
          rw [run_bind_ok f hrun, hf a s' hk', hsame]

theorem Frames.ite {p : Prop} [Decidable p] {c d : Comparison α} (hc : Frames c) (hd : Frames d) :
    Frames (if p then c else d) := by
  split
  · exact hc
  · exact hd

theorem frames_context : Frames context := fun _ _ => rfl

/-- An action is asked for nothing in a context that collects. -/
theorem frames_onContext {action : Context → Outcome × Context}
    (h : ∀ cx : Context, cx.collects = false → (action cx).2 = cx) : Frames (onContext action) :=
  fun s hk => h s.context hk

theorem frames_reportHere (message : String) : Frames (reportHere message) := by
  refine frames_onContext fun cx hk => ?_
  rw [Context.reportHere, Context.report, if_neg (by simp [hk])]

theorem frames_reportAll (failure : Failure) : Frames (reportAll failure) := by
  refine frames_onContext fun cx hk => ?_
  rw [Context.reportAll, if_neg (by simp [hk])]

theorem frames_fail (message : String) : Frames (fail message) := fun _ _ => rfl

theorem frames_ofOutcome (outcome : Outcome) : Frames (ofOutcome outcome) := by
  cases outcome with
  | ok u => exact frames_pure u
  | error failure => exact fun _ _ => rfl

theorem Frames.within {c : Comparison Unit} (hc : Frames c) (s : Segment) : Frames (within s c) := by
  intro session hk
  have hinside := hc { session with context := session.context.enter s } hk
  rw [run_within]
  dsimp only
  rw [hinside, Context.leave_enter]

/-- In isolation anything may happen. -/
theorem frames_isolated (c : Comparison Unit) : Frames (isolated c) := fun _ _ => rfl

theorem frames_settled {c : Comparison Unit} (h : Check.Settled c) : Frames c := by
  rcases h with rfl | ⟨message, rfl⟩
  · exact frames_pure ()
  · exact frames_fail message

end Comparison

/-! ## The bodies of rules -/

namespace Check

open Comparison

theorem frames_lengthWithin (length : Nat) (tests : List LengthTest) :
    Frames (lengthWithin length tests) := by
  induction tests with
  | nil => exact frames_pure ()
  | cons t rest ih =>
      rw [lengthWithin]
      cases t.bound with
      | none => exact ih
      | some n =>
          dsimp only
          split
          · exact ih
          · exact (frames_reportHere _).bind fun _ => ih

theorem frames_length (bounds : LengthBounds) (actual : Value) : Frames (length bounds actual) := by
  unfold length
  cases actual.length? with
  | none => exact frames_fail _
  | some n => exact frames_lengthWithin n _

/-- To report what an isolated comparison came to. -/
theorem frames_renewed (c : Comparison Unit) : Frames (renewed c) := by
  refine (frames_isolated c).bind fun outcome => ?_
  cases outcome with
  | ok u => exact frames_pure ()
  | error failure => exact frames_reportAll failure

theorem frames_strictEntries (actual : List (String × Value)) (checks : List (String × Check)) :
    Frames (strictEntries actual checks) := by
  induction checks with
  | nil => exact frames_pure ()
  | cons entry rest ih =>
      rw [strictEntries]
      refine Frames.bind (Frames.within ?_ _) fun _ => ih
      cases lookup entry.1 actual with
      | none => exact frames_reportHere _
      | some value => exact frames_renewed (entry.2 value)

theorem frames_reportExtras (keys : List String) : Frames (reportExtras keys) := by
  induction keys with
  | nil => exact frames_pure ()
  | cons key rest ih => exact ((frames_reportHere _).within (.key key)).bind fun _ => ih

theorem frames_strictDocument (checks : List (String × Check)) (actual : Value) :
    Frames (strictDocument checks actual) := by
  cases actual with
  | document actual =>
      exact (frames_strictEntries actual checks).bind fun _ => frames_reportExtras _
  | _ => exact frames_fail _

theorem frames_same (check : Check) (actual : Value) : Frames (same check actual) :=
  (frames_isolated _).bind frames_ofOutcome

theorem frames_accepts (o : Operand) (actual : Value) : Frames (o.accepts actual) :=
  fun _ _ => rfl

theorem frames_claim (want : Operand) (values : List Value) : Frames (claim want values) := by
  induction values with
  | nil => exact frames_pure none
  | cons value rest ih =>
      rw [claim]
      exact (frames_accepts want value).bind fun _ =>
        .ite (frames_pure _) (ih.bind fun _ => frames_pure _)

theorem frames_claimAll (expected : List Operand) (values : List Value) :
    Frames (claimAll expected values) := by
  induction expected generalizing values with
  | nil => exact frames_pure ()
  | cons want rest ih =>
      rw [claimAll]
      refine (frames_claim want values).bind fun left => ?_
      cases left with
      | none => exact frames_fail _
      | some left => exact ih left

theorem frames_elementsMatch (expected : List Operand) (actual : Value) :
    Frames (elementsMatch expected actual) := by
  cases actual with
  | array values => exact .ite (frames_claimAll expected values) (frames_fail _)
  | _ => exact frames_fail _

theorem frames_someAccepts (actual : Value) (operands : List Operand) :
    Frames (someAccepts actual operands) := by
  induction operands with
  | nil => exact frames_pure false
  | cons o rest ih =>
      rw [someAccepts]
      exact (frames_accepts o actual).bind fun _ => .ite (frames_pure true) ih

theorem frames_inSet (candidates : List Operand) (actual : Value) : Frames (inSet candidates actual) :=
  (frames_someAccepts actual candidates).bind fun _ => .ite (frames_pure ()) (frames_fail _)

theorem frames_and (operands : List Operand) (actual : Value) : Frames (and operands actual) := by
  induction operands with
  | nil => exact frames_pure ()
  | cons o rest ih =>
      rw [and]
      refine (frames_isolated _).bind fun outcome => ?_
      cases outcome with
      | ok u => exact ih
      | error failure => exact (frames_reportAll failure).bind fun _ => ih

theorem frames_failuresOfAll (actual : Value) (operands : List Operand) :
    Frames (failuresOfAll actual operands) := by
  induction operands with
  | nil => exact frames_pure _
  | cons o rest ih =>
      rw [failuresOfAll]
      refine (frames_isolated _).bind fun outcome => ?_
      cases outcome with
      | ok u => exact frames_pure none
      | error failure => exact ih.bind fun _ => frames_pure _

theorem frames_reportFailures (failures : List Failure) : Frames (reportFailures failures) := by
  induction failures with
  | nil => exact frames_pure ()
  | cons failure rest ih => exact (frames_reportAll failure).bind fun _ => ih

theorem frames_or (operands : List Operand) (actual : Value) : Frames (or operands actual) := by
  refine (frames_failuresOfAll actual operands).bind fun failures => ?_
  match failures with
  | none => exact frames_pure ()
  | some [] => exact frames_fail _
  | some (first :: rest) =>
      exact frames_context.bind fun _ => .ite (frames_reportFailures _) (frames_fail _)

theorem frames_nor (position : Nat) (operands : List Operand) (actual : Value) :
    Frames (nor position operands actual) := by
  induction operands generalizing position with
  | nil => exact frames_pure ()
  | cons o rest ih =>
      rw [nor]
      refine (frames_accepts o actual).bind fun _ => ?_
      split
      · exact (frames_reportHere _).bind fun _ => ih (position + 1)
      · exact ih (position + 1)

theorem frames_not (o : Operand) (actual : Value) : Frames (not o actual) :=
  (frames_accepts o actual).bind fun _ => .ite (frames_fail _) (frames_pure ())

end Check

end Conformance
