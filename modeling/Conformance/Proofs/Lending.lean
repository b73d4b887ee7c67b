import Conformance.Proofs.Checks
import Conformance.Proofs.History
import Conformance.Proofs.Runs

/-!
# Buffers come back

A comparison borrows a buffer from its pool for each document that it looks up with an index, and gives it back
whether it succeeds or fails. `Comparison.Uses cx c runs` says what becomes of the pool: whatever it holds, the
comparison `c`, started in the context `cx`, leaves it as the given runs do. There is one rule for each way of
putting comparisons together; most steps do not touch the pool at all (`Comparison.Still`).

With the bounds that hold of every pool during runs, the number of idle buffers behind a test is known from the
one before it and the greatest number on loan at the same time (`Tester.buffers_after_test`).
-/

set_option autoImplicit false

namespace Conformance

/-! ## The judgement -/

namespace Comparison

variable {α β : Type} {threshold : Nat}

/-- Started in a context, the comparison does to every pool what the runs do. -/
def Uses (threshold : Nat) (cx : Context) (c : Comparison α) (runs : List Run) : Prop :=
  ∀ pool, (c.run ⟨cx, pool⟩).2.pool = Run.useAll threshold runs pool

/-- The comparison does not touch the pool. -/
def Still (c : Comparison α) : Prop := ∀ s : Session, (c.run s).2.pool = s.pool

theorem Still.uses {c : Comparison α} (h : Still c) (cx : Context) : Uses threshold cx c [] :=
  fun pool => h ⟨cx, pool⟩

/-- A comparison that succeeds goes on from the context in which it ends. -/
theorem Uses.bind {cx cx₁ : Context} {c : Comparison α} {f : α → Comparison β} {a : α} {xs ys : List Run}
    (hc : Uses threshold cx c xs) (hends : Ends cx c (.ok a) cx₁) (hf : Uses threshold cx₁ (f a) ys) :
    Uses threshold cx (c >>= f) (xs ++ ys) := by
  intro pool
  obtain ⟨pool₁, hrun⟩ := hends pool
  have hpool : pool₁ = Run.useAll threshold xs pool := by
    rw [← hc pool, hrun]
  rw [run_bind_ok f hrun, hf pool₁, hpool, Run.useAll_append]

/-- Behind a failure there are no more runs. -/
theorem Uses.bind_error {cx cx₁ : Context} {c : Comparison α} {f : α → Comparison β} {failure : Failure}
    {xs : List Run} (hc : Uses threshold cx c xs) (hends : Ends cx c (.error failure) cx₁) :
    Uses threshold cx (c >>= f) xs := by
  intro pool
  obtain ⟨pool₁, hrun⟩ := hends pool
  rw [run_bind_error f hrun, ← hc pool, hrun]

/-- What comes behind does not matter if it leaves the pool alone. -/
theorem Uses.bind_still {cx : Context} {c : Comparison α} {f : α → Comparison β} {xs : List Run}
    (hc : Uses threshold cx c xs) (hf : ∀ a, Still (f a)) : Uses threshold cx (c >>= f) xs := by
  intro pool
  rw [← hc pool]
  cases hrun : c.run ⟨cx, pool⟩ with
  | mk r s =>
      cases r with
      | error failure => rw [run_bind_error f hrun]
      | ok a => rw [run_bind_ok f hrun, hf a s]

theorem Still.bind {c : Comparison α} {f : α → Comparison β} (hc : Still c) (hf : ∀ a, Still (f a)) :
    Still (c >>= f) := by
  intro s
  have huses : Uses 0 s.context (c >>= f) [] := (hc.uses s.context).bind_still hf
  exact huses s.pool

theorem Still.ite {p : Prop} [Decidable p] {c d : Comparison α} (hc : Still c) (hd : Still d) :
    Still (if p then c else d) := by
  split
  · exact hc
  · exact hd

theorem still_pure (a : α) : Still (pure a : Comparison α) := fun _ => rfl

theorem still_context : Still context := fun _ => rfl

theorem still_onContext (action : Context → Outcome × Context) : Still (onContext action) := fun _ => rfl

theorem still_reportHere (message : String) : Still (reportHere message) := still_onContext _

theorem still_fail (message : String) : Still (fail message) := fun _ => rfl

theorem still_ofOutcome (outcome : Outcome) : Still (ofOutcome outcome) := by
  cases outcome with
  | ok u => exact still_pure u
  | error failure => exact fun _ => rfl

theorem Still.attempt {c : Comparison Unit} (h : Still c) : Still (attempt c) := h

theorem still_reportUnder (base : Path) (ms : List Mismatch) : Still (reportUnder base ms) := by
  induction ms with
  | nil => exact still_pure ()
  | cons m rest ih => exact (still_onContext _).bind fun _ => ih

theorem still_settled {c : Comparison Unit} (h : Check.Settled c) : Still c := by
  rcases h with rfl | ⟨message, rfl⟩
  · exact still_pure ()
  · exact still_fail message

variable {cx child : Context} {c d : Comparison Unit} {xs ys : List Run}

theorem Uses.within {s : Segment} (h : Uses threshold (cx.enter s) c xs) :
    Uses threshold cx (within s c) xs := h

theorem Uses.resultIn (h : Uses threshold child c xs) : Uses threshold cx (resultIn child c) xs :=
  Uses.bind_still (c := apart child c) h fun _ => still_pure _

theorem Uses.isolated (h : Uses threshold cx.isolated c xs) : Uses threshold cx (isolated c) xs :=
  (still_context.uses cx).bind (ends_context cx) h.resultIn

/-- The buffer of an index is on loan during the comparison. -/
theorem Uses.withIndex {γ : Type} {hash : String → UInt64} {entries : List (String × γ)}
    {f : KeyIndex γ → Comparison Unit} {count : Nat} (hcount : threshold < count)
    (h : ∀ index : KeyIndex γ, (∀ key, index.get key = lookup key entries) →
      Uses threshold cx (f index) xs) :
    Uses threshold cx (withIndex hash entries f) [⟨count, xs⟩] := by
  intro pool
  have hinside := h (.build hash entries ∅) (KeyIndex.get_build hash entries) pool.acquire.2
  rw [run_withIndex, Pool.buffer_acquire]
  dsimp only
  rw [hinside, Run.useAll, Run.useAll, Run.use, if_pos hcount]
  -- what was in the buffer is lost when it comes back
  rfl

/-- What is found decides whether the rest of the steps are run. -/
theorem Uses.seq {k : Bool} {ms : List Mismatch} {passes : Bool} {later : List (Bool × List Run)}
    (hc : Uses threshold cx c xs) (hreports : Reports k c ms) (hk : cx.collects = k)
    (hpasses : passes = ms.isEmpty)
    (hd : ∀ cx' : Context, cx'.collects = k → Uses threshold cx' d (Part.inTurn k later)) :
    Uses threshold cx (c >>= fun _ => d) (Part.inTurn k ((passes, xs) :: later)) := by
  have hends := hreports cx hk
  subst hk hpasses
  rw [Part.inTurn]
  cases htold : (cx.tell ms).1 with
  | ok u =>
      rw [htold] at hends
      rw [if_pos (Context.tell_eq_ok_iff.mp htold)]
      exact hc.bind hends (hd _ (Context.collects_tell cx ms))
  | error failure =>
      have hoff : ¬ (cx.collects || ms.isEmpty) = true := by
        rw [← Context.tell_eq_ok_iff, htold]
        nofun
      rw [htold] at hends
      rw [if_neg hoff, List.append_nil]
      exact hc.bind_error hends

end Comparison

/-! ## Checks and their parts -/

namespace Check

open Comparison

variable {threshold : Nat} {k : Bool}

/-- In every context of the mode, a check does to the pool what the runs do. -/
def Runs (threshold : Nat) (k : Bool) (check : Check) (runs : Value → List Run) : Prop :=
  ∀ (actual : Value) (cx : Context), cx.collects = k → Uses threshold cx (check actual) (runs actual)

/-- A check finds what a part finds, and runs what it runs. -/
structure Does (threshold : Nat) (k : Bool) (check : Check) (part : Part) : Prop where
  finds : Finds k check part.find
  runs : Runs threshold k check part.runs

theorem runs_still {check : Check} (h : ∀ actual, Still (check actual)) :
    Runs threshold k check fun _ => [] :=
  fun actual cx _ => (h actual).uses cx

/-! ### Documents and arrays -/

/-- The checks of entries do what the parts under the same keys do. -/
abbrev EntriesDo (threshold : Nat) (k : Bool) : List (String × Check) → List (String × Part) → Prop :=
  List.Forall₂ fun check part => check.1 = part.1 ∧ Does threshold k check.2 part.2

/-- The entries run what their parts run, up to the first one that does not pass where the mode stops there.
-/
theorem uses_entries {find : String → Option Value} {actual : List (String × Value)}
    (hfind : ∀ key, find key = lookup key actual) {checks : List (String × Check)}
    {parts : List (String × Part)} (h : EntriesDo threshold k checks parts) (cx : Context)
    (hk : cx.collects = k) :
    Uses threshold cx (entries find checks) (Part.entries k parts actual) := by
  induction h generalizing cx with
  | nil => exact (still_pure ()).uses cx
  | @cons check part checks parts hfirst _ ih =>
      obtain ⟨key, check⟩ := check
      obtain ⟨hkey, hdoes⟩ := hfirst
      rw [entries, Part.entries, List.map_cons, Part.entry, ← hkey, hfind]
      cases lookup key actual with
      | some value =>
          have hreports := (hdoes.finds value).within (.key key)
          have huses := (hdoes.runs value (cx.enter (.key key)) hk).within
          exact huses.seq hreports hk (List.isEmpty_map).symm ih
      | none =>
          exact ((still_onContext _).uses cx).seq (reports_reportAt k (.key key) "key not found") hk rfl ih

/-- An index takes a buffer, and finds what a search finds. -/
theorem document_runs (plan : LookupPlan) {checks : List (String × Check)} {parts : List (String × Part)}
    (h : EntriesDo plan.threshold k checks parts) :
    Runs plan.threshold k (document plan checks) (Part.document k parts) := by
  intro actual cx hk
  cases actual with
  | document actual =>
      unfold document Part.document
      dsimp only
      rw [h.length_eq]
      by_cases hsmall : parts.length ≤ plan.threshold
      · rw [if_pos hsmall]
        intro pool
        rw [uses_entries (fun _ => rfl) h cx hk pool, Run.useAll, Run.useAll, Run.use,
          if_neg (Nat.not_lt.mpr hsmall)]
      · rw [if_neg hsmall]
        exact Uses.withIndex (Nat.lt_of_not_le hsmall) fun index hget => uses_entries hget h cx hk
  | _ => exact (still_onContext _).uses cx

theorem uses_elements (position : Nat) {checks : List Check} {parts : List Part}
    (h : List.Forall₂ (Does threshold k) checks parts) (actual : List Value) (cx : Context)
    (hk : cx.collects = k) :
    Uses threshold cx (elements position checks actual)
      (Part.inTurn k ((parts.zip actual).map fun (part, value) => part.accepting value)) := by
  induction h generalizing position actual cx with
  | nil => exact (still_pure ()).uses cx
  | @cons check part checks parts hdoes _ ih =>
      cases actual with
      | nil => exact (still_pure ()).uses cx
      | cons value actual =>
          have hreports := (hdoes.finds value).within (.index position)
          have huses := (hdoes.runs value (cx.enter (.index position)) hk).within
          exact huses.seq hreports hk (List.isEmpty_map).symm (ih (position + 1) actual)

/-- Without as many elements as expected, none of them is compared and nothing is run. -/
theorem array_runs {checks : List Check} {parts : List Part}
    (h : List.Forall₂ (Does threshold k) checks parts) :
    Runs threshold k (array checks) (Part.array k parts) := by
  intro actual cx hk
  cases actual with
  | array actual =>
      unfold array Part.array
      dsimp only
      rw [h.length_eq]
      split
      · exact uses_elements 0 h actual cx hk
      · exact (still_onContext _).uses cx
  | _ => exact (still_onContext _).uses cx

theorem still_leaf (expected : Expected) (actual : Value) : Still (leaf expected actual) := by
  unfold leaf
  split
  · exact still_pure ()
  · exact still_onContext _
  · exact (still_pure ()).ite (still_onContext _)

theorem still_length (bounds : LengthBounds) (actual : Value) : Still (length bounds actual) := by
  have hwithin : ∀ (n : Nat) (tests : List LengthTest), Still (lengthWithin n tests) := by
    intro n tests
    induction tests with
    | nil => exact still_pure ()
    | cons t rest ih =>
        rw [lengthWithin]
        cases t.bound with
        | none => exact ih
        | some m =>
            dsimp only
            split
            · exact ih
            · exact (still_reportHere _).bind fun _ => ih
  unfold length
  cases actual.length? with
  | none => exact still_fail _
  | some n => exact hwithin n _

/-! ### Strict equality -/

/-- To report what an isolated comparison came to. -/
theorem uses_renewed {cx : Context} {c : Comparison Unit} {xs : List Run}
    (h : Uses threshold cx.isolated c xs) : Uses threshold cx (renewed c) xs := by
  refine h.isolated.bind_still fun outcome => ?_
  cases outcome with
  | ok u => exact still_pure ()
  | error failure => exact still_onContext _

/-- A strict document looks its keys up by itself, and has no buffer on loan while its entries run. -/
theorem uses_strictEntries (actual : List (String × Value)) {checks : List (String × Check)}
    {parts : List (String × Part)} (h : EntriesDo threshold k checks parts) (cx : Context)
    (hk : cx.collects = k) :
    Uses threshold cx (strictEntries actual checks) (Part.entries k parts actual) := by
  induction h generalizing cx with
  | nil => exact (still_pure ()).uses cx
  | @cons check part checks parts hfirst _ ih =>
      obtain ⟨key, check⟩ := check
      obtain ⟨hkey, hdoes⟩ := hfirst
      rw [strictEntries, Part.entries, List.map_cons, Part.entry, ← hkey]
      cases lookup key actual with
      | some value =>
          have hreports := (hdoes.finds value).renew.within (.key key)
          have huses := (uses_renewed (hdoes.runs value (cx.enter (.key key)).isolated hk)).within
          exact huses.seq hreports hk (List.isEmpty_map).symm ih
      | none =>
          have hreports := (reports_reportHere k "key not found").within (.key key)
          exact Uses.seq (fun _ => rfl) hreports hk rfl ih

theorem still_reportExtras (keys : List String) : Still (reportExtras keys) := by
  induction keys with
  | nil => exact still_pure ()
  | cons key rest ih => exact Still.bind (fun _ => rfl) fun _ => ih

theorem strictDocument_runs {checks : List (String × Check)} {parts : List (String × Part)}
    (h : EntriesDo threshold k checks parts) :
    Runs threshold k (strictDocument checks) (Part.strictDocument k parts) := by
  intro actual cx hk
  cases actual with
  | document actual => exact (uses_strictEntries actual h cx hk).bind_still fun _ => still_reportExtras _
  | _ => exact (still_fail _).uses cx

theorem same_runs {check : Check} {runs : Value → List Run} (h : Runs threshold k check runs) :
    Runs threshold k (same check) runs :=
  fun actual cx hk => (h actual cx.isolated hk).isolated.bind_still still_ofOutcome

/-! ### Operands -/

abbrev OperandsDo (threshold : Nat) (k : Bool) : List Operand → List Part → Prop :=
  List.Forall₂ fun o part => Does threshold k o.check part

theorem uses_result {o : Operand} {part : Part} (h : Does threshold k o.check part) (actual : Value)
    {cx : Context} (hk : cx.collects = k) : Uses threshold cx (o.result actual) (part.runs actual) :=
  (h.runs actual cx.isolated hk).isolated

theorem uses_accepts {o : Operand} {part : Part} (h : Does threshold k o.check part) (actual : Value)
    {cx : Context} (hk : cx.collects = k) : Uses threshold cx (o.accepts actual) (part.runs actual) :=
  (uses_result h actual hk).bind_still fun _ => still_pure _

/-- The step of a search: it goes on if the operand does not accept the value. -/
theorem uses_search_step {α : Type} {o : Operand} {part : Part} (h : Does threshold k o.check part)
    (actual : Value) {cx : Context} (hk : cx.collects = k) {f : Bool → Comparison α}
    {later : List (Bool × List Run)} (hfound : Still (f true))
    (hlater : Uses threshold cx (f false) (Part.inTurn false later)) :
    Uses threshold cx (o.accepts actual >>= f)
      (Part.inTurn false (part.rejecting actual :: later)) := by
  refine (uses_accepts h actual hk).bind (ends_accepts h.finds actual hk) ?_
  cases Find.accepts part.find actual with
  | true => exact hfound.uses cx
  | false => exact hlater

theorem uses_claim {o : Operand} {part : Part} (h : Does threshold k o.check part) (values : List Value)
    {cx : Context} (hk : cx.collects = k) :
    Uses threshold cx (claim o values) (part.claim values) := by
  induction values with
  | nil => exact (still_pure none).uses cx
  | cons value rest ih =>
      rw [claim]
      exact uses_search_step h value hk (still_pure _) (ih.bind_still fun _ => still_pure _)

theorem uses_claimAll {operands : List Operand} {parts : List Part}
    (h : OperandsDo threshold k operands parts) (values : List Value) {cx : Context}
    (hk : cx.collects = k) : Uses threshold cx (claimAll operands values) (Part.claimAll parts values) := by
  induction h generalizing values with
  | nil => exact (still_pure ()).uses cx
  | @cons o part operands parts hfirst _ ih =>
      rw [claimAll, Part.claimAll]
      refine (uses_claim hfirst values hk).bind (ends_claim hfirst.finds values hk) ?_
      cases Find.claim part.find values with
      | none => exact (still_fail _).uses cx
      | some left => exact ih left

theorem elementsMatch_runs {operands : List Operand} {parts : List Part}
    (h : OperandsDo threshold k operands parts) :
    Runs threshold k (elementsMatch operands) (Part.elementsMatch parts) := by
  intro actual cx hk
  cases actual with
  | array values =>
      unfold elementsMatch Part.elementsMatch
      dsimp only
      rw [h.length_eq]
      split
      · exact uses_claimAll h values hk
      · exact (still_fail _).uses cx
  | _ => exact (still_fail _).uses cx

theorem inSet_runs {operands : List Operand} {parts : List Part}
    (h : OperandsDo threshold k operands parts) :
    Runs threshold k (inSet operands) (Part.search parts) := by
  intro actual cx hk
  have hsearch : Uses threshold cx (someAccepts actual operands) (Part.search parts actual) := by
    induction h with
    | nil => exact (still_pure false).uses cx
    | cons hfirst _ ih => exact uses_search_step hfirst actual hk (still_pure true) ih
  exact hsearch.bind_still fun found => (still_pure ()).ite (still_fail _)

theorem and_runs {operands : List Operand} {parts : List Part}
    (h : OperandsDo threshold k operands parts) :
    Runs threshold k (and operands) (Part.and k parts) := by
  intro actual cx hk
  induction h generalizing cx with
  | nil => exact (still_pure ()).uses cx
  | @cons o part operands parts hfirst _ ih =>
      rw [and_cons]
      have huses := uses_renewed (hfirst.runs actual cx.isolated hk)
      exact huses.seq (hfirst.finds actual).renew hk rfl ih

theorem still_reportFailures (failures : List Failure) : Still (reportFailures failures) := by
  induction failures with
  | nil => exact still_pure ()
  | cons failure rest ih => exact (still_onContext _).bind fun _ => ih

/-- The alternatives are tried up to the first that accepts the value; to report their failures takes no
buffer. -/
theorem or_runs {operands : List Operand} {parts : List Part}
    (h : OperandsDo threshold k operands parts) :
    Runs threshold k (or operands) (Part.search parts) := by
  intro actual cx hk
  have hsearch : Uses threshold cx (failuresOfAll actual operands) (Part.search parts actual) := by
    induction h with
    | nil => exact (still_pure (some [])).uses cx
    | @cons o part operands parts hfirst _ ih =>
        rw [failuresOfAll]
        refine (uses_result hfirst actual hk).bind ((hfirst.finds actual).ends_isolated hk) ?_
        have haccepts := isOk_verdict k ((part.find actual).map (Mismatch.under cx.path))
        rw [List.isEmpty_map] at haccepts
        rw [Find.accepts, ← haccepts]
        cases verdict k ((part.find actual).map (Mismatch.under cx.path)) with
        | ok u => exact (still_pure none).uses cx
        | error failure => exact ih.bind_still fun _ => still_pure _
  refine hsearch.bind_still fun failures => ?_
  cases failures with
  | none => exact still_pure ()
  | some failures =>
      cases failures with
      | nil => exact still_fail _
      | cons first rest => exact still_context.bind fun here => (still_reportFailures _).ite (still_fail _)

/-- In the mode that stops, the alternatives are tried up to the first that accepts the value. -/
theorem nor_runs (position : Nat) {operands : List Operand} {parts : List Part}
    (h : OperandsDo threshold k operands parts) :
    Runs threshold k (nor position operands) (Part.nor k parts) := by
  intro actual cx hk
  induction h generalizing position cx with
  | nil => exact (still_pure ()).uses cx
  | @cons o part operands parts hfirst _ ih =>
      rw [nor]
      refine (uses_accepts hfirst actual hk).bind (ends_accepts hfirst.finds actual hk) ?_
      cases Find.accepts part.find actual with
      | true =>
          have hreports := reports_reportHere k ("$nor failed: alternative " ++ toString position ++ " matched")
          exact ((still_reportHere _).uses cx).seq hreports hk rfl (ih (position + 1))
      | false =>
          rw [Bool.not_false, Bool.or_true, if_pos rfl]
          exact ih (position + 1) cx hk

theorem not_runs {o : Operand} {part : Part} (h : Does threshold k o.check part) :
    Runs threshold k (not o) part.runs :=
  fun actual _ hk => (uses_accepts h actual hk).bind_still fun _ => (still_fail _).ite (still_pure ())

/-! ### Rules in their place -/

/-- A rule runs at a root of its own, with the pool of the comparison around it. -/
theorem rule_runs {run : Check} {runs : Value → List Run} (h : Runs threshold k run runs) :
    Runs threshold k (rule run) runs := by
  intro actual cx hk
  have hbody := h actual (.start cx.collects) hk
  refine (still_context.uses cx).bind (ends_context cx) ?_
  exact Uses.bind_still (c := apart _ _) hbody fun _ => still_reportUnder _ _

end Check

/-! ## The check of a tree -/

open Comparison in
mutual

/-- **The check of an expected tree does to the pool what the runs do** that are listed for the tree. -/
theorem checkTree_runs (k : Bool) (plan : LookupPlan) :
    (e : Expected) → Check.Runs plan.threshold k (checkTree plan e) (runsTree k e)
  | .document entries => Check.document_runs plan (checkEntries_do k plan entries)
  | .array items => Check.array_runs (checkItems_do k plan items)
  | .rule _ r => Check.rule_runs (checkRule_runs k plan r)
  | .null => Check.runs_still (Check.still_leaf .null)
  | .bool b => Check.runs_still (Check.still_leaf (.bool b))
  | .int i => Check.runs_still (Check.still_leaf (.int i))
  | .float x => Check.runs_still (Check.still_leaf (.float x))
  | .string s => Check.runs_still (Check.still_leaf (.string s))

theorem checkEntries_do (k : Bool) (plan : LookupPlan) : (entries : List (String × Expected)) →
    Check.EntriesDo plan.threshold k (checkEntries plan entries) (partsOfEntries k entries)
  | [] => .nil
  | (_, e) :: rest =>
      .cons ⟨rfl, checkTree_finds k plan e, checkTree_runs k plan e⟩ (checkEntries_do k plan rest)

theorem checkItems_do (k : Bool) (plan : LookupPlan) : (items : List Expected) →
    List.Forall₂ (Check.Does plan.threshold k) (checkItems plan items) (partsOf k items)
  | [] => .nil
  | e :: rest => .cons ⟨checkTree_finds k plan e, checkTree_runs k plan e⟩ (checkItems_do k plan rest)

theorem operandsOf_do (k : Bool) (plan : LookupPlan) : (es : List Expected) →
    Check.OperandsDo plan.threshold k (operandsOf plan es) (partsOf k es)
  | [] => .nil
  | e :: rest => .cons ⟨checkTree_finds k plan e, checkTree_runs k plan e⟩ (operandsOf_do k plan rest)

theorem checkRule_runs (k : Bool) (plan : LookupPlan) :
    (r : Rule) → Check.Runs plan.threshold k (checkRule plan r) (runsRule k r)
  | .equal (.document entries) => Check.strictDocument_runs (checkEntries_do k plan entries)
  | .equal (.array items) => Check.same_runs (checkTree_runs k plan (.array items))
  | .equal (.rule label r) => Check.same_runs (checkTree_runs k plan (.rule label r))
  | .equal .null => Check.same_runs (Check.runs_still (Check.still_leaf .null))
  | .equal (.bool b) => Check.same_runs (Check.runs_still (Check.still_leaf (.bool b)))
  | .equal (.int i) => Check.same_runs (Check.runs_still (Check.still_leaf (.int i)))
  | .equal (.float x) => Check.same_runs (Check.runs_still (Check.still_leaf (.float x)))
  | .equal (.string s) => Check.same_runs (Check.runs_still (Check.still_leaf (.string s)))
  | .notEqual e => Check.runs_still fun actual => still_settled (Check.settled_notEqual e actual)
  | .nil target explicit =>
      Check.runs_still fun actual => still_settled (Check.settled_nil target explicit actual)
  | .required => Check.runs_still fun actual => still_settled (Check.settled_required actual)
  | .any => Check.runs_still fun _ => still_pure ()
  | .empty want => Check.runs_still fun actual => still_settled (Check.settled_empty want actual)
  | .pattern p => Check.runs_still fun actual => still_settled (Check.settled_pattern p actual)
  | .elementsMatch es => Check.elementsMatch_runs (operandsOf_do k plan es)
  | .length bounds => Check.runs_still (Check.still_length bounds)
  | .inSet es => Check.inSet_runs (operandsOf_do k plan es)
  | .numeric bound => Check.runs_still fun actual => still_settled (Check.settled_numeric bound actual)
  | .and es => Check.and_runs (operandsOf_do k plan es)
  | .or es => Check.or_runs (operandsOf_do k plan es)
  | .nor es => Check.nor_runs 0 (operandsOf_do k plan es)
  | .not e =>
      have hdoes : Check.Does plan.threshold k (checkTree plan e) ⟨findTree k e, runsTree k e⟩ :=
        ⟨checkTree_finds k plan e, checkTree_runs k plan e⟩
      @Check.not_runs _ _ ⟨e, checkTree plan e⟩ _ hdoes
  | .custom _ run => by
      intro actual cx hk
      subst hk
      exact (still_context.uses cx).bind (ends_context cx) (runProgram_uses plan (run cx.collects actual) cx)

/-- A program touches the pool with its nested comparisons only. -/
theorem runProgram_uses (plan : LookupPlan) : (p : Program) → (cx : Context) →
    Uses plan.threshold cx (runProgram plan p) (runsProgram cx.collects p)
  | .done outcome, cx => (still_ofOutcome outcome).uses cx
  | .report failure next, ⟨path, k, collected⟩ => by
      have hreport := (ends_onContext ⟨path, k, collected⟩ (·.reportAll failure)).attempt
      have hstill : Still (attempt (reportAll failure)) := (still_onContext _).attempt
      -- one mode keeps the failure and the program sees success, the other hands it to the program
      cases k with
      | true =>
          exact (hstill.uses _).bind hreport
            (runProgram_uses plan (next (.ok ())) ⟨path, true, collected ++ failure.mismatches⟩)
      | false =>
          exact (hstill.uses _).bind hreport
            (runProgram_uses plan (next (.error failure)) ⟨path, false, collected⟩)
  | .test place expected actual next, cx => by
      have hchild := checkTree_finds cx.collects plan expected actual (.startAt place cx.collects) rfl
      have hresult : Ends cx (resultIn _ _) (.ok (Context.finish _ _)) cx := hchild.resultIn
      rw [Context.finish_tell rfl] at hresult
      have huses := checkTree_runs cx.collects plan expected actual (.startAt place cx.collects) rfl
      exact (still_context.uses cx).bind (ends_context cx)
        (huses.resultIn.bind hresult (runProgram_uses plan (next _) cx))

end

/-! ## Testers -/

namespace Tester

/-- The pool is that of a tester at rest: it keeps up to thirty-two idle buffers, and all buffers are back. -/
structure AtRest (t : Tester) : Prop where
  strategy : t.pool.strategy = .sizeLimited 32
  back : t.pool.outstanding = 0
  idle_le : t.pool.idle.length ≤ 32

/-- What a test does to the pool is settled by the tree, the value, the mode and the threshold: the hash has
no part in it. -/
theorem pool_test_eq (t : Tester) (e : Expected) (a : Value) :
    (t.test e a).2.pool
      = Run.useAll t.options.effectiveThreshold (runsTree t.options.collectAll e a) t.pool :=
  checkTree_runs t.options.collectAll t.plan e a (.start t.options.collectAll) rfl t.pool

/-- During a test the bounds on the pool are kept, and all buffers come back. -/
theorem AtRest.within {t : Tester} (h : t.AtRest) (e : Expected) (a : Value) :
    Pool.Within 32 t.pool.idle.length 0
      (Run.peak t.options.effectiveThreshold (runsTree t.options.collectAll e a)) (t.test e a).2.pool := by
  rw [pool_test_eq]
  exact Run.within_useAll _ _ (.start h.strategy h.back h.idle_le)

theorem AtRest.test {t : Tester} (h : t.AtRest) (e : Expected) (a : Value) : (t.test e a).2.AtRest := by
  obtain ⟨hstrategy, hback, hidle, -, -⟩ := h.within e a
  exact ⟨hstrategy, hback, hidle⟩

/-- Tests leave a tester at rest, however many and whatever their outcomes. -/
theorem AtRest.after {t : Tester} (h : t.AtRest) (past : List (Expected × Value)) :
    (t.after past).AtRest := by
  induction past generalizing t with
  | nil => exact h
  | cons p rest ih => exact ih (h.test p.1 p.2)

/-- **All buffers come back**, and the number of idle ones is settled by each test: after any tests, with any
trees and outcomes, it is the greater of what it was before and of the greatest number that the comparisons of
documents during the test had on loan at the same time, up to thirty-two. -/
theorem buffers_after_test (options : Options) (hash : String → UInt64) (past : List (Expected × Value))
    (e : Expected) (a : Value) :
    let t := ({ Tester.ofOptions options with hash := hash }).after past
    let later := (t.test e a).2
    let runs := runsTree t.options.collectAll e a
    let threshold := t.options.effectiveThreshold
    later.pool = Run.useAll threshold runs t.pool ∧ later.pool.outstanding = 0 ∧
      later.pool.idle.length ≤ 32 ∧
      later.pool.idle.length = min 32 (max t.pool.idle.length (Run.peak threshold runs)) := by
  intro t later runs threshold
  have hnew : ({ Tester.ofOptions options with hash := hash }).AtRest := ⟨rfl, rfl, Nat.zero_le 32⟩
  have hrest : t.AtRest := hnew.after past
  have hwithin := hrest.within e a
  exact ⟨pool_test_eq t e a, hwithin.outstanding, hwithin.idle_le, hwithin.idle_eq⟩

end Tester

end Conformance
