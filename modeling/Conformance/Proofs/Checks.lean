import Conformance.Proofs.Comparison
import Conformance.Proofs.Entries

/-!
# Checks report what there is to find

Every check of an expected tree, and the body of every rule, is matched with its finder: `Finds k check find`
for a check that may run anywhere, `BodyFinds k check find` for one that runs at the root of a rule. There is
one lemma for each way of making a check, and `checkTree_finds` puts them together by recursion on the tree.
Look-up plans do not occur on the other side, so that neither thresholds nor hashes can be observed.
-/

set_option autoImplicit false

namespace Conformance

namespace Check

open Comparison

variable {k : Bool}

/-- A check reports what a finder finds, wherever it runs. -/
def Finds (k : Bool) (check : Check) (find : Finder) : Prop :=
  ∀ actual, Reports k (check actual) (find actual)

/-- A check records or returns what a finder finds, run as the body of a rule. -/
def BodyFinds (k : Bool) (check : Check) (find : Finder) : Prop :=
  ∀ actual, Yields k (check actual) (find actual)

theorem Finds.body {check : Check} {find : Finder} (h : Finds k check find) : BodyFinds k check find :=
  fun actual => (h actual).yields

/-! ## Documents and arrays -/

/-- The checks of entries report what the finders under the same keys find. -/
abbrev EntriesFind (k : Bool) : List (String × Check) → List (String × Finder) → Prop :=
  List.Forall₂ fun check find => check.1 = find.1 ∧ Finds k check.2 find.2

theorem EntriesFind.keys_eq {checks : List (String × Check)} {finders : List (String × Finder)}
    (h : EntriesFind k checks finders) : checks.map (·.1) = finders.map (·.1) :=
  keys_eq_of_forall₂ (fun _ _ hpair => hpair.1) h

/-- Entry after entry: what the finder of a key finds in its value, or the missing key. All that is asked of
the look-up is that it finds what `lookup` finds. -/
theorem reports_entries {find : String → Option Value} {actual : List (String × Value)}
    (hfind : ∀ key, find key = lookup key actual) {checks : List (String × Check)}
    {finders : List (String × Finder)} (h : EntriesFind k checks finders) :
    Reports k (entries find checks) (finders.flatMap (Find.entry actual)) := by
  induction h with
  | nil => exact reports_pure k
  | @cons check finder checks finders hfirst _ ih =>
      obtain ⟨key, check⟩ := check
      obtain ⟨hkey, hcheck⟩ := hfirst
      rw [entries, List.flatMap_cons, Find.entry, ← hkey, hfind]
      cases hvalue : lookup key actual with
      | some value => exact ((hcheck value).within (.key key)).seq ih
      | none => exact (reports_reportAt k (.key key) "key not found").seq ih

/-- Both plans for look-ups have the same effect: an index finds what a search finds. -/
theorem document_finds (plan : LookupPlan) {checks : List (String × Check)}
    {finders : List (String × Finder)} (h : EntriesFind k checks finders) :
    Finds k (document plan checks) (Find.document finders) := by
  intro actual
  cases actual with
  | document actual =>
      unfold document Find.document
      dsimp only
      split
      · exact reports_entries (fun _ => rfl) h
      · intro cx hk
        exact Ends.withIndex fun index hget => reports_entries hget h cx hk
  | _ => exact reports_reportHere k _

/-- Element after element, as far as there are checks for them. -/
theorem reports_elements (position : Nat) {checks : List Check} {finders : List Finder}
    (h : List.Forall₂ (Finds k) checks finders) (actual : List Value) :
    Reports k (elements position checks actual) (Find.elements position finders actual) := by
  induction h generalizing position actual with
  | nil => exact reports_pure k
  | @cons check finder checks finders hcheck _ ih =>
      cases actual with
      | nil => exact reports_pure k
      | cons value actual =>
          exact ((hcheck value).within (.index position)).seq (ih (position + 1) actual)

/-- The elements are looked at if there are as many as expected; the wrong length is a finding of its own. -/
theorem array_finds {checks : List Check} {finders : List Finder}
    (h : List.Forall₂ (Finds k) checks finders) : Finds k (array checks) (Find.array finders) := by
  intro actual
  cases actual with
  | array actual =>
      unfold array Find.array
      dsimp only
      rw [h.length_eq]
      split
      · exact reports_elements 0 h actual
      · exact reports_reportHere k _
  | _ => exact reports_reportHere k _

/-! ## Leaves and rules without operands -/

/-- A leaf reports in its place what it reports when it is run alone. -/
theorem leaf_finds (expected : Expected) : Finds k (leaf expected) (Find.alone (leaf expected)) := by
  intro actual
  have hleaf : leaf expected actual = pure () ∨
      ∃ message, leaf expected actual = reportHere message := by
    unfold leaf
    split
    · exact .inl rfl
    · exact .inr ⟨_, rfl⟩
    · split
      · exact .inl rfl
      · exact .inr ⟨_, rfl⟩
  rcases hleaf with h | ⟨message, h⟩
  · rw [Find.alone, h, Find.stop_pure]
    exact reports_pure k
  · rw [Find.alone, h, Find.stop_reportHere]
    exact reports_reportHere k message

/-- A comparison that succeeds or stops without looking at its session. -/
def Settled (c : Comparison Unit) : Prop := c = pure () ∨ ∃ message, c = fail message

/-- A check that never looks at its session finds what it returns when it is run alone. -/
theorem BodyFinds.of_settled {check : Check} (h : ∀ actual, Settled (check actual)) :
    BodyFinds k check (Find.alone check) := by
  intro actual
  rcases h actual with h | ⟨message, h⟩
  · rw [Find.alone, h, Find.stop_pure]
    exact (reports_pure k).yields
  · rw [Find.alone, h, Find.stop_fail]
    exact yields_fail k message

theorem settled_pure : Settled (pure ()) := .inl rfl

theorem settled_fail (message : String) : Settled (fail message) := .inr ⟨message, rfl⟩

theorem Settled.ite {p : Prop} [Decidable p] {c d : Comparison Unit} (hc : Settled c) (hd : Settled d) :
    Settled (if p then c else d) := by
  split
  · exact hc
  · exact hd

theorem settled_nil (target explicit : Bool) (actual : Value) : Settled (nil target explicit actual) := by
  unfold nil
  refine .ite ?_ (.ite settled_pure (.ite (settled_fail _) (settled_fail _)))
  split
  · exact settled_fail _
  · exact settled_fail _
  · exact settled_pure

theorem settled_required (actual : Value) : Settled (required actual) :=
  .ite (settled_fail _) settled_pure

theorem settled_empty (want : Bool) (actual : Value) : Settled (empty want actual) := by
  unfold empty
  split
  · exact settled_fail _
  · exact settled_fail _
  · exact settled_pure

theorem settled_pattern (p : Pattern) (actual : Value) : Settled (pattern p actual) := by
  unfold pattern
  split
  · exact settled_fail _
  · exact .ite settled_pure (settled_fail _)

theorem settled_numeric (bound : NumericBound) (actual : Value) : Settled (numeric bound actual) := by
  unfold numeric
  split
  · exact settled_fail _
  · exact .ite settled_pure (settled_fail _)

theorem settled_notEqual (expected : Expected) (actual : Value) : Settled (notEqual expected actual) := by
  unfold notEqual
  split
  · exact settled_fail _
  · exact settled_pure
  · exact .ite (settled_fail _) settled_pure

/-- One mismatch for each bound that is given and does not hold. -/
theorem reports_lengthWithin (length : Nat) (tests : List LengthTest) :
    Reports k (lengthWithin length tests) (tests.flatMap (Find.lengthBound length)) := by
  induction tests with
  | nil => exact reports_pure k
  | cons t rest ih =>
      rw [lengthWithin, List.flatMap_cons, Find.lengthBound]
      cases t.bound with
      | none => exact ih
      | some n =>
          dsimp only
          split
          · exact ih
          · exact (reports_reportHere k _).seq ih

theorem length_finds (bounds : LengthBounds) : BodyFinds k (length bounds) (Find.length bounds) := by
  intro actual
  unfold length Find.length
  cases actual.length? with
  | none => exact yields_fail k _
  | some n => exact (reports_lengthWithin n (lengthTests bounds)).yields

/-! ## Strict equality -/

/-- The values of a strict document are compared in isolation and the results reported, which has the effect
of comparing them in place. -/
theorem reports_strictEntries (actual : List (String × Value)) {checks : List (String × Check)}
    {finders : List (String × Finder)} (h : EntriesFind k checks finders) :
    Reports k (strictEntries actual checks) (finders.flatMap (Find.entry actual)) := by
  induction h with
  | nil => exact reports_pure k
  | @cons check finder checks finders hfirst _ ih =>
      obtain ⟨key, check⟩ := check
      obtain ⟨hkey, hcheck⟩ := hfirst
      rw [strictEntries, List.flatMap_cons, Find.entry, ← hkey]
      refine Reports.seq ?_ ih
      cases hvalue : lookup key actual with
      | some value => exact (hcheck value).renew.within (.key key)
      | none => exact (reports_reportHere k "key not found").within (.key key)

theorem reports_reportExtras (keys : List String) :
    Reports k (reportExtras keys) (keys.flatMap Find.extra) := by
  induction keys with
  | nil => exact reports_pure k
  | cons key rest ih => exact ((reports_reportHere k _).within (.key key)).seq ih

/-- First what the entries find, then one mismatch for each extra key. -/
theorem strictDocument_finds {checks : List (String × Check)} {finders : List (String × Finder)}
    (h : EntriesFind k checks finders) :
    BodyFinds k (strictDocument checks) (Find.strictDocument finders) := by
  intro actual
  cases actual with
  | document actual =>
      unfold strictDocument Find.strictDocument
      dsimp only
      rw [h.keys_eq]
      exact ((reports_strictEntries actual h).seq (reports_reportExtras _)).yields
  | _ => exact yields_fail k _

/-- Strict equality with anything but a document returns the result of the check in isolation. -/
theorem same_finds {check : Check} {find : Finder} (h : Finds k check find) :
    BodyFinds k (same check) find := by
  intro actual
  refine Yields.after ((h actual).ends_isolated rfl) ?_
  rw [Context.map_under_start]
  exact yields_ofOutcome_verdict k _

/-! ## Operands

An operand is matched with the finder of its tree, and with the text that messages show for it. -/

/-- The check of an operand reports what a finder finds. -/
abbrev OperandFinds (k : Bool) (o : Operand) (find : Finder) : Prop := Finds k o.check find

/-- The operands report what the finders find, and have the texts that come with these. -/
abbrev OperandsFind (k : Bool) : List Operand → List (String × Finder) → Prop :=
  List.Forall₂ fun o find => o.text = find.1 ∧ Finds k o.check find.2

theorem OperandsFind.texts_eq {operands : List Operand} {finders : List (String × Finder)}
    (h : OperandsFind k operands finders) : operands.map Operand.text = finders.map (·.1) := by
  induction h with
  | nil => rfl
  | cons hfirst _ ih => rw [List.map_cons, List.map_cons, hfirst.1, ih]

/-- To ask whether an operand accepts a value leaves no trace. -/
theorem ends_accepts {o : Operand} {find : Finder} (h : Finds k o.check find) (actual : Value)
    {cx : Context} (hk : cx.collects = k) :
    Ends cx (o.accepts actual) (.ok (Find.accepts find actual)) cx := by
  unfold Operand.accepts Operand.result
  refine ((h actual).ends_isolated hk).bind ?_
  rw [isOk_verdict, List.isEmpty_map]
  exact ends_pure cx _

/-- The first value that an operand accepts is taken away, and the context is left as it was. -/
theorem ends_claim {o : Operand} {find : Finder} (h : Finds k o.check find) (values : List Value)
    {cx : Context} (hk : cx.collects = k) :
    Ends cx (claim o values) (.ok (Find.claim find values)) cx := by
  induction values with
  | nil => exact ends_pure cx none
  | cons value rest ih =>
      rw [claim, Find.claim]
      refine (ends_accepts h value hk).bind ?_
      split
      · exact ends_pure cx _
      · exact ih.bind (ends_pure cx _)

/-- The operands claim their values in turn; the first that finds none stops the rule. -/
theorem yields_claimAll {operands : List Operand} {finders : List (String × Finder)}
    (h : OperandsFind k operands finders) (values : List Value) :
    Yields k (claimAll operands values) (Find.claimAll finders values) := by
  induction h generalizing values with
  | nil => exact (reports_pure k).yields
  | @cons o find operands finders hfirst _ ih =>
      obtain ⟨htext, hfinds⟩ := hfirst
      rw [claimAll, Find.claimAll]
      refine Yields.after (ends_claim hfinds values rfl) ?_
      cases Find.claim find.2 values with
      | none =>
          rw [htext]
          exact yields_fail k _
      | some left => exact ih left

theorem elementsMatch_finds {operands : List Operand} {finders : List (String × Finder)}
    (h : OperandsFind k operands finders) :
    BodyFinds k (elementsMatch operands) (Find.elementsMatch finders) := by
  intro actual
  cases actual with
  | array values =>
      unfold elementsMatch Find.elementsMatch
      dsimp only
      rw [h.length_eq]
      split
      · exact yields_claimAll h values
      · exact yields_fail k _
  | _ => exact yields_fail k _

theorem ends_someAccepts {operands : List Operand} {finders : List (String × Finder)}
    (h : OperandsFind k operands finders) (actual : Value) {cx : Context} (hk : cx.collects = k) :
    Ends cx (someAccepts actual operands)
      (.ok (finders.any fun find => Find.accepts find.2 actual)) cx := by
  induction h with
  | nil => exact ends_pure cx false
  | @cons o find operands finders hfirst _ ih =>
      rw [someAccepts, List.any_cons]
      refine (ends_accepts hfirst.2 actual hk).bind ?_
      cases Find.accepts find.2 actual with
      | true => exact ends_pure cx true
      | false => exact ih

theorem inSet_finds {operands : List Operand} {finders : List (String × Finder)}
    (h : OperandsFind k operands finders) :
    BodyFinds k (inSet operands) (Find.inSet finders) := by
  intro actual
  unfold inSet Find.inSet
  refine Yields.after (ends_someAccepts h actual rfl) ?_
  rw [h.texts_eq]
  split
  · exact (reports_pure k).yields
  · exact yields_fail k _

/-- What follows stands in both branches of the match on the first result; it can be brought behind them. -/
theorem and_cons (o : Operand) (operands : List Operand) (actual : Value) :
    and (o :: operands) actual = renewed (o.check actual) >>= fun _ => and operands actual := by
  rw [and, Operand.result, renewed, bind_assoc]
  congr 1
  funext outcome
  cases outcome with
  | ok u => rw [pure_bind]
  | error failure => rfl

/-- `$and` reports what its operands find, one after the other. -/
theorem reports_and {operands : List Operand} {finders : List Finder}
    (h : List.Forall₂ (OperandFinds k) operands finders) (actual : Value) :
    Reports k (and operands actual) (Find.and finders actual) := by
  induction h with
  | nil => exact reports_pure k
  | @cons o find operands finders hfirst _ ih =>
      rw [and_cons]
      exact (hfirst actual).renew.seq ih

/-- `$nor` reports one mismatch for each operand that accepts the value. -/
theorem nor_finds (position : Nat) {operands : List Operand} {finders : List Finder}
    (h : List.Forall₂ (OperandFinds k) operands finders) :
    Finds k (nor position operands) (Find.nor position finders) := by
  intro actual
  induction h generalizing position with
  | nil => exact reports_pure k
  | @cons o find operands finders hfirst _ ih =>
      rw [nor, Find.nor, List.zipIdx_cons, List.flatMap_cons]
      refine Reports.after (fun cx hk => ends_accepts hfirst actual hk) ?_
      dsimp only
      split
      · exact (reports_reportHere k _).seq (ih (position + 1))
      · exact ih (position + 1)

theorem not_finds {o : Operand} {find : Finder} (h : Finds k o.check find) :
    BodyFinds k (not o) (Find.not find) := by
  intro actual
  unfold not Find.not
  refine Yields.after (ends_accepts h actual rfl) ?_
  split
  · exact yields_fail k _
  · exact (reports_pure k).yields

/-! ### Alternatives -/

/-- The search for failures ends with the first operand that accepts the value. -/
theorem ends_failuresOfAll_of_accepts {operands : List Operand} {finders : List Finder}
    (h : List.Forall₂ (OperandFinds k) operands finders) {actual : Value}
    (haccepts : finders.any (Find.accepts · actual) = true) {cx : Context} (hk : cx.collects = k) :
    Ends cx (failuresOfAll actual operands) (.ok none) cx := by
  induction h with
  | nil => cases haccepts
  | @cons o find operands finders hfirst _ ih =>
      rw [failuresOfAll]
      refine ((hfirst actual).ends_isolated hk).bind ?_
      cases hv : verdict k ((find actual).map (Mismatch.under cx.path)) with
      | ok u => exact ends_pure cx none
      | error failure =>
          have hno : Find.accepts find actual = false := by
            rw [Find.accepts, ← List.isEmpty_map (f := Mismatch.under cx.path), ← isOk_verdict k, hv]
            rfl
          rw [List.any_cons, hno, Bool.false_or] at haccepts
          exact (ih haccepts).bind (ends_pure cx none)

/-- If no operand accepts the value, there is a failure for each. -/
theorem ends_failuresOfAll_of_not_accepts {operands : List Operand} {finders : List Finder}
    (h : List.Forall₂ (OperandFinds k) operands finders) {actual : Value}
    (haccepts : finders.any (Find.accepts · actual) = false) (cx : Context) (hk : cx.collects = k) :
    ∃ failures, Ends cx (failuresOfAll actual operands) (.ok (some failures)) cx ∧
      List.Forall₂ (fun failure find =>
        verdict k ((find actual).map (Mismatch.under cx.path)) = .error failure) failures finders := by
  induction h with
  | nil => exact ⟨[], ends_pure cx (some []), .nil⟩
  | @cons o find operands finders hfirst _ ih =>
      rw [List.any_cons, Bool.or_eq_false_iff] at haccepts
      obtain ⟨failures, hends, hall⟩ := ih haccepts.2
      cases hv : verdict k ((find actual).map (Mismatch.under cx.path)) with
      | ok u =>
          rw [verdict_eq_ok_iff, List.map_eq_nil_iff] at hv
          rw [Find.accepts, hv] at haccepts
          cases haccepts.1
      | error failure =>
          refine ⟨failure :: failures, ?_, .cons hv hall⟩
          rw [failuresOfAll]
          refine ((hfirst actual).ends_isolated hk).bind ?_
          rw [hv]
          exact hends.bind (ends_pure cx _)

/-- To report the failures of several comparisons at one place is to tell what they all found. -/
theorem ends_reportFailures (cx : Context) {failures : List Failure} {finders : List Finder}
    {actual : Value} (h : List.Forall₂ (fun failure find =>
      verdict cx.collects ((find actual).map (Mismatch.under cx.path)) = .error failure)
      failures finders) :
    Ends cx (reportFailures failures) (cx.tell (finders.flatMap (· actual))).1
      (cx.tell (finders.flatMap (· actual))).2 := by
  induction failures generalizing finders cx with
  | nil =>
      cases h with
      | nil =>
          rw [List.flatMap_nil, Context.tell_nil]
          exact ends_pure cx ()
  | cons failure failures ih =>
      cases h with
      | @cons _ find _ finders hfirst hrest =>
          have hreport := ends_onContext cx (·.reportAll failure)
          rw [Context.reportAll_of_verdict hfirst] at hreport
          rw [reportFailures, List.flatMap_cons]
          refine hreport.tell_seq fun cx' hk hpath => ?_
          rw [← hk, ← hpath] at hrest
          exact ih cx' hrest

/-- When no operand accepts the value, one mode reports what all of them found and the other returns the first
of it. -/
theorem or_finds {operands : List Operand} {finders : List Finder}
    (h : List.Forall₂ (OperandFinds k) operands finders) :
    BodyFinds k (or operands) (Find.or k finders) := by
  intro actual
  unfold or Find.or
  cases haccepts : finders.any (Find.accepts · actual) with
  | true =>
      refine Yields.after (ends_failuresOfAll_of_accepts h haccepts rfl) ?_
      exact (reports_pure k).yields
  | false =>
      obtain ⟨failures, hends, hall⟩ :=
        ends_failuresOfAll_of_not_accepts h haccepts (.start k) rfl
      refine Yields.after hends ?_
      cases hall with
      | nil => exact yields_fail k _
      | @cons failure find failures finders hfirst hrest =>
          -- the first finder finds something, since it does not accept the value
          obtain ⟨m, ms, hms⟩ : ∃ m ms, find actual = m :: ms := by
            cases hfound : find actual with
            | nil =>
                rw [hfound] at hfirst
                cases k <;> cases hfirst
            | cons m ms => exact ⟨m, ms, rfl⟩
          refine Yields.after (ends_context _) ?_
          cases k with
          | true =>
              have hreport := ends_reportFailures (.start true) (.cons hfirst hrest)
              rw [List.flatMap_cons, hms] at hreport ⊢
              exact hreport.yields
          | false =>
              rw [List.flatMap_cons, hms]
              rw [hms] at hfirst
              have htext : failure = .single m := (Except.error.inj hfirst).symm
              rw [htext]
              exact yields_fail false _

/-! ## Rules in their place -/

/-- What the body of a rule records or returns is reported at the place of the rule. -/
theorem BodyFinds.rule {run : Check} {find : Finder} (h : BodyFinds k run find) :
    Finds k (rule run) find := by
  intro actual cx hk
  subst hk
  obtain ⟨r, cx', hends, halike⟩ := h actual
  unfold Check.rule
  refine (ends_context cx).bind (hends.apart.bind ?_)
  rw [← tell_eq_of_alike halike]
  exact ends_reportUnder cx _

end Check

/-! ## The check of a tree -/

open Comparison in
mutual

/-- **The check of an expected tree reports what there is to find**, whatever the plan for look-ups. -/
theorem checkTree_finds (k : Bool) (plan : LookupPlan) :
    (e : Expected) → Check.Finds k (checkTree plan e) (findTree k e)
  | .document entries => Check.document_finds plan (checkEntries_find k plan entries)
  | .array items => Check.array_finds (checkItems_find k plan items)
  | .rule _ r => (checkRule_finds k plan r).rule
  | .null => Check.leaf_finds .null
  | .bool b => Check.leaf_finds (.bool b)
  | .int i => Check.leaf_finds (.int i)
  | .float x => Check.leaf_finds (.float x)
  | .string s => Check.leaf_finds (.string s)

theorem checkEntries_find (k : Bool) (plan : LookupPlan) : (entries : List (String × Expected)) →
    Check.EntriesFind k (checkEntries plan entries) (findEntries k entries)
  | [] => .nil
  | (_, e) :: rest => .cons ⟨rfl, checkTree_finds k plan e⟩ (checkEntries_find k plan rest)

theorem checkItems_find (k : Bool) (plan : LookupPlan) : (items : List Expected) →
    List.Forall₂ (Check.Finds k) (checkItems plan items) (findItems k items)
  | [] => .nil
  | e :: rest => .cons (checkTree_finds k plan e) (checkItems_find k plan rest)

theorem operandsOf_find (k : Bool) (plan : LookupPlan) : (es : List Expected) →
    Check.OperandsFind k (operandsOf plan es) (findOperands k es)
  | [] => .nil
  | e :: rest => .cons ⟨rfl, checkTree_finds k plan e⟩ (operandsOf_find k plan rest)

theorem operandsOf_findItems (k : Bool) (plan : LookupPlan) : (es : List Expected) →
    List.Forall₂ (Check.OperandFinds k) (operandsOf plan es) (findItems k es)
  | [] => .nil
  | e :: rest => .cons (checkTree_finds k plan e) (operandsOf_findItems k plan rest)

theorem checkRule_finds (k : Bool) (plan : LookupPlan) :
    (r : Rule) → Check.BodyFinds k (checkRule plan r) (findRule k r)
  | .equal (.document entries) => Check.strictDocument_finds (checkEntries_find k plan entries)
  | .equal (.array items) => Check.same_finds (checkTree_finds k plan (.array items))
  | .equal (.rule label r) => Check.same_finds (checkTree_finds k plan (.rule label r))
  | .equal .null => Check.same_finds (Check.leaf_finds .null)
  | .equal (.bool b) => Check.same_finds (Check.leaf_finds (.bool b))
  | .equal (.int i) => Check.same_finds (Check.leaf_finds (.int i))
  | .equal (.float x) => Check.same_finds (Check.leaf_finds (.float x))
  | .equal (.string s) => Check.same_finds (Check.leaf_finds (.string s))
  | .notEqual e => .of_settled (Check.settled_notEqual e)
  | .nil target explicit => .of_settled (Check.settled_nil target explicit)
  | .required => .of_settled Check.settled_required
  | .any => fun _ => (reports_pure k).yields
  | .empty want => .of_settled (Check.settled_empty want)
  | .pattern p => .of_settled (Check.settled_pattern p)
  | .elementsMatch es => Check.elementsMatch_finds (operandsOf_find k plan es)
  | .length bounds => Check.length_finds bounds
  | .inSet es => Check.inSet_finds (operandsOf_find k plan es)
  | .numeric bound => .of_settled (Check.settled_numeric bound)
  | .and es => fun actual => (Check.reports_and (operandsOf_findItems k plan es) actual).yields
  | .or es => Check.or_finds (operandsOf_findItems k plan es)
  | .nor es => (Check.nor_finds 0 (operandsOf_findItems k plan es)).body
  | .not e => Check.not_finds (checkTree_finds k plan e)
  | .custom _ run => fun actual => by
      obtain ⟨r, cx', hends, halike⟩ :=
        runProgram_ends k plan (run k actual) (.start k) rfl (fun _ => rfl)
      exact ⟨r, cx', (ends_context _).bind hends, halike⟩

/-- A program goes on from what it has recorded. -/
theorem runProgram_ends (k : Bool) (plan : LookupPlan) : (p : Program) → (cx : Context) →
    cx.collects = k → (k = false → cx.collected = []) → ∃ r cx', Ends cx (runProgram plan p) r cx' ∧
      Alike k (cx'.collected ++ Outcome.mismatches r) (cx.collected ++ findProgram k p)
  | .done outcome, cx, _, _ => ⟨outcome, cx, ends_ofOutcome cx outcome, .refl k _⟩
  | .report failure next, cx, hk, hnew => by
      -- one mode keeps the failure and the program sees success, the other hands it to the program
      have hreport := (ends_onContext cx (·.reportAll failure)).attempt
      cases k with
      | true =>
          rw [Context.reportAll, if_pos hk] at hreport
          obtain ⟨r, cx', hends, halike⟩ := runProgram_ends true plan (next (.ok ()))
            { cx with collected := cx.collected ++ failure.mismatches } hk nofun
          refine ⟨r, cx', hreport.bind hends, ?_⟩
          rw [List.append_assoc] at halike
          exact halike
      | false =>
          rw [Context.reportAll, if_neg (by simp [hk])] at hreport
          obtain ⟨r, cx', hends, halike⟩ :=
            runProgram_ends false plan (next (.error failure)) cx hk hnew
          exact ⟨r, cx', hreport.bind hends, halike⟩
  | .test place expected actual next, cx, hk, hnew => by
      have hresult : Ends cx (resultIn (.startAt place cx.collects) (checkTree plan expected actual))
          _ cx := (checkTree_finds k plan expected actual (.startAt place cx.collects) hk).resultIn
      rw [Context.finish_tell rfl] at hresult
      subst hk
      obtain ⟨r, cx', hends, halike⟩ := runProgram_ends cx.collects plan (next _) cx rfl hnew
      exact ⟨r, cx', (ends_context cx).bind (hresult.bind hends), halike⟩

end

/-! ## Testers -/

/-- **The result of a test is the verdict on what there is to find**: it depends on the mode alone, and
neither on the threshold and the hash of the tester nor on what its pool holds. -/
theorem Tester.test_eq_verdict (t : Tester) (e : Expected) (actual : Value) :
    (t.test e actual).1
      = verdict t.options.collectAll (findTree t.options.collectAll e actual) := by
  obtain ⟨pool', hrun⟩ := checkTree_finds t.options.collectAll t.plan e actual
    (.start t.options.collectAll) rfl t.pool
  have hfinish := @Context.finish_tell (.start t.options.collectAll) rfl
    (findTree t.options.collectAll e actual)
  rw [Context.map_under_start] at hfinish
  unfold Tester.test
  simp only [hrun]
  exact hfinish

end Conformance
