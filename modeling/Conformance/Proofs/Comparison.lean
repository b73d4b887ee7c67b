import Conformance.Proofs.Findings
import Conformance.Proofs.KeyIndex
import Conformance.Proofs.PoolBounds

/-!
# How comparisons end

`Context.tell` is what it does to a context to be told the findings of a comparison. `Ends cx c r cx'` says
that the comparison `c`, started in the context `cx`, ends with the result `r` in the context `cx'`,
whatever the pool holds; there is one rule for each way of putting comparisons together.

Two properties of comparisons are stated with them. `Reports k c ms`: in every context of the mode `k`,
wherever it is and whatever it has collected, `c` has the effect of telling it `ms`. `Yields k c ms`: at its
own root `c` records or returns `ms`. The second is weaker, and all that is asked of the body of a rule,
which may stop with a failure where it could have reported.
-/

set_option autoImplicit false

namespace Conformance

/-! ## Telling a context what was found -/

namespace Context

/-- The effect on a context of reporting mismatches that were found at its place. -/
def tell (cx : Context) (ms : List Mismatch) : Outcome × Context :=
  if cx.collects then
    (.ok (), { cx with collected := cx.collected ++ ms.map (Mismatch.under cx.path) })
  else (verdict false (ms.map (Mismatch.under cx.path)), cx)

/-- A context that collects keeps the findings under its path and goes on. -/
theorem tell_of_collects {cx : Context} (hk : cx.collects = true) (ms : List Mismatch) :
    cx.tell ms
      = (.ok (), { cx with collected := cx.collected ++ ms.map (Mismatch.under cx.path) }) := by
  rw [tell, if_pos hk]

/-- A context that stops takes the first finding for the result, and nothing is kept. -/
theorem tell_of_not_collects {cx : Context} (hk : cx.collects = false) (ms : List Mismatch) :
    cx.tell ms = (verdict false (ms.map (Mismatch.under cx.path)), cx) := by
  rw [tell, if_neg (by simp [hk])]

@[simp] theorem tell_nil (cx : Context) : cx.tell [] = (.ok (), cx) := by
  unfold tell
  split <;> simp [verdict]

@[simp] theorem collects_tell (cx : Context) (ms : List Mismatch) :
    (cx.tell ms).2.collects = cx.collects := by
  unfold tell
  split <;> rfl

@[simp] theorem path_tell (cx : Context) (ms : List Mismatch) : (cx.tell ms).2.path = cx.path := by
  unfold tell
  split <;> rfl

/-- A context takes everything well that it collects, and nothing else but silence. -/
theorem tell_eq_ok_iff {cx : Context} {ms : List Mismatch} :
    (cx.tell ms).1 = .ok () ↔ (cx.collects || ms.isEmpty) = true := by
  cases hk : cx.collects with
  | true => simp [tell_of_collects hk]
  | false => simp [tell_of_not_collects hk, verdict_eq_ok_iff]

/-- What comes after success is told on top. -/
theorem tell_append_of_ok {cx : Context} {ms : List Mismatch} (ns : List Mismatch)
    (h : (cx.tell ms).1 = .ok ()) : cx.tell (ms ++ ns) = (cx.tell ms).2.tell ns := by
  cases hk : cx.collects with
  | true =>
      rw [tell_of_collects hk, tell_of_collects hk, tell_of_collects (by exact hk)]
      simp
  | false =>
      -- a context that stops takes nothing well but silence
      rw [tell_of_not_collects hk, verdict_eq_ok_iff, List.map_eq_nil_iff] at h
      rw [h, List.nil_append, tell_nil]

/-- What comes after a failure is not told. -/
theorem tell_append_of_error {cx : Context} {ms : List Mismatch} {failure : Failure}
    (ns : List Mismatch) (h : (cx.tell ms).1 = .error failure) : cx.tell (ms ++ ns) = cx.tell ms := by
  cases hk : cx.collects with
  | true =>
      rw [tell_of_collects hk] at h
      cases h
  | false =>
      rw [tell_of_not_collects hk, tell_of_not_collects hk]
      cases ms with
      | nil => simp [tell_of_not_collects hk, verdict] at h
      | cons m rest => rfl

/-- To tell a context one step further down is to tell it here what was found there. -/
theorem tell_enter (cx : Context) (s : Segment) (ms : List Mismatch) :
    (cx.enter s).tell ms = ((cx.tell (below s ms)).1, (cx.tell (below s ms)).2.enter s) := by
  have hpath : ms.map (Mismatch.under (cx.enter s).path)
      = (below s ms).map (Mismatch.under cx.path) := by
    simp [below, Mismatch.under_under, Path.join_push, enter]
  cases hk : cx.collects with
  | true =>
      rw [@tell_of_collects (cx.enter s) hk, tell_of_collects hk, hpath]
      rfl
  | false => rw [@tell_of_not_collects (cx.enter s) hk, tell_of_not_collects hk, hpath]

theorem report_under (cx : Context) (m : Mismatch) : cx.report (m.under cx.path) = cx.tell [m] := by
  unfold report tell
  split <;> rfl

theorem reportHere_eq_tell (cx : Context) (message : String) :
    cx.reportHere message = cx.tell (Find.here message) := by
  rw [Find.here, ← report_under]
  simp [reportHere, mismatch, Mismatch.under]

theorem reportAt_eq_tell (cx : Context) (s : Segment) (message : String) :
    cx.reportAt s message = cx.tell (below s (Find.here message)) := by
  show _ = cx.tell [_]
  rw [← report_under]
  simp [reportAt, Mismatch.under, Path.join_push]

/-- The root is where paths are what they are. -/
theorem map_under_start (k : Bool) (ms : List Mismatch) :
    ms.map (Mismatch.under (start k).path) = ms :=
  List.map_id'' Mismatch.under_root ms

/-- What is told to a context with nothing collected is its result. -/
theorem finish_tell {cx : Context} (hnew : cx.collected = []) (ms : List Mismatch) :
    (cx.tell ms).2.finish (cx.tell ms).1
      = verdict cx.collects (ms.map (Mismatch.under cx.path)) := by
  cases hk : cx.collects with
  | true =>
      rw [tell_of_collects hk]
      simp only [finish, hnew, List.nil_append]
      cases ms with
      | nil => rfl
      | cons m rest => rfl
  | false =>
      rw [tell_of_not_collects hk]
      cases ms with
      | nil => simp [finish, verdict, hnew, Mismatches.ofList?]
      | cons m rest => simp [finish, verdict]

/-- To report the result of a comparison at the same place is to tell what it found. -/
theorem reportAll_of_verdict {cx : Context} {ms : List Mismatch} {failure : Failure}
    (h : verdict cx.collects (ms.map (Mismatch.under cx.path)) = .error failure) :
    cx.reportAll failure = cx.tell ms := by
  cases hk : cx.collects with
  | true =>
      have hms := mismatches_verdict_true (ms.map (Mismatch.under cx.path))
      rw [hk] at h
      rw [h] at hms
      rw [tell_of_collects hk, ← hms, reportAll, if_pos hk]
      rfl
  | false =>
      rw [hk] at h
      rw [tell_of_not_collects hk, h, reportAll, if_neg (by simp [hk])]

end Context

namespace Comparison

variable {α β : Type}

/-! ## The judgement -/

/-- Started in a context, a comparison ends with a result in a context, whatever the pool. -/
def Ends (cx : Context) (c : Comparison α) (r : Except Failure α) (cx' : Context) : Prop :=
  ∀ pool, ∃ pool', c.run ⟨cx, pool⟩ = (r, ⟨cx', pool'⟩)

/-- What becomes of a context in which a comparison is run with a pool: the outcome, and the context at the
end. -/
def effect (c : Comparison Unit) (cx : Context) (pool : Pool KeySlots) : Outcome × Context :=
  ((c.run ⟨cx, pool⟩).1, (c.run ⟨cx, pool⟩).2.context)

theorem Ends.effect_eq {cx cx' : Context} {c : Comparison Unit} {r : Outcome} (h : Ends cx c r cx')
    (pool : Pool KeySlots) : c.effect cx pool = (r, cx') := by
  obtain ⟨pool', hrun⟩ := h pool
  rw [effect, hrun]

theorem run_bind_ok {c : Comparison α} {s s' : Session} {a : α} (f : α → Comparison β)
    (h : c.run s = (.ok a, s')) : (c >>= f).run s = (f a).run s' := by
  show (c.run s >>= fun p => ExceptT.bindCont f p.1 p.2) = (f a).run s'
  rw [h]
  rfl

/-- A failure skips what comes next, with the session as it is by then. -/
theorem run_bind_error {c : Comparison α} {s s' : Session} {failure : Failure}
    (f : α → Comparison β) (h : c.run s = (.error failure, s')) :
    (c >>= f).run s = (.error failure, s') := by
  show (c.run s >>= fun p => ExceptT.bindCont f p.1 p.2) = (.error failure, s')
  rw [h]
  rfl

theorem run_within (s : Segment) (c : Comparison Unit) (session : Session) :
    (within s c).run session
      = ((c.run { session with context := session.context.enter s }).1,
        { (c.run { session with context := session.context.enter s }).2 with
          context := (c.run { session with context := session.context.enter s }).2.context.leave }) :=
  rfl

theorem run_attempt (c : Comparison Unit) (session : Session) :
    (attempt c).run session = (.ok (c.run session).1, (c.run session).2) := rfl

/-- The child has a context of its own; the pool is the one thing it shares. -/
theorem run_apart (child : Context) (c : Comparison Unit) (session : Session) :
    (apart child c).run session
      = (.ok ((c.run { session with context := child }).1,
          (c.run { session with context := child }).2.context),
        { (c.run { session with context := child }).2 with context := session.context }) := rfl

/-- The buffer of an index is lent for the time of the comparison. -/
theorem run_withIndex (hash : String → UInt64) (entries : List (String × α))
    (c : KeyIndex α → Comparison Unit) (cx : Context) (pool : Pool KeySlots) :
    (withIndex hash entries c).run ⟨cx, pool⟩
      = (((c (.build hash entries pool.acquire.1)).run ⟨cx, pool.acquire.2⟩).1,
        { ((c (.build hash entries pool.acquire.1)).run ⟨cx, pool.acquire.2⟩).2 with
          pool := ((c (.build hash entries pool.acquire.1)).run ⟨cx, pool.acquire.2⟩).2.pool.release
            (KeyIndex.build hash entries pool.acquire.1).slots }) := rfl

theorem ends_pure (cx : Context) (a : α) : Ends cx (pure a) (.ok a) cx :=
  fun pool => ⟨pool, rfl⟩

theorem Ends.bind {cx cx₁ cx₂ : Context} {c : Comparison α} {f : α → Comparison β} {a : α}
    {r : Except Failure β} (hc : Ends cx c (.ok a) cx₁) (hf : Ends cx₁ (f a) r cx₂) :
    Ends cx (c >>= f) r cx₂ := by
  intro pool
  obtain ⟨pool₁, h₁⟩ := hc pool
  obtain ⟨pool₂, h₂⟩ := hf pool₁
  exact ⟨pool₂, by rw [run_bind_ok f h₁, h₂]⟩

theorem Ends.bind_error {cx cx₁ : Context} {c : Comparison α} {f : α → Comparison β}
    {failure : Failure} (hc : Ends cx c (.error failure) cx₁) :
    Ends cx (c >>= f) (.error failure) cx₁ := by
  intro pool
  obtain ⟨pool₁, h₁⟩ := hc pool
  exact ⟨pool₁, run_bind_error f h₁⟩

theorem ends_context (cx : Context) : Ends cx context (.ok cx) cx :=
  fun pool => ⟨pool, rfl⟩

theorem ends_onContext (cx : Context) (action : Context → Outcome × Context) :
    Ends cx (onContext action) (action cx).1 (action cx).2 :=
  fun pool => ⟨pool, rfl⟩

theorem ends_fail (cx : Context) (message : String) :
    Ends cx (fail message) (.error (.single (cx.mismatch message))) cx :=
  fun pool => ⟨pool, rfl⟩

theorem ends_ofOutcome (cx : Context) (outcome : Outcome) : Ends cx (ofOutcome outcome) outcome cx := by
  cases outcome with
  | ok u => exact ends_pure cx u
  | error failure => exact fun pool => ⟨pool, rfl⟩

theorem Ends.within {cx cx' : Context} {s : Segment} {c : Comparison Unit} {r : Outcome}
    (h : Ends (cx.enter s) c r cx') : Ends cx (within s c) r cx'.leave := by
  intro pool
  obtain ⟨pool', h'⟩ := h pool
  exact ⟨pool', by rw [run_within, h']⟩

theorem Ends.attempt {cx cx' : Context} {c : Comparison Unit} {r : Outcome} (h : Ends cx c r cx') :
    Ends cx (attempt c) (.ok r) cx' := by
  intro pool
  obtain ⟨pool', h'⟩ := h pool
  exact ⟨pool', by rw [run_attempt, h']⟩

theorem Ends.apart {cx child child' : Context} {c : Comparison Unit} {r : Outcome}
    (h : Ends child c r child') : Ends cx (apart child c) (.ok (r, child')) cx := by
  intro pool
  obtain ⟨pool', h'⟩ := h pool
  exact ⟨pool', by rw [run_apart, h']⟩

theorem Ends.resultIn {cx child child' : Context} {c : Comparison Unit} {r : Outcome}
    (h : Ends child c r child') : Ends cx (resultIn child c) (.ok (child'.finish r)) cx :=
  h.apart.bind (ends_pure cx _)

theorem Ends.isolated {cx child' : Context} {c : Comparison Unit} {r : Outcome}
    (h : Ends cx.isolated c r child') : Ends cx (isolated c) (.ok (child'.finish r)) cx :=
  (ends_context cx).bind h.resultIn

/-- A buffer comes out of the pool empty, so that an index finds what a search finds. -/
theorem Ends.withIndex {cx cx' : Context} {hash : String → UInt64} {entries : List (String × α)}
    {c : KeyIndex α → Comparison Unit} {r : Outcome}
    (h : ∀ index : KeyIndex α, (∀ key, index.get key = lookup key entries) → Ends cx (c index) r cx') :
    Ends cx (withIndex hash entries c) r cx' := by
  intro pool
  obtain ⟨pool', h'⟩ := h (.build hash entries ∅) (KeyIndex.get_build hash entries) pool.acquire.2
  exact ⟨pool'.release (KeyIndex.build hash entries ∅).slots,
    by rw [run_withIndex, Pool.buffer_acquire, h']⟩

/-! ## Comparisons that report -/

/-- In every context of a mode, the comparison has the effect of telling it the given mismatches. -/
def Reports (collects : Bool) (c : Comparison Unit) (ms : List Mismatch) : Prop :=
  ∀ cx : Context, cx.collects = collects → Ends cx c (cx.tell ms).1 (cx.tell ms).2

variable {k : Bool} {c d : Comparison Unit} {ms ns : List Mismatch}

theorem reports_pure (k : Bool) : Reports k (pure ()) [] := by
  intro cx _
  rw [Context.tell_nil]
  exact ends_pure cx ()

/-- A comparison goes on with what comes next if what it told was taken well, and stops otherwise. -/
theorem Ends.tell_seq {cx : Context} (hc : Ends cx c (cx.tell ms).1 (cx.tell ms).2)
    (hd : ∀ cx' : Context, cx'.collects = cx.collects → cx'.path = cx.path →
      Ends cx' d (cx'.tell ns).1 (cx'.tell ns).2) :
    Ends cx (c >>= fun _ => d) (cx.tell (ms ++ ns)).1 (cx.tell (ms ++ ns)).2 := by
  cases htold : (cx.tell ms).1 with
  | ok u =>
      rw [htold] at hc
      rw [Context.tell_append_of_ok ns htold]
      exact hc.bind (hd _ (Context.collects_tell cx ms) (Context.path_tell cx ms))
  | error failure =>
      rw [Context.tell_append_of_error ns htold, htold]
      rw [htold] at hc
      exact hc.bind_error

/-- Findings come in the order of the comparisons. -/
theorem Reports.seq (hc : Reports k c ms) (hd : Reports k d ns) :
    Reports k (c >>= fun _ => d) (ms ++ ns) :=
  fun cx hk => (hc cx hk).tell_seq fun cx' hk' _ => hd cx' (hk'.trans hk)

/-- A step that leaves no trace, in front of the rest of a comparison. -/
theorem Reports.after {a : α} {q : Comparison α} {f : α → Comparison Unit}
    (hq : ∀ cx : Context, cx.collects = k → Ends cx q (.ok a) cx) (hf : Reports k (f a) ms) :
    Reports k (q >>= f) ms :=
  fun cx hk => (hq cx hk).bind (hf cx hk)

theorem reports_reportHere (k : Bool) (message : String) :
    Reports k (reportHere message) (Find.here message) := by
  intro cx _
  rw [← Context.reportHere_eq_tell]
  exact ends_onContext cx _

theorem reports_reportAt (k : Bool) (s : Segment) (message : String) :
    Reports k (reportAt s message) (below s (Find.here message)) := by
  intro cx _
  rw [← Context.reportAt_eq_tell]
  exact ends_onContext cx _

theorem Reports.within (s : Segment) (h : Reports k c ms) : Reports k (within s c) (below s ms) := by
  intro cx hk
  have hends := (h (cx.enter s) hk).within
  rw [Context.tell_enter] at hends
  simpa using hends

/-- The result of a comparison in isolation. -/
theorem Reports.ends_isolated {cx : Context} (h : Reports k c ms) (hk : cx.collects = k) :
    Ends cx (isolated c) (.ok (verdict k (ms.map (Mismatch.under cx.path)))) cx := by
  have hends := (h cx.isolated hk).isolated
  rw [Context.finish_tell rfl] at hends
  subst hk
  exact hends

/-- Run a comparison in isolation and report its result. -/
def renewed (c : Comparison Unit) : Comparison Unit := do
  match ← isolated c with
  | .ok () => pure ()
  | .error failure => reportAll failure

/-- To report the result of a comparison in isolation has the effect of running it in place. -/
theorem Reports.renew (h : Reports k c ms) : Reports k (renewed c) ms := by
  intro cx hk
  refine (h.ends_isolated hk).bind ?_
  subst hk
  cases hv : verdict cx.collects (ms.map (Mismatch.under cx.path)) with
  | ok u =>
      rw [verdict_eq_ok_iff, List.map_eq_nil_iff] at hv
      rw [hv, Context.tell_nil]
      exact ends_pure cx ()
  | error failure =>
      rw [← Context.reportAll_of_verdict hv]
      exact ends_onContext cx _

/-- To report mismatches as seen from the place of a context is to tell it the mismatches. -/
theorem ends_reportUnder (cx : Context) (ms : List Mismatch) :
    Ends cx (reportUnder cx.path ms) (cx.tell ms).1 (cx.tell ms).2 := by
  induction ms generalizing cx with
  | nil =>
      rw [Context.tell_nil]
      exact ends_pure cx ()
  | cons m rest ih =>
      have hfirst := ends_onContext cx (·.report (m.under cx.path))
      rw [Context.report_under] at hfirst
      -- reports leave the path of the context as it is, so the rest is seen from the same place
      refine hfirst.tell_seq fun cx' _ hpath => ?_
      rw [← hpath]
      exact ih cx'

/-! ## Bodies of rules -/

/-- Two lists of findings that a mode does not tell apart. -/
def Alike (collects : Bool) (ms ns : List Mismatch) : Prop :=
  (collects = true → ms = ns) ∧ ms.head? = ns.head?

theorem Alike.refl (k : Bool) (ms : List Mismatch) : Alike k ms ms := ⟨fun _ => rfl, rfl⟩

/-- What an outcome carries is what was found, as far as the mode tells. -/
theorem alike_verdict (k : Bool) (ms : List Mismatch) : Alike k (verdict k ms).mismatches ms := by
  cases ms with
  | nil => cases k <;> exact .refl _ []
  | cons m rest =>
      cases k with
      | true => exact .refl true _
      | false => exact ⟨nofun, rfl⟩

/-- To be told lists that its mode does not tell apart makes no difference to a context. -/
theorem tell_eq_of_alike {cx : Context} (h : Alike cx.collects ms ns) : cx.tell ms = cx.tell ns := by
  cases hk : cx.collects with
  | true => rw [h.1 hk]
  | false =>
      have hhead := h.2
      rw [Context.tell_of_not_collects hk, Context.tell_of_not_collects hk]
      cases ms with
      | nil =>
          cases ns with
          | nil => rfl
          | cons n ns => cases hhead
      | cons m ms =>
          cases ns with
          | nil => cases hhead
          | cons n ns =>
              rw [List.head?_cons, List.head?_cons, Option.some.injEq] at hhead
              rw [hhead]
              rfl

/-- Run as the body of a rule, the comparison records or returns the given mismatches. -/
def Yields (collects : Bool) (c : Comparison Unit) (ms : List Mismatch) : Prop :=
  ∃ r cx', Ends (.start collects) c r cx' ∧ Alike collects (cx'.collected ++ Outcome.mismatches r) ms

/-- A comparison that tells what it found, started as the body of a rule. -/
theorem Ends.yields (h : Ends (.start k) c ((Context.start k).tell ms).1 ((Context.start k).tell ms).2) :
    Yields k c ms := by
  refine ⟨_, _, h, ?_⟩
  cases hk : k with
  | true =>
      subst hk
      rw [Context.tell_of_collects rfl, Context.map_under_start]
      simpa [Context.start, Context.startAt, Outcome.mismatches] using Alike.refl true ms
  | false =>
      subst hk
      rw [Context.tell_of_not_collects rfl, Context.map_under_start]
      exact alike_verdict false ms

theorem Reports.yields (h : Reports k c ms) : Yields k c ms := (h (.start k) rfl).yields

theorem yields_fail (k : Bool) (message : String) : Yields k (fail message) (Find.here message) :=
  ⟨_, _, ends_fail _ message, .refl k _⟩

/-- An outcome that is returned as it is. -/
theorem yields_ofOutcome_verdict (k : Bool) (ms : List Mismatch) :
    Yields k (ofOutcome (verdict k ms)) ms :=
  ⟨_, _, ends_ofOutcome _ _, alike_verdict k ms⟩

/-- A step that leaves no trace, in front of the rest of a body. -/
theorem Yields.after {a : α} {q : Comparison α} {f : α → Comparison Unit}
    (hq : Ends (.start k) q (.ok a) (.start k)) (hf : Yields k (f a) ms) : Yields k (q >>= f) ms := by
  obtain ⟨r, cx', hends, halike⟩ := hf
  exact ⟨r, cx', hq.bind hends, halike⟩

end Comparison

end Conformance
