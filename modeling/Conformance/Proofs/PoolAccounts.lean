import Conformance.Pool.Loans
import Conformance.Proofs.PoolBounds

/-!
# The accounts of a pool

Buffers are lent, changed and taken back in any order. Whatever is done, one step has one of three effects on the
pool and on the number of loans (`Loans.step_effect`): a buffer is lent, nothing happens, or one comes back. So
what lending and taking back keep is kept by every sequence of steps.

What is kept depends on the strategy (`Pool.Balanced`). A pool that keeps everything has made as many buffers as
were ever on loan at the same time, and all of them are still idle or on loan. For a pool of limited size these
are the bounds `Pool.Within`, with no buffer in the beginning. In both cases no buffer is there that was not made.
-/

set_option autoImplicit false

namespace Conformance

/-! ## Pools -/

namespace Pool

variable {β : Type} [EmptyCollection β] {p : Pool β} {out most : Nat}

theorem idle_release_of_unbounded (hstrategy : p.strategy = .unbounded) (buffer : β) :
    (p.release buffer).idle.length = p.idle.length + 1 := by
  show (if p.strategy.admits p.idle.length then recycle buffer :: p.idle else p.idle).length = _
  rw [hstrategy, PoolStrategy.admits, if_pos rfl, List.length_cons]

theorem idle_release_le (p : Pool β) (buffer : β) :
    (p.release buffer).idle.length ≤ p.idle.length + 1 := by
  show (if p.strategy.admits p.idle.length then recycle buffer :: p.idle else p.idle).length ≤ _
  split
  · exact Nat.le_refl _
  · exact Nat.le_succ _

@[simp] theorem created_release (p : Pool β) (buffer : β) : (p.release buffer).created = p.created := rfl

/-- A buffer is made only if none is idle. -/
theorem created_acquire (p : Pool β) :
    p.acquire.2.created = p.created + (1 - p.idle.length) := by
  unfold acquire
  split
  · rename_i buffer rest hidle
    show p.created = p.created + (1 - p.idle.length)
    rw [hidle, List.length_cons, Nat.sub_eq_zero_of_le (Nat.le_add_left 1 _), Nat.add_zero]
  · rename_i hidle
    show p.created + 1 = p.created + (1 - p.idle.length)
    rw [hidle, List.length_nil]

/-- All buffers that are idle or on loan were made by the pool, and `out` of them are on loan. -/
structure Counted (out : Nat) (p : Pool β) : Prop where
  outstanding : p.outstanding = out
  held_le : p.idle.length + out ≤ p.created

namespace Counted

/-- One more on loan: an idle buffer, or one that is made for it. -/
theorem acquire (h : Counted out p) : Counted (out + 1) p.acquire.2 := by
  obtain ⟨hout, hheld⟩ := h
  have hidle := length_idle_acquire p
  have hcreated := created_acquire p
  refine ⟨by rw [outstanding_acquire, hout], ?_⟩
  omega

/-- The buffer that comes back is idle again or dropped, so that no more are held than before. -/
theorem release (h : Counted (out + 1) p) (buffer : β) : Counted out (p.release buffer) := by
  obtain ⟨hout, hheld⟩ := h
  have hidle := idle_release_le p buffer
  refine ⟨by rw [outstanding_release, hout, Nat.add_sub_cancel], ?_⟩
  rw [created_release]
  omega

end Counted

/-- A pool that keeps everything has made just the buffers that are idle or on loan, as many as were on loan at
the same time at some moment. -/
structure Hoarding (out most : Nat) (p : Pool β) : Prop where
  strategy : p.strategy = .unbounded
  created : p.created = p.idle.length + out
  held : p.idle.length + out = most

namespace Hoarding

/-- A buffer is made only if all of them are on loan, which sets a new greatest number of loans. -/
theorem acquire (h : Hoarding out most p) : Hoarding (out + 1) (max most (out + 1)) p.acquire.2 := by
  obtain ⟨hstrategy, hcreated, hheld⟩ := h
  have hidle := length_idle_acquire p
  have hmade := created_acquire p
  refine ⟨by rw [strategy_acquire, hstrategy], ?_, ?_⟩
  · omega
  · omega

/-- Nothing is dropped, so that as many buffers are held as before. -/
theorem release (h : Hoarding (out + 1) most p) (buffer : β) : Hoarding out most (p.release buffer) := by
  obtain ⟨hstrategy, hcreated, hheld⟩ := h
  have hidle := idle_release_of_unbounded hstrategy buffer
  refine ⟨by rw [strategy_release, hstrategy], ?_, ?_⟩
  · rw [created_release]
    omega
  · omega

end Hoarding

/-- What the strategy makes sure of when up to `most` buffers were on loan at the same time and `out` are now. -/
def Settled (out most : Nat) (p : Pool β) : PoolStrategy → Prop
  | .unbounded => Hoarding out most p
  | .sizeLimited limit => Within limit 0 out most p

/-- The books of a pool that was empty in the beginning. -/
structure Balanced (strategy : PoolStrategy) (out most : Nat) (p : Pool β) : Prop where
  counted : Counted out p
  settled : Settled out most p strategy

namespace Balanced

variable {strategy : PoolStrategy}

omit [EmptyCollection β] in
theorem empty (strategy : PoolStrategy) : Balanced strategy 0 0 (Pool.empty strategy : Pool β) where
  counted := ⟨rfl, Nat.le_refl 0⟩
  settled := by
    cases strategy with
    | unbounded => exact ⟨rfl, rfl, rfl⟩
    | sizeLimited limit => exact Within.start (p := Pool.empty _) rfl rfl (Nat.zero_le limit)

theorem acquire (h : Balanced strategy out most p) :
    Balanced strategy (out + 1) (max most (out + 1)) p.acquire.2 where
  counted := h.counted.acquire
  settled := by
    have hsettled := h.settled
    cases strategy with
    | unbounded => exact Hoarding.acquire hsettled
    | sizeLimited limit => exact Within.acquire hsettled

theorem release (h : Balanced strategy (out + 1) most p) (buffer : β) :
    Balanced strategy out most (p.release buffer) where
  counted := h.counted.release buffer
  settled := by
    have hsettled := h.settled
    cases strategy with
    | unbounded => exact Hoarding.release hsettled buffer
    | sizeLimited limit => exact Within.release hsettled buffer

end Balanced

end Pool

/-! ## Steps -/

inductive LoanStep (β : Type) where
  /-- One more buffer is lent. -/
  | acquire
  /-- The contents of a buffer on loan are changed. -/
  | update (slot : Nat) (change : β → β)
  /-- The buffer of a loan comes back. -/
  | release (slot : Nat)

namespace Loans

variable {β : Type} [EmptyCollection β]

def live (l : Loans β) : Nat := l.slots.countP Option.isSome

def step (l : Loans β) : LoanStep β → Loans β
  | .acquire => l.acquire
  | .update slot change => l.update slot change
  | .release slot => l.release slot

def run (l : Loans β) (steps : List (LoanStep β)) : Loans β := steps.foldl step l

/-- The greatest number of buffers that are on loan at the same time, from before the first step to behind the
last one. -/
def peak (l : Loans β) : List (LoanStep β) → Nat
  | [] => l.live
  | s :: rest => max l.live (peak (l.step s) rest)

omit [EmptyCollection β] in
theorem getElem?_of_buffer? {l : Loans β} {slot : Nat} {buffer : β} (h : l.buffer? slot = some buffer) :
    l.slots[slot]? = some (some buffer) := Option.join_eq_some_iff.mp h

theorem live_acquire (l : Loans β) : l.acquire.live = l.live + 1 := by
  show (l.slots ++ [some l.pool.acquire.1]).countP Option.isSome = _
  rw [List.countP_append, List.countP_singleton, Option.isSome_some, if_pos rfl, live]

omit [EmptyCollection β] in
/-- The number of buffers on loan after the slot of one of them is overwritten. -/
theorem countP_set_of_buffer? {l : Loans β} {slot : Nat} {buffer : β} (h : l.buffer? slot = some buffer)
    (now : Option β) :
    (l.slots.set slot now).countP Option.isSome + 1 = l.live + if now.isSome then 1 else 0 := by
  obtain ⟨hslot, hget⟩ := List.getElem?_eq_some_iff.mp (getElem?_of_buffer? h)
  have hlive : 0 < l.live :=
    List.countP_pos_iff.mpr ⟨some buffer, List.mem_of_getElem? (getElem?_of_buffer? h), rfl⟩
  rw [List.countP_set hslot, hget, Option.isSome_some, if_pos rfl, live]
  rw [live] at hlive
  omega

omit [EmptyCollection β] in
theorem live_update (l : Loans β) (slot : Nat) (change : β → β) :
    (l.update slot change).live = l.live := by
  unfold update
  split
  · rename_i buffer hbuffer
    have hcount := countP_set_of_buffer? hbuffer (some (change buffer))
    exact Nat.succ.inj hcount
  · rfl

theorem release_of_buffer? {l : Loans β} {slot : Nat} {buffer : β} (h : l.buffer? slot = some buffer) :
    l.release slot = ⟨l.pool.release buffer, l.slots.set slot none⟩ := by
  unfold release
  rw [h]

/-- One loan less is live behind the return of a buffer that was on loan. -/
theorem live_release {l : Loans β} {slot : Nat} {buffer : β} (h : l.buffer? slot = some buffer) :
    (l.release slot).live + 1 = l.live := by
  rw [release_of_buffer? h]
  exact countP_set_of_buffer? h none

/-- The three effects of a step: a buffer is lent, nothing happens, or one comes back. -/
theorem step_effect (l : Loans β) (s : LoanStep β) :
    ((l.step s).pool = l.pool.acquire.2 ∧ (l.step s).live = l.live + 1) ∨
    ((l.step s).pool = l.pool ∧ (l.step s).live = l.live) ∨
    ∃ buffer, (l.step s).pool = l.pool.release buffer ∧ l.live = (l.step s).live + 1 := by
  cases s with
  | acquire => exact .inl ⟨rfl, live_acquire l⟩
  | update slot change =>
      refine .inr (.inl ⟨?_, live_update l slot change⟩)
      show (l.update slot change).pool = l.pool
      unfold update
      split <;> rfl
  | release slot =>
      cases hbuffer : l.buffer? slot with
      | none =>
          have hsame : l.step (.release slot) = l := by
            show l.release slot = l
            unfold release
            rw [hbuffer]
          exact .inr (.inl ⟨by rw [hsame], by rw [hsame]⟩)
      | some buffer =>
          refine .inr (.inr ⟨buffer, ?_, (live_release hbuffer).symm⟩)
          show (l.release slot).pool = l.pool.release buffer
          rw [release_of_buffer? hbuffer]

/-! ## Runs -/

/-- The books are balanced for the buffers that are on loan now. -/
def Balanced (strategy : PoolStrategy) (most : Nat) (l : Loans β) : Prop :=
  Pool.Balanced strategy l.live most l.pool

variable {strategy : PoolStrategy} {most : Nat} {l : Loans β}

/-- One step keeps the books, by its effect; the new number of loans may be the greatest so far. -/
theorem Balanced.step (h : Balanced strategy most l) (hmost : l.live ≤ most) (s : LoanStep β) :
    Balanced strategy (max most (l.step s).live) (l.step s) := by
  unfold Balanced at h ⊢
  rcases step_effect l s with ⟨hpool, hlive⟩ | ⟨hpool, hlive⟩ | ⟨buffer, hpool, hlive⟩
  · rw [hpool, hlive]
    exact h.acquire
  · rw [hpool, hlive, Nat.max_eq_left hmost]
    exact h
  · rw [hlive] at h
    rw [hpool, Nat.max_eq_left (by omega)]
    exact h.release buffer

/-- The books stay balanced, with the peak of the run. -/
theorem Balanced.run (h : Balanced strategy most l) (hmost : l.live ≤ most) (steps : List (LoanStep β)) :
    Balanced strategy (max most (l.peak steps)) (l.run steps) := by
  induction steps generalizing l most with
  | nil =>
      rw [peak, Nat.max_eq_left hmost]
      exact h
  | cons s rest ih =>
      have hrest := ih (h.step hmost s) (Nat.le_max_right _ _)
      -- the next steps begin with what this step has left, so that its count is in their peak
      have hpeak : (l.step s).live ≤ (l.step s).peak rest := by
        cases rest with
        | nil => exact Nat.le_refl _
        | cons _ _ => exact Nat.le_max_left _ _
      have hmax : max (max most (l.step s).live) ((l.step s).peak rest) = max most (l.peak (s :: rest)) := by
        rw [peak]
        omega
      rw [hmax] at hrest
      exact hrest

/-- From a pool that was just made, the greatest number on loan is the peak of the steps. -/
theorem balanced_run_start (strategy : PoolStrategy) (steps : List (LoanStep β)) :
    Balanced strategy ((start strategy).peak steps) ((start strategy : Loans β).run steps) := by
  have hstart : Balanced strategy 0 (start strategy : Loans β) := Pool.Balanced.empty strategy
  have hrun := hstart.run (Nat.le_refl 0) steps
  rwa [Nat.zero_max] at hrun

/-- **The accounts of a pool are right** whatever is done with it. From a new pool and through any sequence of
loans, changes and returns: the next buffer that is lent is empty; as many buffers are counted as outstanding as
are on loan, and each one that comes back takes one off. A pool that keeps everything has made just the buffers
that are idle or on loan, as many as the greatest number that were on loan at the same time. With a limit, no
more buffers are idle than it allows; those idle or on loan are at most that greatest number and at most those
made, and at least that number or the limit. -/
theorem accounts_run (strategy : PoolStrategy) (steps : List (LoanStep β)) :
    let l := (start strategy : Loans β).run steps
    let peak := (start strategy : Loans β).peak steps
    let held := l.pool.idle.length + l.pool.outstanding
    l.acquire.buffer? l.slots.length = some ∅ ∧
    l.pool.outstanding = l.live ∧
    (∀ slot buffer, l.buffer? slot = some buffer →
      l.pool.outstanding = (l.release slot).pool.outstanding + 1) ∧
    match strategy with
    | .unbounded => l.pool.created = held ∧ held = peak
    | .sizeLimited limit =>
      l.pool.idle.length ≤ limit ∧ min limit peak ≤ held ∧ held ≤ peak ∧ held ≤ l.pool.created := by
  intro l peak held
  have hbalanced : Balanced strategy peak l := balanced_run_start strategy steps
  have hout : l.pool.outstanding = l.live := hbalanced.counted.outstanding
  refine ⟨?_, hout, fun slot buffer hbuffer => ?_, ?_⟩
  · show (l.slots ++ [some l.pool.acquire.1])[l.slots.length]?.join = some ∅
    rw [List.getElem?_concat_length, Pool.buffer_acquire]
    rfl
  · have hback := live_release hbuffer
    rw [release_of_buffer? hbuffer, Pool.outstanding_release, hout, ← hback, Nat.add_sub_cancel]
  · have hcreated : held ≤ l.pool.created := by
      show l.pool.idle.length + l.pool.outstanding ≤ _
      rw [hout]
      exact hbalanced.counted.held_le
    have hheld : held = l.pool.idle.length + l.live := congrArg (l.pool.idle.length + ·) hout
    -- what is settled is told of the loans that are live, which are the buffers that the pool counts as
    -- outstanding
    cases strategy with
    | unbounded =>
        obtain ⟨-, hmade, hmost⟩ : Pool.Hoarding l.live peak l.pool := hbalanced.settled
        exact ⟨hmade.trans hheld.symm, hheld.trans hmost⟩
    | sizeLimited limit =>
        obtain ⟨-, -, hidle, hleast, hgreatest⟩ : Pool.Within limit 0 l.live peak l.pool := hbalanced.settled
        rw [Nat.zero_max] at hleast hgreatest
        exact ⟨hidle, hheld ▸ hleast, hheld ▸ hgreatest, hcreated⟩

end Loans

/-- Three buffers are on loan, one of them with something in it, and two come back in the other order; the pool
has room for one. The loan that is left is counted, and the buffer that is lent next is empty. -/
theorem accounts_run_out_of_order :
    let steps : List (LoanStep (List Nat)) :=
      [.acquire, .acquire, .update 0 (7 :: ·), .acquire, .release 2, .release 0, .release 2]
    let l := (Loans.start (.sizeLimited 1)).run steps
    l.buffer? 1 = some [] ∧ l.pool.outstanding = (l.release 1).pool.outstanding + 1 ∧
      l.acquire.buffer? 3 = some [] := by
  intro steps l
  obtain ⟨hempty, -, hback, -⟩ := Loans.accounts_run (.sizeLimited 1) steps
  exact ⟨rfl, hback 1 [] rfl, hempty⟩

end Conformance
