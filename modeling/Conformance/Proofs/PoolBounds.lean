import Conformance.Pool.Basic

/-!
# How many buffers a pool holds

`Pool.Within` relates the buffers of a pool of limited size, idle and on loan, to the greatest number that were
on loan at the same time. It is kept when a buffer is lent and when one is taken back: a buffer is made only when
nothing is idle, so that there are never more than were on loan at some time, or there in the beginning; and one
is dropped only when as many are idle as the limit allows.
-/

set_option autoImplicit false

namespace Conformance

namespace Pool

variable {β : Type} [EmptyCollection β]

/-! ## Lending and taking back -/

/-- Whatever was in a buffer before, it comes out of the pool empty. -/
theorem buffer_acquire (p : Pool β) : p.acquire.1 = ∅ := by
  unfold acquire
  split <;> rfl

@[simp] theorem strategy_acquire (p : Pool β) : p.acquire.2.strategy = p.strategy := by
  unfold acquire
  split <;> rfl

@[simp] theorem outstanding_acquire (p : Pool β) : p.acquire.2.outstanding = p.outstanding + 1 := by
  unfold acquire
  split <;> rfl

/-- A loan takes one of the idle buffers, if there is one. -/
theorem length_idle_acquire (p : Pool β) : p.acquire.2.idle.length = p.idle.length - 1 := by
  unfold acquire
  split
  · rename_i buffer rest hidle
    show rest.length = p.idle.length - 1
    rw [hidle, List.length_cons, Nat.add_sub_cancel]
  · rename_i hidle
    show p.idle.length = p.idle.length - 1
    rw [hidle, List.length_nil]

@[simp] theorem strategy_release (p : Pool β) (buffer : β) :
    (p.release buffer).strategy = p.strategy := rfl

@[simp] theorem outstanding_release (p : Pool β) (buffer : β) :
    (p.release buffer).outstanding = p.outstanding - 1 := rfl

/-- A buffer that comes back is kept as long as the limit leaves room for it. -/
theorem length_idle_release {p : Pool β} {limit : Nat} (hstrategy : p.strategy = .sizeLimited limit)
    (hidle : p.idle.length ≤ limit) (buffer : β) :
    (p.release buffer).idle.length = min limit (p.idle.length + 1) := by
  show (if p.strategy.admits p.idle.length then recycle buffer :: p.idle else p.idle).length = _
  rw [hstrategy, PoolStrategy.admits]
  by_cases hroom : p.idle.length < limit
  · rw [if_pos (decide_eq_true hroom), List.length_cons]
    omega
  · rw [if_neg (by simpa using hroom)]
    omega

/-! ## The bounds -/

/-- A pool that keeps at most `limit` idle buffers had `first` of them when all buffers were back; since then up
to `most` have been on loan at the same time, and now `out` are. -/
structure Within (limit first out most : Nat) (p : Pool β) : Prop where
  strategy : p.strategy = .sizeLimited limit
  outstanding : p.outstanding = out
  idle_le : p.idle.length ≤ limit
  least : min limit (max first most) ≤ p.idle.length + out
  greatest : p.idle.length + out ≤ max first most

namespace Within

variable {limit first out most : Nat} {p : Pool β}

omit [EmptyCollection β] in
theorem start (hstrategy : p.strategy = .sizeLimited limit) (hback : p.outstanding = 0)
    (hidle : p.idle.length ≤ limit) : Within limit p.idle.length 0 0 p where
  strategy := hstrategy
  outstanding := hback
  idle_le := hidle
  least := by omega
  greatest := by omega

/-- A buffer is taken from the idle ones, or one more is held, and then all that are held are on loan. -/
theorem acquire (h : Within limit first out most p) :
    Within limit first (out + 1) (max most (out + 1)) p.acquire.2 := by
  have hidle := length_idle_acquire p
  obtain ⟨hstrategy, hout, hlimit, hleast, hgreatest⟩ := h
  refine ⟨by rw [strategy_acquire, hstrategy], by rw [outstanding_acquire, hout], ?_, ?_, ?_⟩
  · omega
  · omega
  · omega

/-- A buffer comes back, and is dropped only where the limit is reached already. -/
theorem release (h : Within limit first (out + 1) most p) (buffer : β) :
    Within limit first out most (p.release buffer) := by
  obtain ⟨hstrategy, hout, hlimit, hleast, hgreatest⟩ := h
  have hidle := length_idle_release hstrategy hlimit buffer
  refine ⟨by rw [strategy_release, hstrategy], ?_, ?_, ?_, ?_⟩
  · rw [outstanding_release, hout, Nat.add_sub_cancel]
  · omega
  · omega
  · omega

omit [EmptyCollection β] in
/-- Once all buffers are back, the number of idle ones is settled. -/
theorem idle_eq (h : Within limit first 0 most p) : p.idle.length = min limit (max first most) := by
  obtain ⟨-, -, hlimit, hleast, hgreatest⟩ := h
  omega

end Within

end Pool

end Conformance
