/-!
# Pools of buffers

A pool keeps buffers that are not in use, so that they need not be made anew. A buffer is emptied when it
is handed out and when it comes back. What comes back is kept as long as the strategy admits another idle
buffer, and dropped otherwise; the buffer that came back last is handed out first.
-/

set_option autoImplicit false

namespace Conformance

/-- How many idle buffers a pool keeps. -/
inductive PoolStrategy where
  /-- Every buffer that comes back. -/
  | unbounded
  /-- At most the given number. -/
  | sizeLimited (greatest : Nat)
  deriving DecidableEq, Inhabited

namespace PoolStrategy

/-- Whether one more buffer is kept beside `idle` others. -/
def admits (s : PoolStrategy) (idle : Nat) : Bool :=
  match s with
  | .unbounded => true
  | .sizeLimited greatest => idle < greatest

def debug : PoolStrategy → String
  | .unbounded => "Unbounded"
  | .sizeLimited greatest => "SizeLimited \x7b max_buffers: " ++ toString greatest ++ " \x7d"

/-- The strategy of a pool that is given none: at most thirty-two idle buffers. -/
def standard : PoolStrategy := .sizeLimited 32

end PoolStrategy

/-- A pool of buffers: those that are idle, last come first, how many are in use, and how many were ever
made. -/
structure Pool (β : Type) where
  strategy : PoolStrategy
  idle : List β
  outstanding : Nat
  created : Nat

namespace Pool

variable {β : Type} [EmptyCollection β]

def recycle (_ : β) : β := ∅

def empty (strategy : PoolStrategy) : Pool β := ⟨strategy, [], 0, 0⟩

/-- Hand out a buffer, an idle one if there is any. -/
def acquire (p : Pool β) : β × Pool β :=
  match p.idle with
  | buffer :: rest => (recycle buffer, { p with idle := rest, outstanding := p.outstanding + 1 })
  | [] => (∅, { p with outstanding := p.outstanding + 1, created := p.created + 1 })

def release (buffer : β) (p : Pool β) : Pool β :=
  let idle := if p.strategy.admits p.idle.length then recycle buffer :: p.idle else p.idle
  { p with idle := idle, outstanding := p.outstanding - 1 }

end Pool

end Conformance
