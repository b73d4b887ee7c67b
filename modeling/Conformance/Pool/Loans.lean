import Conformance.Pool.Basic

/-!
# Buffers on loan

Any number of buffers can be on loan at the same time, and they may come back in any order. Loans are
numbered from zero in the order in which they were made.
-/

set_option autoImplicit false

namespace Conformance

/-- A pool with its loans: the buffer of each one, or nothing once it has come back. -/
structure Loans (β : Type) where
  pool : Pool β
  slots : List (Option β)

namespace Loans

variable {β : Type} [EmptyCollection β]

def start (strategy : PoolStrategy) : Loans β := ⟨.empty strategy, []⟩

def acquire (l : Loans β) : Loans β :=
  let (buffer, pool) := l.pool.acquire
  ⟨pool, l.slots ++ [some buffer]⟩

/-- The buffer of a loan that has not come back. -/
def buffer? (l : Loans β) (slot : Nat) : Option β := (l.slots[slot]?).join

def update (l : Loans β) (slot : Nat) (change : β → β) : Loans β :=
  match l.buffer? slot with
  | some buffer => { l with slots := l.slots.set slot (some (change buffer)) }
  | none => l

def release (l : Loans β) (slot : Nat) : Loans β :=
  match l.buffer? slot with
  | some buffer => ⟨l.pool.release buffer, l.slots.set slot none⟩
  | none => l

/-- Take all buffers back, in the order of the loans. -/
def releaseAll (l : Loans β) : Loans β := (List.range l.slots.length).foldl release l

end Loans

end Conformance
