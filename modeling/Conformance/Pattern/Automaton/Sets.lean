import Conformance.Pattern.Automaton.Layout
import Std.Data.HashMap

/-!
# Automata of sets of characters

A set of ASCII characters takes one state that leads on by the ranges of the set. All other sets are read
byte by byte, by states that are shared where it is easy to tell that they do the same: states that have
been laid out are kept in a table of slots, and are found again unless another one has taken the slot.

Reading forward, a state is known by the ranges and states that it leads on by, so that encodings share
their ends. Reading backward, it is known by its range and the state that it leads on to, so that encodings
share their first bytes, which are read last.
-/

set_option autoImplicit false

namespace Conformance.Pattern

open Unicode

/-! ## Tables of slots -/

/-- A hash of several numbers, which takes each one in by an exclusive or and a multiplication. -/
def hashOf (numbers : List Nat) : UInt64 :=
  numbers.foldl (fun hash n => (hash ^^^ n.toUInt64) * 1099511628211) 14695981039346656037

/-- States that have been laid out, each in the slot of its key. -/
structure SlotTable where
  slots : Nat
  entries : Std.HashMap Nat (List Nat × Nat)

namespace SlotTable

def empty (slots : Nat) : SlotTable := ⟨slots, ∅⟩

def slotOf (table : SlotTable) (key : List Nat) : Nat := (hashOf key).toNat % table.slots

/-- The state with a key, unless another one has taken its slot. -/
def find? (table : SlotTable) (key : List Nat) : Option Nat :=
  match table.entries[table.slotOf key]? with
  | some (other, state) => if other = key then some state else none
  | none => none

def insert (table : SlotTable) (key : List Nat) (state : Nat) : SlotTable :=
  { table with entries := table.entries.insert (table.slotOf key) (key, state) }

end SlotTable

/-- Find the state with a key in the table, or lay it out with ways of the given room. -/
def findOrAdd (key : List Nat) (room : Nat) : StateT SlotTable Laying Nat := do
  match (← get).find? key with
  | some state => return state
  | none =>
    let state ← addState room
    modify (·.insert key state)
    return state

/-! ## Forward -/

/-- Lay out the states that read one of several byte sequences of a length of at most `length` and lead on
to `target`. The sequences are in order, so that those that start alike are neighbours. -/
def laySequences (target : Nat) : (length : Nat) → List (List ByteRange) → StateT SlotTable Laying Nat
  | 0, _ => return target
  | length + 1, sequences =>
    if sequences.all List.isEmpty then return target
    else do
      let mut key : List Nat := []
      let mut count := 0
      for group in sequences.splitBy fun a b => a.head? == b.head? do
        let next ← laySequences target length (group.map (·.drop 1))
        match group with
        | (first :: _) :: _ =>
          key := next :: first.high :: first.low :: key
          count := count + 1
        | _ => pure ()
      findOrAdd key.reverse (Layout.rangeSize * count)

def forwardSlots : Nat := 10000

def laySetForward (sequences : List (List ByteRange)) : Laying Fragment := do
  let target ← addState 0
  discard <| (laySequences target 4 sequences).run (.empty forwardSlots)
  return ⟨false⟩

/-! ## Backward -/

/-- Lay out the states that read the bytes of a sequence, the first byte last, and lead on to `target`. -/
def layChain : (target : Nat) → List ByteRange → StateT SlotTable Laying Unit
  | _, [] => return ()
  | target, range :: rest => do
    let state ← findOrAdd [target, range.low, range.high] 0
    layChain state rest

def backwardSlots : Nat := 1000

/-- Lay out the states that read a character of a set backward: a fork with a way for each sequence. -/
def laySetBackward (sequences : List (List ByteRange)) : Laying Fragment := do
  discard <| addState 0
  let target ← addState 0
  discard <| (do
    for sequence in sequences do
      layChain target sequence
      addWays 1 : StateT SlotTable Laying Unit).run (.empty backwardSlots)
  return ⟨false⟩

def laySet (direction : Direction) (a : CodePointSet) : Laying Fragment := do
  if a.isAscii then
    discard <| addState 0
    discard <| addState (Layout.rangeSize * a.ranges.length)
    return ⟨false⟩
  else
    match direction with
    | .forward => laySetForward a.byteSequences
    | .backward => laySetBackward a.byteSequences

end Conformance.Pattern
