import Conformance.Unicode.ByteRange

/-!
# Layouts of automata

An automaton is laid out state after state. Every state takes up the same room. A state that reads one
range of bytes, or nothing, leads on to one state and needs no more; one that reads several ranges takes up
more for each range and where it leads to, and a fork, which leads on without reading, for each of its ways.
Nothing else has to be known of an automaton to tell how large it is, and so a layout holds no more. A
layout that grows too large is given up at once.

A fragment is what has been laid out for a part of an expression. What matters of it is whether it ends in a
fork, for then a link from its end is one more way.
-/

set_option autoImplicit false

namespace Conformance.Pattern

open Unicode

/-- How far an automaton has been laid out: the number of its states, and the room, in bytes, that the ways
out of them take up beyond the states themselves. -/
structure Layout where
  states : Nat
  ways : Nat

/-- A step that lays something out, unless the room does not suffice. -/
abbrev Laying := StateT Layout Option

/-- What has been laid out for a part of an expression. -/
structure Fragment where
  endsInFork : Bool

/-- Which way an automaton reads a text. -/
inductive Direction where
  | forward
  | backward
  deriving DecidableEq

namespace Layout

/-- The room that an automaton may take up, in bytes. -/
def largest : Nat := 10 * 0x100000

/-- The room of a state, without the ways out of it. -/
def stateSize : Nat := 32

/-- The room of a way that a fork leads to. -/
def waySize : Nat := 4

/-- The room of a range of bytes and where it leads to. -/
def rangeSize : Nat := 8

def size (layout : Layout) : Nat := stateSize * layout.states + layout.ways

def checked? (layout : Layout) : Option Layout := if layout.size ≤ largest then some layout else none

end Layout

/-- Lay out a state with ways of the given room. States are numbered in order. -/
def addState (room : Nat) : Laying Nat := fun layout =>
  (Layout.checked? ⟨layout.states + 1, layout.ways + room⟩).map (layout.states, ·)

/-- Lay out several states that lead on by one range of bytes, or without reading. -/
def addPlainStates (count : Nat) : Laying Unit := fun layout =>
  (Layout.checked? ⟨layout.states + count, layout.ways⟩).map ((), ·)

def addWays (count : Nat) : Laying Unit := fun layout =>
  (Layout.checked? ⟨layout.states, layout.ways + Layout.waySize * count⟩).map ((), ·)

def Fragment.link (fragment : Fragment) : Laying Unit :=
  if fragment.endsInFork then addWays 1 else pure ()

def layPlain (count : Nat) : Laying Fragment := do
  addPlainStates count
  return ⟨false⟩

/-! ## Texts -/

/-- A word of bytes that one of several branches reads. -/
abbrev Word := List Nat

/-- The runs of words between empty words. -/
def runs : List Word → List (List Word)
  | [] => [[]]
  | [] :: rest => [] :: runs rest
  | word :: rest =>
    match runs rest with
    | [] => [[word]]
    | run :: others => (word :: run) :: others

/-- The words of a list that go on with each of the bytes that one of them starts with, that byte taken
off. -/
def followers (words : List Word) : List (List Word) :=
  let firsts := (words.filterMap List.head?).eraseDups
  firsts.map fun first => words.filterMap fun
    | [] => none
    | byte :: rest => if byte = first then some rest else none

/-- Lay out the tree of several words, not all of them empty: words share states as long as they agree. An
empty word ends here, and takes precedence over the words behind it, so that the words in front of it
and behind it share no state. `length` is the length of the longest word. -/
def layWords : (length : Nat) → List Word → Laying Unit
  | 0, _ => pure ()
  | length + 1, words => do
    -- of empty words in front of all others the first one counts
    let start := words.takeWhile List.isEmpty
    let runs := runs (start.take 1 ++ words.drop start.length)
    let branches := (runs.map followers).filter fun branches => !branches.isEmpty
    for followers in branches do
      for words in followers do
        unless words.all List.isEmpty do layWords length words
      addWaysOut followers.length
    discard <| addState (Layout.waySize * (branches.length + (runs.length - 1)))
where
  /-- Lay out a state that leads on by some single bytes. -/
  addWaysOut (count : Nat) : Laying Unit :=
    discard <| addState (if count = 1 then 0 else Layout.rangeSize * count)

end Conformance.Pattern
