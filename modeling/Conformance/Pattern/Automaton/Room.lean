import Conformance.Pattern.Automaton.Sets
import Conformance.Pattern.Normal

/-!
# The room of patterns

To find a pattern in a text takes two automata, one that reads forward and one that reads backward. The
forward one marks the captures. In either, repetitions are written out: each turn has states of its own.
`Normal.fits` asks whether both automata can be laid out in the room there is.
-/

set_option autoImplicit false

namespace Conformance.Pattern

/-! ## Repetitions -/

/-- Lay out `count` more turns behind a fragment. -/
def layTurns (turn : Laying Fragment) : (count : Nat) → Fragment → Laying Fragment
  | 0, before => return before
  | count + 1, before => do
    let next ← turn
    before.link
    layTurns turn count next

def layExactly (turn : Laying Fragment) : (count : Nat) → Laying Fragment
  | 0 => layPlain 1
  | count + 1 => do layTurns turn count (← turn)

/-- Lay out `count` turns behind a fragment, each of which may be the first one left out. -/
def layOptionalTurns (turn : Laying Fragment) : (count : Nat) → Fragment → Laying Unit
  | 0, before => before.link
  | count + 1, before => do
    discard <| addState 0
    let next ← turn
    before.link
    addWays 2
    layOptionalTurns turn count next

/-- Lay out any number of turns. A turn that may be empty is left through a fork of its own. -/
def layAnyTurns (turn : Laying Fragment) (mayBeEmpty : Bool) : Laying Fragment := do
  if mayBeEmpty then
    (← turn).link
    discard <| addState 0
    discard <| addState 0
    discard <| addState 0
    addWays 4
    return ⟨false⟩
  else
    discard <| addState 0
    (← turn).link
    addWays 1
    return ⟨true⟩

def layOptional (turn : Laying Fragment) : Laying Fragment := do
  discard <| addState 0
  let body ← turn
  discard <| addState 0
  addWays 2
  body.link
  return ⟨false⟩

def layRepetition (least : Nat) (most : Option Nat) (mayBeEmpty : Bool) (turn : Laying Fragment) :
    Laying Fragment := do
  match least, most with
  | 0, none => layAnyTurns turn mayBeEmpty
  | least, none =>
    let last ← layExactly turn least
    discard <| addState 0
    last.link
    addWays 1
    return ⟨true⟩
  | least, some most =>
    if least = 0 && most = 1 then layOptional turn
    else
      let before ← layExactly turn least
      if least = most then return before
      discard <| addState 0
      layOptionalTurns turn (most - least) before
      return ⟨false⟩

/-! ## Expressions -/

def bytesOf (text : List Char) : Word := text.flatMap fun c => Unicode.encoding c.toNat

/-- The bytes of texts, if each of several expressions is one. -/
def words? (branches : List Normal) : Option (List Word) :=
  branches.mapM fun
    | .literal text => some (bytesOf text)
    | _ => none

def layWordChoice (direction : Direction) (words : List Word) : Laying Fragment := do
  discard <| addState 0
  let words := if direction = .forward then words else words.map List.reverse
  layWords ((words.map List.length).foldl max 0) words
  return ⟨false⟩

mutual

def layExpression (direction : Direction) : Normal → Laying Fragment
  | .empty | .assertion _ => layPlain 1
  | .literal text => layPlain (bytesOf text).length
  | .set a => laySet direction a
  | .repetition least most _ body =>
    layRepetition least most (body.minLength.getD 0 == 0) (layExpression direction body)
  | .capture body =>
    match direction with
    | .forward => do
      discard <| addState 0
      let inner ← layExpression direction body
      discard <| addState 0
      inner.link
      return ⟨false⟩
    | .backward => layExpression direction body
  | .sequence parts => layInTurn direction parts
  | .choice branches =>
    match words? branches with
    | some words => layWordChoice direction words
    | none => do
      layBranches direction 0 branches
      return ⟨false⟩

/-- Lay out expressions that follow one another, in the order in which they are read. -/
def layInTurn (direction : Direction) : List Normal → Laying Fragment
  | [] => layPlain 1
  | [e] => layExpression direction e
  | e :: rest =>
    match direction with
    | .forward => do
      (← layExpression direction e).link
      layInTurn direction rest
    | .backward => do
      (← layInTurn direction rest).link
      layExpression direction e

/-- Lay out branches, `before` of which have been laid out already. The fork to them and the state where
they meet stand behind the first two. -/
def layBranches (direction : Direction) (before : Nat) : List Normal → Laying Unit
  | [] => return ()
  | e :: rest => do
    (← layExpression direction e).link
    if before = 1 then
      discard <| addState 0
      discard <| addState 0
    addWays 1
    layBranches direction (before + 1) rest

end

/-! ## Patterns -/

/-- Lay out a whole pattern: what it skips in front, unless it has to start where the text does, the pattern
itself, and the state that tells of a match. -/
def layPattern (direction : Direction) (e : Normal) : Laying Unit := do
  let anchored := match direction with
    | .forward => e.startsWith .textStart
    | .backward => e.endsWith .textEnd
  if anchored then addPlainStates 1
  else
    discard <| addState 0
    discard <| addState 0
    discard <| addState Layout.rangeSize
    addWays 2
  (← layExpression direction (.capture e)).link
  addPlainStates 1

/-- Whether the automata of an expression fit into the room there is. -/
def Normal.fits (e : Normal) : Bool :=
  ((layPattern .forward e).run ⟨0, 0⟩).isSome && ((layPattern .backward e).run ⟨0, 0⟩).isSome

end Conformance.Pattern
