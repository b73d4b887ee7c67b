import Conformance.Pattern.Property

/-!
# Regular expressions

A regular expression describes which stretches of a text it covers. The flags of a pattern have done their
work by the time there is an expression: sets know about case, assertions about lines.

`Expression.ends` is the meaning of an expression: from the places at which it may start it computes the
places at which it may end. A set of places is a list of truth values, one for every gap between two
characters of the text. `Expression.occursIn` asks whether some stretch of a text is covered.
-/

set_option autoImplicit false

namespace Conformance.Pattern

open Unicode

/-- A condition on the place between two characters. -/
inductive Assertion where
  | textStart
  | textEnd
  | lineStart
  | lineEnd
  /-- The start of a line where a carriage return ends a line as well. -/
  | returnLineStart
  | returnLineEnd
  | wordBoundary (unicode : Bool)
  | noWordBoundary (unicode : Bool)
  | wordStart (unicode : Bool)
  | wordEnd (unicode : Bool)
  | wordStartHalf (unicode : Bool)
  | wordEndHalf (unicode : Bool)
  deriving DecidableEq, Inhabited

inductive Expression where
  | empty
  /-- A character of a set, which was described by classes nested to some depth. -/
  | char (set : CodePointSet) (nesting : Nat)
  | assertion (condition : Assertion)
  | sequence (parts : List Expression)
  | choice (branches : List Expression)
  /-- A repetition, which may prefer few turns to many. -/
  | repetition (least : Nat) (most : Option Nat) (fewFirst : Bool) (body : Expression)
  /-- A group, which may have a number. -/
  | group (numbered : Bool) (body : Expression)
  deriving Inhabited

namespace Assertion

/-- Whether a character, if there is one, belongs to a word. -/
def inWord (unicode : Bool) (c : Option Char) : Bool :=
  c.any (if unicode then wordCharacters else asciiWordCharacters).contains

/-- Whether the condition holds between two characters, the first or second of which is missing at the
start or end of the text. -/
def holds (before after : Option Char) : Assertion → Bool
  | .textStart => before.isNone
  | .textEnd => after.isNone
  | .lineStart => before.isNone || before = some '\n'
  | .lineEnd => after.isNone || after = some '\n'
  | .returnLineStart =>
    before.isNone || before = some '\n' || (before = some '\r' && after != some '\n')
  | .returnLineEnd =>
    after.isNone || after = some '\r' || (after = some '\n' && before != some '\r')
  | .wordBoundary u => inWord u before != inWord u after
  | .noWordBoundary u => inWord u before == inWord u after
  | .wordStart u => !inWord u before && inWord u after
  | .wordEnd u => inWord u before && !inWord u after
  | .wordStartHalf u => !inWord u before
  | .wordEndHalf u => !inWord u after

/-- The places of a text, of which `before` is the character in front, at which the condition holds. -/
def places (condition : Assertion) : (before : Option Char) → List Char → List Bool
  | before, [] => [condition.holds before none]
  | before, c :: rest => condition.holds before (some c) :: condition.places (some c) rest

end Assertion

/-! ## Sets of places -/

def eitherPlace (a b : List Bool) : List Bool := a.zipWith (· || ·) b

def newPlaces (a b : List Bool) : List Bool := a.zipWith (fun x y => x && !y) b

/-- Apply a function `n` times, or until it changes nothing more. -/
def iterate (f : List Bool → List Bool) : (n : Nat) → List Bool → List Bool
  | 0, places => places
  | n + 1, places => if f places = places then places else iterate f n (f places)

/-- The places reached from `fresh` in at most `n` steps, added to those reached already. -/
def reach (f : List Bool → List Bool) : (n : Nat) → (reached fresh : List Bool) → List Bool
  | 0, reached, _ => reached
  | n + 1, reached, fresh =>
    let next := newPlaces (f fresh) reached
    if next.any id then reach f n (eitherPlace reached next) next else reached

namespace Expression

mutual

/-- The places of a text at which an expression may end, if it starts at one of the given places. -/
def ends (text : List Char) : Expression → List Bool → List Bool
  | .empty, places => places
  | .char set _, places => false :: places.zipWith (fun here c => here && set.contains c) text
  | .assertion condition, places => places.zipWith (· && ·) (condition.places none text)
  | .sequence parts, places => endsInTurn text parts places
  | .choice branches, places => endsOfSome text branches places
  | .repetition least most _ body, places =>
    -- the turns that have to be made, and then as many more as may be made
    let start := iterate (ends text body) least places
    let more := match most with
      -- there are no more places than that to be reached
      | none => text.length + 1
      | some most => most - least
    reach (ends text body) more start start
  | .group _ body, places => ends text body places

/-- The ends of expressions that follow one another. -/
def endsInTurn (text : List Char) : List Expression → List Bool → List Bool
  | [], places => places
  | e :: rest, places => endsInTurn text rest (ends text e places)

def endsOfSome (text : List Char) : List Expression → List Bool → List Bool
  | [], places => places.map fun _ => false
  | e :: rest, places => eitherPlace (ends text e places) (endsOfSome text rest places)

end

/-- Whether an expression covers some stretch of a text. -/
def occursIn (e : Expression) (text : String) : Bool :=
  (e.ends text.toList (true :: text.toList.map fun _ => true)).any id

/-! ## Nesting -/

mutual

def depth : Expression → Nat
  | .empty | .assertion _ => 0
  | .char _ nesting => nesting
  | .sequence parts => greatestDepth parts + 1
  | .choice branches => greatestDepth branches + 1
  | .repetition _ _ _ body => body.depth + 1
  | .group _ body => body.depth + 1

def greatestDepth : List Expression → Nat
  | [] => 0
  | e :: rest => max e.depth (greatestDepth rest)

end

end Expression

end Conformance.Pattern
