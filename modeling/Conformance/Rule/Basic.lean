import Conformance.Mismatch
import Conformance.Pattern.Reader
import Conformance.Tree.Equality

/-!
# Rules

A rule takes the place of a literal in an expected tree and decides for itself which values satisfy it.
Rules hold trees, and these hold rules again, so an expected tree is a `Tree Rule`.

Besides the rules with a directive of their own there are custom rules. A custom rule is given as a
`Program`: it sees the value and whether mismatches are collected, and then reports failures, runs nested
comparisons and goes on with their outcomes, until it is done.
-/

set_option autoImplicit false

namespace Conformance

/-- Bounds on a length. Every bound that is given has to hold. -/
structure LengthBounds where
  eq : Option Nat := none
  lt : Option Nat := none
  lte : Option Nat := none
  gt : Option Nat := none
  gte : Option Nat := none
  deriving DecidableEq, Inhabited

namespace LengthBounds

def exactly (n : Nat) : LengthBounds := { eq := some n }

/-- Whether some bound other than the exact one is given. -/
def hasRelational (b : LengthBounds) : Bool :=
  b.lt.isSome || b.lte.isSome || b.gt.isSome || b.gte.isSome

end LengthBounds

/-- The side of a reference on which a number has to be. -/
inductive Direction where
  | below
  | above
  deriving DecidableEq, Inhabited

structure NumericBound where
  reference : Number
  direction : Direction
  inclusive : Bool
  deriving DecidableEq, Inhabited

namespace NumericBound

def token (b : NumericBound) : String :=
  match b.direction, b.inclusive with
  | .below, false => "$lt"
  | .below, true => "$lte"
  | .above, false => "$gt"
  | .above, true => "$gte"

def operator (b : NumericBound) : String :=
  match b.direction, b.inclusive with
  | .below, false => "<"
  | .below, true => "<="
  | .above, false => ">"
  | .above, true => ">="

/-- Whether a number is within the bound. What is not a number never is. -/
def admits (b : NumericBound) (n : Number) : Bool :=
  match n.compare b.reference, b.direction with
  | some .lt, .below | some .gt, .above => true
  | some .eq, _ => b.inclusive
  | _, _ => false

end NumericBound

mutual

inductive Rule where
  /-- A document with the keys of the expected one and no others, or whatever satisfies another tree. -/
  | equal (expected : Tree Rule)
  /-- A value that is not equal to the expected one. -/
  | notEqual (expected : Tree Rule)
  /-- A value that is `null`, or that is not. Without `explicit` the rule asks for the opposite. -/
  | nil (target explicit : Bool)
  /-- A value other than the zero of its type. -/
  | required
  /-- Any value. -/
  | any
  /-- A value that is empty, or one that is not. -/
  | empty (want : Bool)
  /-- A string in which a pattern occurs. -/
  | pattern (p : Pattern)
  /-- An array whose elements satisfy the expected ones in some order. -/
  | elementsMatch (expected : List (Tree Rule))
  /-- An array or a document with a length within bounds. -/
  | length (bounds : LengthBounds)
  /-- A value that satisfies some candidate. -/
  | inSet (candidates : List (Tree Rule))
  /-- A number within a bound. -/
  | numeric (bound : NumericBound)
  /-- A value that satisfies every operand. -/
  | and (operands : List (Tree Rule))
  /-- A value that satisfies some operand. -/
  | or (operands : List (Tree Rule))
  /-- A value that satisfies no operand. -/
  | nor (operands : List (Tree Rule))
  /-- A value that does not satisfy the operand. -/
  | not (operand : Tree Rule)
  /-- A rule of one's own, with the name to show for it. -/
  | custom (name : String) (run : (collects : Bool) → Value → Program)

/-- What a custom rule does with a value. Paths are relative to the place of the rule. -/
inductive Program where
  /-- The rule is done. -/
  | done (outcome : Outcome)
  /-- Report a failure, and go on with what comes of it: nothing if mismatches are collected, and the
  failure otherwise. -/
  | report (failure : Failure) (next : Outcome → Program)
  /-- Compare a value with an expected tree at a path, and go on with the outcome. Nothing is reported. -/
  | test (place : Path) (expected : Tree Rule) (actual : Value) (next : Outcome → Program)

end

/-- The expected side of a comparison. -/
abbrev Expected := Tree Rule

end Conformance
