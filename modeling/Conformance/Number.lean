import Conformance.Binary64.Decimal

/-!
# Numbers

A number is an integer or a binary64 number. Two integers are compared exactly; as soon as one side is
binary64, both are compared as binary64 numbers.
-/

set_option autoImplicit false

namespace Conformance

/-- A number of a tree. Integers that come from text fit sixty-four bits with a sign. -/
inductive Number where
  | int (i : Int)
  | float (x : Binary64)
  deriving DecidableEq, Inhabited

namespace Number

/-- The number as a binary64 number, integers rounded to the nearest one. -/
def toBinary64 : Number → Binary64
  | .int i => .ofInt i
  | .float x => x

/-- Which of two numbers comes first, and `none` if one of them is not a number. -/
def compare : Number → Number → Option Ordering
  | .int a, .int b => some (Ord.compare a b)
  | a, b => a.toBinary64.compare b.toBinary64

def equals (a b : Number) : Bool := a.compare b == some .eq

def display : Number → String
  | .int i => toString i
  | .float x => x.write .plain

end Number

end Conformance
