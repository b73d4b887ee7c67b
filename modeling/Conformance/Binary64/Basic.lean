/-!
# Binary64 numbers

A binary64 number is a sign with a magnitude word, or it is not a number. The magnitude words are the
numbers from `0`, the magnitude of both zeros, to `infinityWord`; they are in the order of the magnitudes
they stand for, so that comparing two numbers is comparing two integers, their ranks.
-/

set_option autoImplicit false

namespace Conformance

def infinityWord : Nat := 0x7FF0000000000000

/-- The magnitude word of the least normal number, `2 ^ 52`: there are as many words for each exponent. -/
def normalWord : Nat := 0x10000000000000

/-- A binary64 number. The magnitude is at most `infinityWord`; rounding never goes beyond it. -/
inductive Binary64 where
  | nan
  | signed (negative : Bool) (magnitude : Fin (infinityWord + 1))
  deriving DecidableEq, Inhabited

namespace Binary64

/-- A magnitude word, where words beyond the infinity become the infinity. -/
def clampWord (word : Nat) : Fin (infinityWord + 1) :=
  ⟨min word infinityWord, by omega⟩

def zero (negative : Bool) : Binary64 := .signed negative (clampWord 0)

def infinity (negative : Bool) : Binary64 := .signed negative (clampWord infinityWord)

def neg : Binary64 → Binary64
  | .nan => .nan
  | .signed negative magnitude => .signed (!negative) magnitude

/-! ## Order -/

/-- The place of a number on the line: its magnitude word with its sign. Both zeros have rank `0`. -/
def rank : Binary64 → Option Int
  | .nan => none
  | .signed negative magnitude => some (if negative then -(magnitude.val : Int) else magnitude.val)

/-- Which of two numbers comes first; a value that is not a number compares with nothing. -/
def compare (a b : Binary64) : Option Ordering :=
  match a.rank, b.rank with
  | some x, some y => some (Ord.compare x y)
  | _, _ => none

def isZero (x : Binary64) : Bool := x.rank == some 0

def isFinite : Binary64 → Bool
  | .nan => false
  | .signed _ magnitude => magnitude.val < infinityWord

/-! ## Magnitude words and their values -/

/-- The significand of a finite magnitude word: its value is `significand * 2 ^ exponent`. -/
def significand (word : Nat) : Nat :=
  if word < normalWord then word else normalWord + word % normalWord

def exponent (word : Nat) : Int :=
  if word < normalWord then -1074 else (word / normalWord : Nat) - 1075

/-- The value of a finite magnitude word as a quotient of two natural numbers. -/
def quotient (word : Nat) : Nat × Nat :=
  (significand word * Nat.pow 2 (exponent word).toNat, Nat.pow 2 (-exponent word).toNat)

/-- A quotient rounded to the nearest natural number, and to the even one of two that are equally near. -/
def divideToEven (num den : Nat) : Nat :=
  let q := num / den
  let r := num % den
  if den < 2 * r ∨ (den = 2 * r ∧ q % 2 = 1) then q + 1 else q

/-- The magnitude word nearest to a natural number. -/
def wordOfNat (n : Nat) : Nat :=
  if n = 0 then 0
  else
    let e := n.log2
    let mantissa := if e ≤ 52 then n * Nat.pow 2 (52 - e) else divideToEven n (Nat.pow 2 (e - 52))
    -- the first bit of the mantissa counts one exponent more, and so does the carry of rounding up
    (e + 1022) * normalWord + mantissa

/-- The magnitude word nearest to a quotient, ties going to the even word. A quotient below half of the
least magnitude becomes zero. -/
def wordOfQuotient (num den : Nat) : Nat :=
  if num = 0 then 0
  else
    let scaled (e : Int) : Nat × Nat := (num * Nat.pow 2 (-e).toNat, den * Nat.pow 2 e.toNat)
    let estimate : Int := max (-1074) ((num.log2 : Int) - den.log2 - 53)
    let first := scaled estimate
    -- the logarithms leave it open by one how long the quotient is
    let e := if first.1 / first.2 < 2 * normalWord then estimate else estimate + 1
    let (top, bottom) := scaled e
    (e + 1074).toNat * normalWord + divideToEven top bottom

/-- The nearest binary64 number to an integer. -/
def ofInt (i : Int) : Binary64 := .signed (i < 0) (clampWord (wordOfNat i.natAbs))

/-- The integer that a finite number without a fractional part is. -/
def toInt? : Binary64 → Option Int
  | .nan => none
  | .signed negative magnitude =>
    if magnitude.val < infinityWord then
      let (num, den) := quotient magnitude.val
      if num % den = 0 then some (if negative then -(num / den : Nat) else (num / den : Nat)) else none
    else none

end Binary64

end Conformance
