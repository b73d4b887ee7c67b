import Conformance.Binary64.Basic

/-!
# Decimal text of binary64 numbers

`shortest` gives the fewest decimal digits that single a number out, and of the decimals with that many
digits the one nearest to it. A `Layout` says how these digits are set out. `ofDecimal?` goes the other
way: it scales a significand by powers of ten in binary64 arithmetic.
-/

set_option autoImplicit false

namespace Conformance.Binary64

/-! ## Shortest digits -/

/-- A decimal number `digits * 10 ^ exponent`. -/
structure Decimal where
  digits : Nat
  exponent : Int
  deriving DecidableEq, Inhabited

/-- The reals that round to a magnitude word, as quotients over one denominator: the interval from `low`
to `high` around `value`, with its ends if `closed`. -/
structure Neighbourhood where
  low : Nat
  value : Nat
  high : Nat
  denominator : Nat
  closed : Bool

/-- The neighbourhood of a finite magnitude word above zero. Below a power of two the words lie twice as
close, except at the lower end of the range. -/
def neighbourhood (word : Nat) : Neighbourhood :=
  let m := significand word
  let e := exponent word - 2
  let below := if m = normalWord ∧ normalWord < word then 1 else 2
  let scale := Nat.pow 2 e.toNat
  ⟨(4 * m - below) * scale, 4 * m * scale, (4 * m + 2) * scale, Nat.pow 2 (-e).toNat, m % 2 == 0⟩

/-- Whether the point `n * 10 ^ p` lies in the neighbourhood. -/
def Neighbourhood.holds (b : Neighbourhood) (n : Nat) (p : Int) : Bool :=
  let point := n * Nat.pow 10 p.toNat * b.denominator
  let unit := Nat.pow 10 (-p).toNat
  if b.closed then b.low * unit ≤ point && point ≤ b.high * unit
  else b.low * unit < point && point < b.high * unit

/-- The last point of the grid of multiples of `10 ^ p` that is not above the value, and how twice its
distance from the value compares with the width of the grid. -/
def Neighbourhood.floor (b : Neighbourhood) (p : Int) : Nat × Ordering :=
  let num := b.value * Nat.pow 10 (-p).toNat
  let den := b.denominator * Nat.pow 10 p.toNat
  (num / den, Ord.compare (2 * (num % den)) den)

/-- The greatest `x` with `10 ^ x` not above the value, looked for from `estimate` downwards. -/
def Neighbourhood.magnitude (b : Neighbourhood) (estimate : Int) : Int :=
  if 1 ≤ (b.floor (estimate + 1)).1 then estimate + 1
  else if 1 ≤ (b.floor estimate).1 then estimate
  else estimate - 1

def Decimal.trimmed (fuel : Nat) (d : Decimal) : Decimal :=
  match fuel with
  | 0 => d
  | fuel + 1 => if d.digits % 10 = 0 then Decimal.trimmed fuel ⟨d.digits / 10, d.exponent + 1⟩ else d

/-- Which one of two neighbours on a grid is taken if they are equally near. -/
inductive Tie where
  | upper
  | even
  deriving DecidableEq, Inhabited

/-- Whether `n + 1` is taken rather than `n`, given how twice the distance of `n` compares with the width of
the grid. -/
def Tie.takesNext (tie : Tie) (n : Nat) : Ordering → Bool
  | .lt => false
  | .eq => tie = .upper || n % 2 = 1
  | .gt => true

/-- The first grid, from the coarse to the fine, on which one of the two points beside the value lies in
its neighbourhood. If both do, the nearer one is taken. -/
def Neighbourhood.search (tie : Tie) (b : Neighbourhood) : (grids : Nat) → (p : Int) → Decimal
  | 0, p => ⟨(b.floor p).1, p⟩
  | grids + 1, p =>
    let (n, distance) := b.floor p
    let lower := b.holds n p
    let upper := b.holds (n + 1) p
    if lower && !(upper && tie.takesNext n distance) then ⟨n, p⟩
    else if upper then ⟨n + 1, p⟩
    else b.search tie grids (p - 1)

/-- The shortest decimal that rounds to a finite magnitude word above zero. -/
def shortest (tie : Tie) (word : Nat) : Decimal :=
  let b := neighbourhood word
  let bits : Int := (b.value.log2 : Int) - b.denominator.log2
  -- the decimal logarithm of two is about `30103 / 100000`
  let x := b.magnitude (bits * 30103 / 100000)
  (b.search tie 18 x).trimmed 18

/-! ## Layout -/

/-- How a number is set out: which of two shortest decimals is taken if they are equally near, whether whole
numbers end in a point and a zero, and for which decimal exponents of the first digit an exponent is
written. -/
structure Layout where
  tie : Tie
  wholePoint : Bool
  scientific : Int → Bool

/-- Numbers in running text: all digits, and a point only before a fraction. -/
def Layout.plain : Layout := ⟨.upper, false, fun _ => false⟩

/-- Numbers in the structural form: always a point or an exponent, the exponent from `10 ^ 16` upwards
and below `10 ^ (-4)`. -/
def Layout.structural : Layout := ⟨.upper, true, fun x => 16 ≤ x || x < -4⟩

/-- Numbers in JSON text: as in the structural form, but positional down to `10 ^ (-5)`, and with an even
last digit in a tie. -/
def Layout.json : Layout := ⟨.even, true, fun x => 16 ≤ x || x < -5⟩

/-- The digits `ds` set out so that the last one counts `10 ^ exponent`. -/
def Layout.write (layout : Layout) (d : Decimal) : String :=
  let ds := Nat.toDigits 10 d.digits
  let point : Int := ds.length + d.exponent
  let zeros (n : Int) : List Char := List.replicate n.toNat '0'
  if layout.scientific (point - 1) then
    -- one digit, the others behind a point, and the exponent
    let fraction := if ds.length = 1 then [] else '.' :: ds.drop 1
    String.ofList (ds.take 1 ++ fraction) ++ "e" ++ toString (point - 1)
  else if 0 ≤ d.exponent then
    String.ofList (ds ++ zeros d.exponent) ++ (if layout.wholePoint then ".0" else "")
  else if 0 < point then
    String.ofList (ds.take point.toNat ++ '.' :: ds.drop point.toNat)
  else
    String.ofList ('0' :: '.' :: zeros (-point) ++ ds)

def write (layout : Layout) : Binary64 → String
  | .nan => "NaN"
  | .signed negative magnitude =>
    let sign := if negative then "-" else ""
    if magnitude.val = 0 then sign ++ (if layout.wholePoint then "0.0" else "0")
    else if magnitude.val = infinityWord then sign ++ "inf"
    else sign ++ layout.write (shortest layout.tie magnitude.val)

/-! ## Reading -/

/-- The magnitude word nearest to the product of two finite magnitudes. -/
def timesWord (a b : Nat) : Nat :=
  let (an, ad) := quotient a
  let (bn, bd) := quotient b
  min (wordOfQuotient (an * bn) (ad * bd)) infinityWord

/-- The magnitude word nearest to the quotient of two finite magnitudes, the second one above zero. -/
def overWord (a b : Nat) : Nat :=
  let (an, ad) := quotient a
  let (bn, bd) := quotient b
  min (wordOfQuotient (an * bd) (ad * bn)) infinityWord

/-- The magnitude word nearest to `10 ^ n`. -/
def tenWord (n : Nat) : Nat := wordOfNat (Nat.pow 10 n)

/-- The greatest power of ten that is a finite number. -/
def greatestTen : Nat := 308

/-- Divide by the greatest power of ten up to `n` times, until nothing is left. -/
def shrinkWord : (n : Nat) → (word : Nat) → Nat
  | 0, word => word
  | n + 1, word => if word = 0 then 0 else shrinkWord n (overWord word (tenWord greatestTen))

/-- The magnitude that a significand and a power of ten are read as, and `none` if it is beyond all finite
numbers. The significand is rounded first; one multiplication or division by a power of ten follows, with
a division by the greatest power of ten beforehand as often as the exponent needs it. -/
def wordOfDecimal? (digits : Nat) (exponent : Int) : Option Nat :=
  let word := wordOfNat digits
  if 0 ≤ exponent then
    if exponent ≤ greatestTen then
      let scaled := timesWord word (tenWord exponent.toNat)
      if scaled = infinityWord then none else some scaled
    else if word = 0 then some 0
    else none
  else
    let steps := ((-exponent).toNat - 1) / greatestTen
    let rest := (-exponent).toNat - steps * greatestTen
    let word := shrinkWord steps word
    some (if word = 0 then 0 else overWord word (tenWord rest))

def ofDecimal? (negative : Bool) (digits : Nat) (exponent : Int) : Option Binary64 :=
  (wordOfDecimal? digits exponent).map fun word => .signed negative (clampWord word)

end Conformance.Binary64
