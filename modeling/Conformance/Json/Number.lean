import Conformance.Json.Basic
import Conformance.Json.Cursor
import Conformance.Binary64.Decimal

/-!
# Numbers in a JSON text

The digits of a number are gathered into a word of sixty-four bits as long as they fit. Digits before the
point that do not fit count towards the exponent, digits behind it are dropped.
-/

set_option autoImplicit false

namespace Conformance.Json

def greatestWord : Nat := 0xFFFFFFFFFFFFFFFF

/-- The greatest exponent that is gathered. -/
def greatestExponent : Nat := 0x7FFFFFFF

def digitValue (c : Char) : Nat := c.toNat - '0'.toNat

/-- Append digits to a number as long as it stays within `limit`; the digits from the first one that does
not fit are left over. -/
def gather (limit : Nat) : (n : Nat) → List Char → Nat × List Char
  | n, [] => (n, [])
  | n, d :: rest =>
    if n * 10 + digitValue d ≤ limit then gather limit (n * 10 + digitValue d) rest else (n, d :: rest)

/-- The binary64 number with the given sign, digits and exponent; the error is put at the cursor. -/
def scaledNumber (negative : Bool) (digits : Nat) (exponent : Int) : Scan Json := fun c =>
  match Binary64.ofDecimal? negative digits exponent with
  | some x => .ok (.float x, c)
  | none => c.fail .numberOutOfRange

def readExponent (negative : Bool) (digits : Nat) (start : Int) : Scan Json := fun c =>
  let down := c.rest.head? = some '-'
  let c := if down || c.rest.head? = some '+' then c.next else c
  match c.rest with
  | [] => c.fail .endOfValue
  | d :: _ =>
    if !d.isDigit then c.failNext .invalidNumber
    else
      let (ds, after) := c.span Char.isDigit
      let (value, beyond) := gather greatestExponent 0 ds
      if beyond.isEmpty then
        scaledNumber negative digits (if down then start - value else start + value) after
      -- an exponent that is not gathered in full takes the number below or beyond all others
      else if digits = 0 || down then .ok (.float (.zero negative), after)
      else
        -- the digit that did not fit has been consumed
        let gathered := ds.length - beyond.length + 1
        .error ⟨.numberOutOfRange, c.position.afterBytes gathered ds⟩

/-- Read what may follow the digits of a number: an exponent, or nothing. -/
def readScale (negative : Bool) (digits : Nat) (exponent : Int) : Scan Json := fun c =>
  match c.rest with
  | 'e' :: _ | 'E' :: _ => readExponent negative digits exponent c.next
  | _ => scaledNumber negative digits exponent c

/-- Read the digits behind the point, the cursor being behind it. -/
def readFraction (negative : Bool) (digits : Nat) (exponent : Int) : Scan Json := fun c =>
  let (ds, after) := c.span Char.isDigit
  if ds.isEmpty then
    if c.rest.isEmpty then c.fail .endOfValue else c.failNext .invalidNumber
  else
    let (digits, dropped) := gather greatestWord digits ds
    readScale negative digits (exponent - (ds.length - dropped.length : Nat)) after

/-- The number that an integer literal stands for: exact as far as words reach, except for minus zero. -/
def integerLiteral (negative : Bool) (n : Nat) : Json :=
  if !negative then .integer n
  else if n = 0 || 0x8000000000000000 < n then .float (.neg (.ofInt n))
  else .integer (-n)

def readUnsigned (negative : Bool) : Scan Json := fun c =>
  match c.rest with
  | [] => c.fail .endOfValue
  | first :: _ =>
    if !first.isDigit then c.failNext .invalidNumber
    else
      let (ds, after) := if first = '0' then (['0'], c.next) else c.span Char.isDigit
      -- a zero in front stands alone
      if first = '0' && (after.rest.head?.any Char.isDigit) then after.failNext .invalidNumber
      else
        let (digits, dropped) := gather greatestWord 0 ds
        match after.rest with
        | '.' :: _ => readFraction negative digits dropped.length after.next
        | 'e' :: _ | 'E' :: _ => readExponent negative digits dropped.length after.next
        | _ =>
          if dropped.isEmpty then .ok (integerLiteral negative digits, after)
          else scaledNumber negative digits dropped.length after

def readNumber : Scan Json := fun c =>
  match c.rest with
  | '-' :: _ => readUnsigned true c.next
  | _ => readUnsigned false c

end Conformance.Json
