import Conformance.Check.Structure

/-!
# What the rules check

Each rule is a check that runs at the root of its own context. An operand is checked in isolation: what it
finds is lost unless the rule reports it.
-/

set_option autoImplicit false

namespace Conformance

/-- An operand of a rule: an expected tree, and its check. -/
structure Operand where
  tree : Expected
  check : Check

namespace Operand

def text (o : Operand) : String := (view o.tree).display

def result (o : Operand) (actual : Value) : Comparison Outcome := Comparison.isolated (o.check actual)

def accepts (o : Operand) (actual : Value) : Comparison Bool := return (← o.result actual).isOk

end Operand

namespace Check

open Comparison

/-! ## Rules without operands -/

/-- The value is `null`, or is not; or, if the rule is implicit, the other way round. -/
def nil (target explicit : Bool) : Check := fun actual =>
  if explicit then
    match target, actual.isNull with
    | true, false => fail ("expected nil ($nil true), got non-nil (" ++ actual.kind ++ ")")
    | false, true => fail "expected non-nil ($nil false), got nil"
    | _, _ => pure ()
  else if actual.isNull != target then pure ()
  else if target then
    fail "value is nil but expectation not explicitly asserted ($nil true required)"
  else fail "value is non-nil but expectation not explicitly asserted ($nil false required)"

def required : Check := fun actual =>
  if actual.isZero then fail ("required value missing or zero (" ++ actual.kind ++ ")") else pure ()

def empty (want : Bool) : Check := fun actual =>
  match want, actual.isEmpty with
  | true, false =>
    fail ("$empty true failed: value (" ++ actual.kind ++ ")" ++ actual.display ++ " not empty")
  | false, true =>
    fail ("$empty false failed: value (" ++ actual.kind ++ ")" ++ actual.display ++ " is empty")
  | _, _ => pure ()

def pattern (p : Pattern) : Check := fun actual =>
  match actual.string? with
  | none => fail ("$regex expects string, got " ++ actual.kind)
  | some s =>
    if p.matchesIn s then pure ()
    else fail ("string " ++ Text.quoted s ++ " does not match pattern " ++ Text.quoted p.text)

def numeric (bound : NumericBound) : Check := fun actual =>
  match actual.number? with
  | none => fail (bound.token ++ " expects numeric value, got " ++ actual.kind)
  | some n =>
    if bound.admits n then pure ()
    else
      fail (bound.token ++ " failed: got " ++ n.display ++ ", expected " ++ bound.operator ++ " " ++
        bound.reference.display)

/-- One bound on a length: its name, its sign, the bound if it is given, and the test. -/
structure LengthTest where
  name : String
  sign : String
  bound : Option Nat
  holds : Nat → Nat → Bool

/-- The bounds on a length, in the order in which they are tested. -/
def lengthTests (b : LengthBounds) : List LengthTest := [
  ⟨"eq", "==", b.eq, fun length n => length == n⟩,
  ⟨"lt", "<", b.lt, fun length n => length < n⟩,
  ⟨"lte", "<=", b.lte, fun length n => length ≤ n⟩,
  ⟨"gt", ">", b.gt, fun length n => n < length⟩,
  ⟨"gte", ">=", b.gte, fun length n => n ≤ length⟩]

def lengthWithin (length : Nat) : List LengthTest → Comparison Unit
  | [] => pure ()
  | t :: rest => do
    match t.bound with
    | some n =>
      if t.holds length n then pure ()
      else
        reportHere ("$length " ++ t.name ++ " failed: got " ++ toString length ++ ", expected " ++
          t.sign ++ " " ++ toString n)
    | none => pure ()
    lengthWithin length rest

def length (bounds : LengthBounds) : Check := fun actual =>
  match actual.length? with
  | none => fail ("$length expects array or document, got " ++ actual.kind)
  | some n => lengthWithin n (lengthTests bounds)

def notEqual (expected : Expected) : Check := fun actual =>
  match expected.compareScalars actual with
  | .equal => fail ("$ne failed: values are equal (" ++ (view expected).display ++ ")")
  | .differs _ => pure ()
  | .unrecognized =>
    if expected.deepEqual actual then
      fail ("$ne failed: values are deeply equal (" ++ (view expected).display ++ ")")
    else pure ()

/-! ## Rules with operands -/

/-- The keys of a document that are not among the known ones, each once, in the order in which they occur
first. -/
def extraKeys (known : List String) : List (String × Value) → List String
  | [] => []
  | (key, _) :: rest =>
    if known.contains key then extraKeys known rest else key :: extraKeys (key :: known) rest

def strictEntries (actual : List (String × Value)) : List (String × Check) → Comparison Unit
  | [] => pure ()
  | (key, check) :: rest => do
    within (.key key) <|
      match lookup key actual with
      | some value => do
        match ← isolated (check value) with
        | .ok () => pure ()
        | .error failure => reportAll failure
      | none => reportHere "key not found"
    strictEntries actual rest

def reportExtras : List String → Comparison Unit
  | [] => pure ()
  | key :: rest => do
    within (.key key)
      (reportHere ("unexpected extra key " ++ Text.quoted key ++ " (strict $eq)"))
    reportExtras rest

/-- The value is a document with the expected keys and no others. -/
def strictDocument (expected : List (String × Check)) : Check := fun actual =>
  match actual with
  | .document actual => do
    strictEntries actual expected
    reportExtras (extraKeys (expected.map (·.1)) actual)
  | other => fail ("expected document, got " ++ other.kind)

/-- The value satisfies a tree; the result is returned as it is. -/
def same (check : Check) : Check := fun actual => do
  ofOutcome (← isolated (check actual))

/-- The values without the first one that an operand accepts, if it accepts any. -/
def claim (want : Operand) : List Value → Comparison (Option (List Value))
  | [] => return none
  | value :: rest => do
    if ← want.accepts value then return some rest
    else return (← claim want rest).map (value :: ·)

/-- Let each operand in turn claim the first value that it accepts and that is not claimed yet. -/
def claimAll : List Operand → List Value → Comparison Unit
  | [], _ => pure ()
  | want :: rest, values => do
    match ← claim want values with
    | some left => claimAll rest left
    | none => fail ("$elementsMatch could not find match for expected element " ++ want.text)

def elementsMatch (expected : List Operand) : Check := fun actual =>
  match actual with
  | .array values =>
    if values.length = expected.length then claimAll expected values
    else
      fail ("$elementsMatch length mismatch: expected " ++ toString expected.length ++
        " elements, got " ++ toString values.length)
  | other => fail ("$elementsMatch expects array, got " ++ other.kind)

/-- Whether some operand accepts the value; the first one that does ends the search. -/
def someAccepts (actual : Value) : List Operand → Comparison Bool
  | [] => return false
  | o :: rest => do
    if ← o.accepts actual then return true else someAccepts actual rest

def inSet (candidates : List Operand) : Check := fun actual => do
  if ← someAccepts actual candidates then pure ()
  else
    fail ("$in failed: value " ++ actual.display ++ " not in [" ++
      ", ".intercalate (candidates.map Operand.text) ++ "]")

def and : List Operand → Check
  | [], _ => pure ()
  | o :: rest, actual => do
    match ← o.result actual with
    | .ok () => pure ()
    | .error failure => reportAll failure
    and rest actual

/-- The failures of the operands, or `none` if one of them accepts the value, which ends the search. -/
def failuresOfAll (actual : Value) : List Operand → Comparison (Option (List Failure))
  | [] => return some []
  | o :: rest => do
    match ← o.result actual with
    | .ok () => return none
    | .error failure => return (← failuresOfAll actual rest).map (failure :: ·)

def reportFailures : List Failure → Comparison Unit
  | [] => pure ()
  | failure :: rest => do
    reportAll failure
    reportFailures rest

/-- The value satisfies some operand. If none does, all failures are reported where mismatches are
collected, and the first one is quoted elsewhere. -/
def or (operands : List Operand) : Check := fun actual => do
  match ← failuresOfAll actual operands with
  | none => pure ()
  | some [] => fail "$or failed: no alternatives provided"
  | some (first :: rest) =>
    if (← context).collects then reportFailures (first :: rest)
    else
      fail ("$or failed: value did not satisfy any alternative; first error: " ++ first.text)

/-- Report every operand that accepts the value, the first one having the given position. -/
def nor : (position : Nat) → List Operand → Check
  | _, [], _ => pure ()
  | position, o :: rest, actual => do
    if ← o.accepts actual then
      reportHere ("$nor failed: alternative " ++ toString position ++ " matched")
    nor (position + 1) rest actual

def not (operand : Operand) : Check := fun actual => do
  if ← operand.accepts actual then fail "$not failed: value matched negated condition"

end Check

end Conformance
