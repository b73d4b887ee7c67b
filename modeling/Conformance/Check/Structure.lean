import Conformance.Check.Comparison
import Conformance.Rule.Text

/-!
# Checks of documents, arrays and leaves

A document satisfies an expected one if the first entry for each expected key satisfies what is expected
there; further keys do not matter. Arrays are compared element by element and have to be of equal length.
Everything else but rules is a leaf.
-/

set_option autoImplicit false

namespace Conformance

/-- How the entries of documents are looked up: expected documents with more entries than the threshold
have a key index built, whose keys are hashed. -/
structure LookupPlan where
  threshold : Nat
  hash : String → UInt64

namespace Check

open Comparison

/-- Check the entries of an expected document one after the other, finding values by `find`. -/
def entries (find : String → Option Value) : List (String × Check) → Comparison Unit
  | [] => pure ()
  | (key, check) :: rest => do
    match find key with
    | some value => within (.key key) (check value)
    | none => reportAt (.key key) "key not found"
    entries find rest

def document (plan : LookupPlan) (expected : List (String × Check)) : Check := fun actual =>
  match actual with
  | .document actual =>
    if expected.length ≤ plan.threshold then entries (lookup · actual) expected
    else withIndex plan.hash actual fun index => entries index.get expected
  | other => reportHere ("expected document, got " ++ other.kind)

/-- Check elements in pairs, the first of which has the given position. -/
def elements : (position : Nat) → List Check → List Value → Comparison Unit
  | position, check :: checks, value :: values => do
    within (.index position) (check value)
    elements (position + 1) checks values
  | _, _, _ => pure ()

def array (expected : List Check) : Check := fun actual =>
  match actual with
  | .array actual =>
    if expected.length = actual.length then elements 0 expected actual
    else
      reportHere ("length mismatch: expected " ++ toString expected.length ++ ", got " ++
        toString actual.length)
  | other => reportHere ("expected array, got " ++ other.kind)

def leaf (expected : Expected) : Check := fun actual =>
  match expected.compareScalars actual with
  | .equal => pure ()
  | .differs message => reportHere message
  -- of the leaves only `null` comes to this
  | .unrecognized =>
    if expected.deepEqual actual then pure ()
    else reportHere ("expected " ++ (view expected).describe ++ ", got " ++ actual.describe)

/-- Check a value against a rule. The rule runs in a context of its own, at its own root. What it recorded
is reported first, then what it returned, all at the place of the rule. -/
def rule (run : Check) : Check := fun actual => do
  let here ← context
  let (outcome, after) ← apart (.start here.collects) (run actual)
  let returned := match outcome with
    | .ok () => []
    | .error failure => failure.mismatches
  reportUnder here.path (after.collected ++ returned)

end Check

end Conformance
