import Conformance.Directive.Builtin
import Conformance.Tester

/-!
# Checking documents and reporting

`checkTexts` compares two JSON texts, the first of which may hold directives. `Report.render` writes the
mismatches, one line each or as a JSON array.
-/

set_option autoImplicit false

namespace Conformance

inductive ReportFormat where
  | text
  | json
  deriving DecidableEq, Inhabited

/-- What a comparison that was carried out came to. The exit status goes by the variant, and what is written goes
by the mismatches. -/
inductive Report where
  | satisfied
  | mismatched (list : List Mismatch)
  deriving DecidableEq, Inhabited

namespace Report

def ofOutcome : Outcome → Report
  | .ok () => .satisfied
  | .error failure => .mismatched failure.mismatches

def mismatches : Report → List Mismatch
  | .satisfied => []
  | .mismatched list => list

def exitCode : Report → Nat
  | .satisfied => 0
  | .mismatched _ => 1

end Report

def Mismatch.toJson (m : Mismatch) : Json :=
  .object [("path", .string m.path.text), ("message", .string m.message)]

def mismatchesJson (ms : List Mismatch) : Json := .array (ms.map Mismatch.toJson)

namespace Report

/-- The text of a report: `ok` or one mismatch per line, or a JSON array. -/
def render (format : ReportFormat) (r : Report) : String :=
  match format with
  | .text =>
    if r.mismatches.isEmpty then "ok\n" else String.join (r.mismatches.map fun m => m.text ++ "\n")
  | .json => (mismatchesJson r.mismatches).pretty ++ "\n"

end Report

inductive TextsError where
  | expected (error : DecodeError)
  | actual (error : Json.ReadError)

/-- Compare two JSON texts: the report, and the tester for later tests. The expected one is decoded first. -/
def checkTexts (r : Registry) (t : Tester) (expected actual : String) :
    Except TextsError (Report × Tester) := do
  let expected ← (r.decodeText 0 expected).mapError .expected
  let actual ← (Json.read actual).mapError .actual
  let (outcome, t) := t.test expected (.ofJson actual)
  return (.ofOutcome outcome, t)

end Conformance
