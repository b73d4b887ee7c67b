import Conformance.Json.Writer
import Conformance.Tree.Text

/-!
# Options of a tester

Two options: up to how many expected entries a document is matched by a plain search, and whether all
mismatches are collected.
-/

set_option autoImplicit false

namespace Conformance

/-- The options of a tester. A threshold below zero counts as zero. -/
structure Options where
  threshold : Int := 8
  collectAll : Bool := false
  deriving DecidableEq, Inhabited

namespace Options

def clamped (o : Options) : Options := { o with threshold := max o.threshold 0 }

/-- The greatest number of expected entries that are searched for one by one. -/
def effectiveThreshold (o : Options) : Nat := o.threshold.toNat

def toJson (o : Options) : Json :=
  .object [("small_doc_linear_threshold", .integer o.threshold), ("collect_all", .bool o.collectAll)]

def debug (o : Options) : String :=
  "TesterOptions \x7b small_doc_linear_threshold: " ++ toString o.threshold ++ ", collect_all: " ++
    boolText o.collectAll ++ " \x7d"

end Options

end Conformance
