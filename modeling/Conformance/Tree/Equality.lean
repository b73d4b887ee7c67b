import Conformance.Tree.Text

/-!
# Equality of trees

`compareScalars` judges a pair of leaves whenever the expected one is a string, a truth value or a number.
`deepEqual` goes through the whole of two trees: documents entry by entry in order, arrays element by
element, leaves by `compareScalars`. A rule is equal to the same rule object only. Neither looks at what
the rule nodes carry, so that the two trees may carry different things.
-/

set_option autoImplicit false

namespace Conformance

/-- What comparing two leaves comes to. -/
inductive ScalarMatch where
  /-- The expected node is no leaf of a comparable kind. -/
  | unrecognized
  | equal
  | differs (message : String)
  deriving DecidableEq, Inhabited

namespace Tree

variable {ρ σ : Type}

/-- Compare a number with a node, in exact integers if both are integers and in binary64 otherwise. -/
def compareNumber (want : Number) (wantKind : String) (actual : Tree σ) : ScalarMatch :=
  match actual.number? with
  | none =>
    let domain := match want with
      | .int _ => "integer"
      | .float _ => "float"
    .differs ("expected " ++ domain ++ " (" ++ want.display ++ "), got " ++ actual.kind)
  | some got =>
    if want.equals got then .equal
    else
      .differs ("expected " ++ wantKind ++ " " ++ want.display ++ ", got " ++ actual.kind ++ " " ++ got.display)

/-- Compare two leaves without walking any structure. -/
def compareScalars (expected : Tree ρ) (actual : Tree σ) : ScalarMatch :=
  match expected, actual with
  | .string want, .string got =>
    if got = want then .equal
    else .differs ("expected string " ++ Text.quoted want ++ ", got " ++ Text.quoted got)
  | .string want, other =>
    .differs ("expected string " ++ Text.quoted want ++ ", got " ++ other.kind)
  | .bool want, .bool got =>
    if got = want then .equal
    else .differs ("expected bool " ++ boolText want ++ ", got " ++ boolText got)
  | .bool want, other => .differs ("expected bool " ++ boolText want ++ ", got " ++ other.kind)
  | .int i, other => compareNumber (.int i) "int" other
  | .float x, other => compareNumber (.float x) "float" other
  | _, _ => .unrecognized

mutual

/-- Whether two trees are equal all through. -/
def deepEqual : Tree ρ → Tree σ → Bool
  | .null, .null => true
  | .document xs, .document ys => deepEqualEntries xs ys
  | .array xs, .array ys => deepEqualItems xs ys
  | .rule x _, .rule y _ => x == y
  | a, b => compareScalars a b == .equal

def deepEqualItems : List (Tree ρ) → List (Tree σ) → Bool
  | [], [] => true
  | x :: xs, y :: ys => deepEqual x y && deepEqualItems xs ys
  | _, _ => false

def deepEqualEntries : List (String × Tree ρ) → List (String × Tree σ) → Bool
  | [], [] => true
  | (k, x) :: xs, (l, y) :: ys => k == l && deepEqual x y && deepEqualEntries xs ys
  | _, _ => false

end

end Tree

end Conformance
