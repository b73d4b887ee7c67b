import Conformance.Rule.Basic

/-!
# The structural form of rules

Rules are shown in structural form. `view e` is the expected tree `e` as messages see it: the same tree,
with the structural form in the place of each rule.
-/

set_option autoImplicit false

namespace Conformance

def optionText : Option Nat → String
  | none => "None"
  | some n => "Some(" ++ toString n ++ ")"

def LengthBounds.debug (b : LengthBounds) : String :=
  "LengthBounds \x7b eq: " ++ optionText b.eq ++ ", lt: " ++ optionText b.lt ++ ", lte: " ++
    optionText b.lte ++ ", gt: " ++ optionText b.gt ++ ", gte: " ++ optionText b.gte ++ " \x7d"

def NumericBound.debug (b : NumericBound) : String :=
  let direction := match b.direction with
    | .below => "Below"
    | .above => "Above"
  "NumericBound \x7b reference: " ++ b.reference.debug ++ ", direction: " ++ direction ++
    ", inclusive: " ++ boolText b.inclusive ++ " \x7d"

/-- The structural form of a rule with the given name and fields. -/
def recordText (name : String) (fields : List (String × String)) : String :=
  name ++ " \x7b " ++ ", ".intercalate (fields.map fun (field, text) => field ++ ": " ++ text) ++ " \x7d"

def listText (values : List Value) : String := "[" ++ Tree.debugItems values ++ "]"

mutual

def Rule.debug : Rule → String
  | .equal e => recordText "Equal" [("expected", (view e).debug)]
  | .notEqual e => recordText "NotEqual" [("expected", (view e).debug)]
  | .nil target explicit =>
    recordText "Nil" [("target_nil", boolText target), ("explicit", boolText explicit)]
  | .required => "Required"
  | .any => "Any"
  | .empty want => recordText "Empty" [("want", boolText want)]
  | .pattern p => recordText "MatchString" [("re", "Regex(" ++ Text.quoted p.text ++ ")")]
  | .elementsMatch es => recordText "ElementsMatch" [("expected", listText (viewItems es))]
  | .length bounds => recordText "Length" [("bounds", bounds.debug)]
  | .inSet es => recordText "InSet" [("candidates", listText (viewItems es))]
  | .numeric bound => bound.debug
  | .and es => recordText "And" [("operands", listText (viewItems es))]
  | .or es => recordText "Or" [("operands", listText (viewItems es))]
  | .nor es => recordText "Nor" [("operands", listText (viewItems es))]
  | .not e => recordText "Not" [("operand", (view e).debug)]
  | .custom name _ => name

/-- An expected tree with the structural form in the place of each rule. -/
def view : Expected → Value
  | .null => .null
  | .bool b => .bool b
  | .int i => .int i
  | .float x => .float x
  | .string s => .string s
  | .array items => .array (viewItems items)
  | .document entries => .document (viewEntries entries)
  | .rule label r => .rule label r.debug

def viewItems : List Expected → List Value
  | [] => []
  | e :: rest => view e :: viewItems rest

def viewEntries : List (String × Expected) → List (String × Value)
  | [] => []
  | (key, e) :: rest => (key, view e) :: viewEntries rest

end

theorem viewItems_eq_map (es : List Expected) : viewItems es = es.map view := by
  induction es with
  | nil => rfl
  | cons e rest ih => rw [viewItems, ih, List.map_cons]

theorem viewEntries_eq_map (es : List (String × Expected)) :
    viewEntries es = es.map fun entry => (entry.1, view entry.2) := by
  induction es with
  | nil => rfl
  | cons entry rest ih => rw [viewEntries, ih, List.map_cons]

end Conformance
