import Conformance.Check.Rules

/-!
# The check of an expected tree

`checkTree` gives every expected tree its check, by recursion on the tree: a document is checked by
the checks of its entries, an array by those of its elements, a rule by those of its operands.
-/

set_option autoImplicit false

namespace Conformance

mutual

def checkTree (plan : LookupPlan) : Expected → Check
  | .document entries => Check.document plan (checkEntries plan entries)
  | .array items => Check.array (checkItems plan items)
  | .rule _ r => Check.rule (checkRule plan r)
  | .null => Check.leaf .null
  | .bool b => Check.leaf (.bool b)
  | .int i => Check.leaf (.int i)
  | .float x => Check.leaf (.float x)
  | .string s => Check.leaf (.string s)

def checkEntries (plan : LookupPlan) : List (String × Expected) → List (String × Check)
  | [] => []
  | (key, e) :: rest => (key, checkTree plan e) :: checkEntries plan rest

def checkItems (plan : LookupPlan) : List Expected → List Check
  | [] => []
  | e :: rest => checkTree plan e :: checkItems plan rest

def operandsOf (plan : LookupPlan) : List Expected → List Operand
  | [] => []
  | e :: rest => ⟨e, checkTree plan e⟩ :: operandsOf plan rest

/-- The check of a rule, at the rule's own root. -/
def checkRule (plan : LookupPlan) : Rule → Check
  | .equal (.document entries) => Check.strictDocument (checkEntries plan entries)
  | .equal e => Check.same (checkTree plan e)
  | .notEqual e => Check.notEqual e
  | .nil target explicit => Check.nil target explicit
  | .required => Check.required
  | .any => fun _ => pure ()
  | .empty want => Check.empty want
  | .pattern p => Check.pattern p
  | .elementsMatch es => Check.elementsMatch (operandsOf plan es)
  | .length bounds => Check.length bounds
  | .inSet es => Check.inSet (operandsOf plan es)
  | .numeric bound => Check.numeric bound
  | .and es => Check.and (operandsOf plan es)
  | .or es => Check.or (operandsOf plan es)
  | .nor es => Check.nor 0 (operandsOf plan es)
  | .not e => Check.not ⟨e, checkTree plan e⟩
  | .custom _ run => fun actual => do
    runProgram plan (run (← Comparison.context).collects actual)

def runProgram (plan : LookupPlan) : Program → Comparison Unit
  | .done outcome => Comparison.ofOutcome outcome
  | .report failure next => do
    runProgram plan (next (← Comparison.attempt (Comparison.reportAll failure)))
  | .test place expected actual next => do
    let child := Context.startAt place (← Comparison.context).collects
    runProgram plan (next (← Comparison.resultIn child (checkTree plan expected actual)))

end

end Conformance
