import Conformance.Proofs.Findings
import Conformance.Proofs.PoolBounds

/-!
# The comparisons of documents during a test

A comparison of a tree with a value runs comparisons of documents with documents, each of them inside of another
or behind it. `runsTree` lists these runs by recursion on the tree alone, as `findTree` does with the mismatches:
a comparison that stops at the first mismatch goes on only as long as nothing is found.

A run with more expected entries than the threshold has a buffer on loan for as long as it lasts.
`Run.useAll` is what the runs do to a pool, and `Run.peak` the greatest number of buffers that are on loan at the
same time.
-/

set_option autoImplicit false

namespace Conformance

/-- A comparison of two documents: the number of expected entries, and the comparisons of documents that are
run meanwhile, in order. -/
inductive Run where
  | mk (entries : Nat) (during : List Run)

namespace Run

/-! ## Buffers on loan -/

section Loans

variable (threshold : Nat)

mutual

/-- What a run does to a pool: it borrows a buffer in the beginning, if it has an index, and gives it back in
the end. -/
def use : Run → Pool KeySlots → Pool KeySlots
  | ⟨entries, during⟩, pool =>
    if threshold < entries then (useAll during pool.acquire.2).release ∅ else useAll during pool

/-- What several runs do to a pool, one after the other. -/
def useAll : List Run → Pool KeySlots → Pool KeySlots
  | [], pool => pool
  | run :: rest, pool => useAll rest (use run pool)

end

mutual

/-- With `out` buffers on loan already, how many are on loan after each further loan that the run takes. -/
def loans (out : Nat) : Run → List Nat
  | ⟨entries, during⟩ =>
    if threshold < entries then (out + 1) :: allLoans (out + 1) during else allLoans out during

def allLoans (out : Nat) : List Run → List Nat
  | [] => []
  | run :: rest => loans out run ++ allLoans out rest

end

/-- The greatest number of buffers that are on loan at the same time during several runs. -/
def peak (runs : List Run) : Nat := (allLoans threshold 0 runs).foldl max 0

theorem useAll_append (xs ys : List Run) (pool : Pool KeySlots) :
    useAll threshold (xs ++ ys) pool = useAll threshold ys (useAll threshold xs pool) := by
  induction xs generalizing pool with
  | nil => rfl
  | cons run rest ih => rw [List.cons_append, useAll, useAll, ih]

open Pool in
mutual

/-- During a run the bounds on a pool are kept, with the loans that the run takes. -/
theorem within_use {limit first out most : Nat} : (run : Run) → {pool : Pool KeySlots} →
    Within limit first out most pool →
    Within limit first out ((loans threshold out run).foldl max most) (use threshold run pool)
  | ⟨entries, during⟩, pool, h => by
      rw [use, loans]
      by_cases hindex : threshold < entries
      · rw [if_pos hindex, if_pos hindex, List.foldl_cons]
        exact (within_useAll during h.acquire).release ∅
      · rw [if_neg hindex, if_neg hindex]
        exact within_useAll during h

theorem within_useAll {limit first out most : Nat} : (runs : List Run) → {pool : Pool KeySlots} →
    Within limit first out most pool →
    Within limit first out ((allLoans threshold out runs).foldl max most) (useAll threshold runs pool)
  | [], _, h => h
  | run :: rest, _, h => by
      rw [useAll, allLoans, List.foldl_append]
      exact within_useAll rest (within_use run h)

end

end Loans

end Run

/-! ## Runs by the parts of a tree -/

/-- What a comparison with some tree finds in a value, and the comparisons of documents that it runs. -/
structure Part where
  find : Finder
  runs : Value → List Run

namespace Part

/-- The runs of several steps, each with whether it passes. A comparison that stops does so behind the first
step that does not pass. -/
def inTurn (collects : Bool) : List (Bool × List Run) → List Run
  | [] => []
  | (passes, runs) :: rest => runs ++ if collects || passes then inTurn collects rest else []

/-- The step of an operand that should accept the value. -/
def accepting (actual : Value) (part : Part) : Bool × List Run :=
  (Find.accepts part.find actual, part.runs actual)

/-- The step of an operand that should not. -/
def rejecting (actual : Value) (part : Part) : Bool × List Run :=
  (!Find.accepts part.find actual, part.runs actual)

def entry (actual : List (String × Value)) (expected : String × Part) : Bool × List Run :=
  match lookup expected.1 actual with
  | some value => expected.2.accepting value
  | none => (false, [])

def entries (collects : Bool) (expected : List (String × Part)) (actual : List (String × Value)) : List Run :=
  inTurn collects (expected.map (entry actual))

/-- The runs of a comparison with an expected document: one for the documents, with those of the entries
during it. -/
def document (collects : Bool) (expected : List (String × Part)) : Value → List Run
  | .document actual => [⟨expected.length, entries collects expected actual⟩]
  | _ => []

def array (collects : Bool) (expected : List Part) : Value → List Run
  | .array actual =>
    if expected.length = actual.length then
      inTurn collects ((expected.zip actual).map fun (part, value) => part.accepting value)
    else []
  | _ => []

/-- The runs of a strict comparison, which looks the entries up by itself. -/
def strictDocument (collects : Bool) (expected : List (String × Part)) : Value → List Run
  | .document actual => entries collects expected actual
  | _ => []

def claim (part : Part) (values : List Value) : List Run :=
  inTurn false (values.map fun value => part.rejecting value)

def claimAll : List Part → List Value → List Run
  | [], _ => []
  | part :: rest, values =>
    part.claim values ++
      match Find.claim part.find values with
      | some left => claimAll rest left
      | none => []

def elementsMatch (expected : List Part) : Value → List Run
  | .array values => if values.length = expected.length then claimAll expected values else []
  | _ => []

/-- The runs of the search for the first operand that accepts the value; it ends there in both modes. -/
def search (operands : List Part) (actual : Value) : List Run :=
  inTurn false (operands.map (rejecting actual))

def and (collects : Bool) (operands : List Part) (actual : Value) : List Run :=
  inTurn collects (operands.map (accepting actual))

def nor (collects : Bool) (operands : List Part) (actual : Value) : List Run :=
  inTurn collects (operands.map (rejecting actual))

end Part

mutual

/-- The comparisons of documents that a comparison with an expected tree runs. -/
def runsTree (collects : Bool) : Expected → Value → List Run
  | .document entries => Part.document collects (partsOfEntries collects entries)
  | .array items => Part.array collects (partsOf collects items)
  | .rule _ r => runsRule collects r
  | .null | .bool _ | .int _ | .float _ | .string _ => fun _ => []

def partsOfEntries (collects : Bool) : List (String × Expected) → List (String × Part)
  | [] => []
  | (key, e) :: rest =>
    (key, ⟨findTree collects e, runsTree collects e⟩) :: partsOfEntries collects rest

def partsOf (collects : Bool) : List Expected → List Part
  | [] => []
  | e :: rest => ⟨findTree collects e, runsTree collects e⟩ :: partsOf collects rest

def runsRule (collects : Bool) : Rule → Value → List Run
  | .equal (.document entries) => Part.strictDocument collects (partsOfEntries collects entries)
  | .equal e => runsTree collects e
  | .elementsMatch es => Part.elementsMatch (partsOf collects es)
  | .inSet es | .or es => Part.search (partsOf collects es)
  | .and es => Part.and collects (partsOf collects es)
  | .nor es => Part.nor collects (partsOf collects es)
  | .not e => runsTree collects e
  | .custom _ run => fun actual => runsProgram collects (run collects actual)
  | .notEqual _ | .nil _ _ | .required | .any | .empty _ | .pattern _ | .length _ | .numeric _ => fun _ => []

def runsProgram (collects : Bool) : Program → List Run
  | .done _ => []
  | .report failure next =>
    if collects then runsProgram collects (next (.ok ()))
    else runsProgram collects (next (.error failure))
  | .test place expected actual next =>
    runsTree collects expected actual ++ runsProgram collects
      (next (verdict collects ((findTree collects expected actual).map (Mismatch.under place))))

end

/-- A strict comparison runs no comparison of documents for its own keys, only those of the entries. This one
stops inside the first entry of the document below, before it comes to the second. -/
example :
    let inner : Expected := .document [("b", .document [("c", .int 1)]), ("d", .document [("e", .null)])]
    let e : Expected := .rule [0] (.equal (.document [("a", inner)]))
    let a : Value := .document [("a", .document [("b", .document [("c", .int 2)]), ("d", .document [])])]
    runsTree false e a = [⟨2, [⟨1, []⟩]⟩] ∧ Run.peak 1 (runsTree false e a) = 1 := by
  exact ⟨rfl, rfl⟩

end Conformance
