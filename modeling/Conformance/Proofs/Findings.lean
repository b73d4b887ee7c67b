import Conformance.Tester

/-!
# What a comparison finds

`findTree` gives the mismatches between an expected tree and a value by recursion on the tree alone, with
no context, no pool and no plan for look-ups. Paths are relative to the root of the tree. The list of a
comparison that collects is its report, in order. Of the list of one that stops at the first mismatch only
the first element counts: the rest is what it would have come to later.

Only two kinds of node look at the mode: an `or` none of whose operands accepts the value, and a custom
rule. `verdict` turns a list into the outcome of a comparison.
-/

set_option autoImplicit false

namespace Conformance

/-- The mismatches that an outcome carries, in order. -/
def Outcome.mismatches : Outcome → List Mismatch
  | .ok () => []
  | .error failure => failure.mismatches

/-- The outcome of a comparison that finds the given mismatches. -/
def verdict (collects : Bool) (ms : List Mismatch) : Outcome :=
  if collects then
    match Mismatches.ofList? ms with
    | none => .ok ()
    | some ms => .error (.several ms)
  else
    match ms with
    | [] => .ok ()
    | first :: _ => .error (.single first)

/-- Mismatches found one step further down, as seen from here. -/
def below (s : Segment) (ms : List Mismatch) : List Mismatch :=
  ms.map (Mismatch.under (Path.root.push s))

/-- The values that are not as expected give rise to mismatches. -/
abbrev Finder := Value → List Mismatch

namespace Find

/-- The one mismatch at the place itself. -/
def here (message : String) : List Mismatch := [⟨.root, message⟩]

def missing (key : String) : List Mismatch := [⟨Path.root.push (.key key), "key not found"⟩]

def extra (key : String) : List Mismatch :=
  [⟨Path.root.push (.key key), "unexpected extra key " ++ Text.quoted key ++ " (strict $eq)"⟩]

/-! ## Documents and arrays -/

def entry (actual : List (String × Value)) (expected : String × Finder) : List Mismatch :=
  match lookup expected.1 actual with
  | some value => below (.key expected.1) (expected.2 value)
  | none => missing expected.1

def document (expected : List (String × Finder)) : Finder
  | .document actual => expected.flatMap (entry actual)
  | other => here ("expected document, got " ++ other.kind)

/-- The mismatches of elements in pairs, the first pair having the given position. -/
def elements (position : Nat) (expected : List Finder) (actual : List Value) : List Mismatch :=
  ((expected.zip actual).zipIdx position).flatMap fun ((find, value), i) =>
    below (.index i) (find value)

def array (expected : List Finder) : Finder
  | .array actual =>
    if expected.length = actual.length then elements 0 expected actual
    else
      here ("length mismatch: expected " ++ toString expected.length ++ ", got " ++
        toString actual.length)
  | other => here ("expected array, got " ++ other.kind)

/-! ## Leaves and rules without operands

These make at most one report, and the same one in both modes: it is what their check stops with at the
root. The exception is a rule on lengths, which reports every bound. -/

/-- What a comparison stops with at the root. -/
def stop (c : Comparison Unit) : List Mismatch :=
  Outcome.mismatches (c.run ⟨.start false, .empty .standard⟩).1

/-- What a check finds that has no operands. -/
def alone (check : Check) : Finder := fun actual => stop (check actual)

@[simp] theorem stop_pure : stop (pure ()) = [] := rfl

@[simp] theorem stop_fail (message : String) : stop (Comparison.fail message) = here message := rfl

@[simp] theorem stop_reportHere (message : String) :
    stop (Comparison.reportHere message) = here message := rfl

@[simp] theorem here_ne_nil (message : String) : here message ≠ [] := List.cons_ne_nil _ _

def lengthBound (length : Nat) (t : Check.LengthTest) : List Mismatch :=
  match t.bound with
  | some n =>
    if t.holds length n then []
    else
      here ("$length " ++ t.name ++ " failed: got " ++ toString length ++ ", expected " ++ t.sign ++
        " " ++ toString n)
  | none => []

def length (bounds : LengthBounds) : Finder := fun actual =>
  match actual.length? with
  | none => here ("$length expects array or document, got " ++ actual.kind)
  | some n => (Check.lengthTests bounds).flatMap (lengthBound n)

/-! ## Rules with operands

An operand comes with the text that messages show for it. -/

/-- Whether a value has nothing wrong with it. -/
def accepts (find : Finder) (actual : Value) : Bool := (find actual).isEmpty

def strictDocument (expected : List (String × Finder)) : Finder
  | .document actual =>
    expected.flatMap (entry actual) ++
      (Check.extraKeys (expected.map (·.1)) actual).flatMap extra
  | other => here ("expected document, got " ++ other.kind)

/-- The values without the first one that is accepted, if there is one. -/
def claim (find : Finder) : List Value → Option (List Value)
  | [] => none
  | value :: rest => if accepts find value then some rest else (claim find rest).map (value :: ·)

/-- The mismatch at the first operand that finds no value left to claim. -/
def claimAll : List (String × Finder) → List Value → List Mismatch
  | [], _ => []
  | (text, find) :: rest, values =>
    match claim find values with
    | some left => claimAll rest left
    | none => here ("$elementsMatch could not find match for expected element " ++ text)

def elementsMatch (expected : List (String × Finder)) : Finder
  | .array values =>
    if values.length = expected.length then claimAll expected values
    else
      here ("$elementsMatch length mismatch: expected " ++ toString expected.length ++
        " elements, got " ++ toString values.length)
  | other => here ("$elementsMatch expects array, got " ++ other.kind)

def inSet (candidates : List (String × Finder)) : Finder := fun actual =>
  if candidates.any (fun c => accepts c.2 actual) then []
  else
    here ("$in failed: value " ++ actual.display ++ " not in [" ++
      ", ".intercalate (candidates.map (·.1)) ++ "]")

def and (operands : List Finder) : Finder := fun actual => operands.flatMap (· actual)

/-- The mismatches with alternatives: those with all of them, or one that quotes the first. -/
def or (collects : Bool) (operands : List Finder) : Finder := fun actual =>
  if operands.any (accepts · actual) then []
  else
    match operands.flatMap (· actual) with
    | [] => here "$or failed: no alternatives provided"
    | first :: rest =>
      if collects then first :: rest
      else
        here ("$or failed: value did not satisfy any alternative; first error: " ++ first.text)

/-- The mismatches with alternatives that are all ruled out, the first one having the given position. -/
def nor (position : Nat) (operands : List Finder) : Finder := fun actual =>
  (operands.zipIdx position).flatMap fun (find, i) =>
    if accepts find actual then here ("$nor failed: alternative " ++ toString i ++ " matched") else []

def not (operand : Finder) : Finder := fun actual =>
  if accepts operand actual then here "$not failed: value matched negated condition" else []

end Find

mutual

def findTree (collects : Bool) : Expected → Finder
  | .document entries => Find.document (findEntries collects entries)
  | .array items => Find.array (findItems collects items)
  | .rule _ r => findRule collects r
  | .null => Find.alone (Check.leaf .null)
  | .bool b => Find.alone (Check.leaf (.bool b))
  | .int i => Find.alone (Check.leaf (.int i))
  | .float x => Find.alone (Check.leaf (.float x))
  | .string s => Find.alone (Check.leaf (.string s))

def findEntries (collects : Bool) : List (String × Expected) → List (String × Finder)
  | [] => []
  | (key, e) :: rest => (key, findTree collects e) :: findEntries collects rest

def findItems (collects : Bool) : List Expected → List Finder
  | [] => []
  | e :: rest => findTree collects e :: findItems collects rest

/-- The finders of several trees, with the texts of the trees. -/
def findOperands (collects : Bool) : List Expected → List (String × Finder)
  | [] => []
  | e :: rest => ((view e).display, findTree collects e) :: findOperands collects rest

def findRule (collects : Bool) : Rule → Finder
  | .equal (.document entries) => Find.strictDocument (findEntries collects entries)
  | .equal e => findTree collects e
  | .notEqual e => Find.alone (Check.notEqual e)
  | .nil target explicit => Find.alone (Check.nil target explicit)
  | .required => Find.alone Check.required
  | .any => fun _ => []
  | .empty want => Find.alone (Check.empty want)
  | .pattern p => Find.alone (Check.pattern p)
  | .elementsMatch es => Find.elementsMatch (findOperands collects es)
  | .length bounds => Find.length bounds
  | .inSet es => Find.inSet (findOperands collects es)
  | .numeric bound => Find.alone (Check.numeric bound)
  | .and es => Find.and (findItems collects es)
  | .or es => Find.or collects (findItems collects es)
  | .nor es => Find.nor 0 (findItems collects es)
  | .not e => Find.not (findTree collects e)
  | .custom _ run => fun actual => findProgram collects (run collects actual)

/-- What a program reports, and then what it returns. -/
def findProgram (collects : Bool) : Program → List Mismatch
  | .done outcome => outcome.mismatches
  | .report failure next =>
    if collects then failure.mismatches ++ findProgram collects (next (.ok ()))
    else findProgram collects (next (.error failure))
  | .test place expected actual next =>
    findProgram collects
      (next (verdict collects ((findTree collects expected actual).map (Mismatch.under place))))

end

theorem findEntries_eq_map (collects : Bool) (es : List (String × Expected)) :
    findEntries collects es = es.map fun entry => (entry.1, findTree collects entry.2) := by
  induction es with
  | nil => rfl
  | cons entry rest ih => rw [findEntries, ih, List.map_cons]

theorem findItems_eq_map (collects : Bool) (es : List Expected) :
    findItems collects es = es.map (findTree collects) := by
  induction es with
  | nil => rfl
  | cons e rest ih => rw [findItems, ih, List.map_cons]

theorem findOperands_eq_map (collects : Bool) (es : List Expected) :
    findOperands collects es = es.map fun e => ((view e).display, findTree collects e) := by
  induction es with
  | nil => rfl
  | cons e rest ih => rw [findOperands, ih, List.map_cons]

/-! ## Acceptance and alternatives -/

theorem accepts_iff {f : Finder} {v : Value} : Find.accepts f v = true ↔ f v = [] := by
  rw [Find.accepts, List.isEmpty_iff]

/-- Alternatives find nothing if one of them accepts the value, and only then: rejected or absent, they find
something. -/
theorem or_eq_nil_iff (k : Bool) (fs : List Finder) (a : Value) :
    Find.or k fs a = [] ↔ fs.any (Find.accepts · a) = true := by
  unfold Find.or
  cases fs.any (Find.accepts · a) with
  | true => simp
  | false =>
      cases fs.flatMap (· a) with
      | nil => simp
      | cons first rest => cases k <;> simp

/-- Where all alternatives are rejected, those that collect hand all of their mismatches on. -/
theorem or_of_rejected {fs : List Finder} {a : Value} (hsome : fs ≠ []) (hall : ∀ f ∈ fs, f a ≠ []) :
    Find.or true fs a = fs.flatMap (· a) := by
  have hno : ¬ fs.any (Find.accepts · a) = true := by
    rw [List.any_eq_true]
    rintro ⟨f, hf, haccepts⟩
    exact hall f hf (accepts_iff.mp haccepts)
  rw [Find.or, if_neg hno]
  cases hfound : fs.flatMap (· a) with
  | nil =>
      obtain ⟨f, hf⟩ := List.exists_mem_of_ne_nil fs hsome
      exact absurd (List.flatMap_eq_nil_iff.mp hfound f hf) (hall f hf)
  | cons first rest => rfl

/-- An `or` that has to stop says one thing, at its own place. -/
theorem or_stops (fs : List Finder) (a : Value) :
    Find.or false fs a = [] ∨ ∃ message, Find.or false fs a = Find.here message := by
  rw [Find.or]
  by_cases hany : fs.any (Find.accepts · a) = true
  · exact .inl (if_pos hany)
  · rw [if_neg hany]
    cases fs.flatMap (· a) with
    | nil => exact .inr ⟨_, rfl⟩
    | cons first rest => exact .inr ⟨_, rfl⟩

/-! ## Nodes by their parts -/

theorem findTree_document (k : Bool) (es : List (String × Expected)) (actual : List (String × Value)) :
    findTree k (.document es) (.document actual)
      = es.flatMap fun entry => Find.entry actual (entry.1, findTree k entry.2) := by
  rw [findTree, Find.document, findEntries_eq_map, List.flatMap_map]

/-- To be no document is one finding, whatever the entries would have found. -/
theorem findTree_document_shape (k : Bool) (es : List (String × Expected)) {a : Value}
    (hshape : ∀ actual, a ≠ .document actual) :
    findTree k (.document es) a = Find.here ("expected document, got " ++ a.kind) := by
  cases a with
  | document actual => exact absurd rfl (hshape actual)
  | _ => rfl

/-- Arrays of one length find what the pairs of their elements find, each below its position. -/
theorem findTree_array (k : Bool) {es : List Expected} {values : List Value}
    (hlength : es.length = values.length) : findTree k (.array es) (.array values)
      = (es.zip values).zipIdx.flatMap fun ((e, v), i) => below (.index i) (findTree k e v) := by
  rw [findTree, findItems_eq_map, Find.array, List.length_map, if_pos hlength, Find.elements,
    List.zip_map_left, List.zipIdx_map, List.flatMap_map]
  rfl

theorem findTree_array_length (k : Bool) {es : List Expected} {values : List Value}
    (hlength : es.length ≠ values.length) : findTree k (.array es) (.array values)
      = Find.here ("length mismatch: expected " ++ toString es.length ++ ", got " ++
          toString values.length) := by
  rw [findTree, findItems_eq_map, Find.array, List.length_map, if_neg hlength]

theorem findTree_array_shape (k : Bool) (es : List Expected) {a : Value}
    (hshape : ∀ values, a ≠ .array values) :
    findTree k (.array es) a = Find.here ("expected array, got " ++ a.kind) := by
  cases a with
  | array values => exact absurd rfl (hshape values)
  | _ => rfl

/-- The mismatches of the expected entries come first, those of the extra keys behind them. -/
theorem findTree_strict (k : Bool) (label : Label) (es : List (String × Expected))
    (actual : List (String × Value)) :
    findTree k (.rule label (.equal (.document es))) (.document actual)
      = (es.flatMap fun entry => Find.entry actual (entry.1, findTree k entry.2)) ++
          (Check.extraKeys (es.map (·.1)) actual).flatMap Find.extra := by
  rw [findTree, findRule, findEntries_eq_map, Find.strictDocument, List.flatMap_map, List.map_map]
  rfl

theorem findTree_and (k : Bool) (label : Label) (es : List Expected) (a : Value) :
    findTree k (.rule label (.and es)) a = es.flatMap fun e => findTree k e a := by
  rw [findTree, findRule, findItems_eq_map, Find.and, List.flatMap_map]

theorem findTree_or (k : Bool) (label : Label) (es : List Expected) (a : Value) :
    findTree k (.rule label (.or es)) a = Find.or k (es.map (findTree k)) a := by
  rw [findTree, findRule, findItems_eq_map]

/-- An alternative that accepts the value is named by its position. -/
theorem findTree_nor (k : Bool) (label : Label) (es : List Expected) (a : Value) :
    findTree k (.rule label (.nor es)) a = es.zipIdx.flatMap fun (e, i) =>
      if Find.accepts (findTree k e) a then
        Find.here ("$nor failed: alternative " ++ toString i ++ " matched")
      else [] := by
  rw [findTree, findRule, findItems_eq_map, Find.nor, List.zipIdx_map, List.flatMap_map]
  rfl

/-- The wrapper around a tree other than a document makes no difference. -/
theorem findTree_same {e : Expected} (hshape : ∀ entries, e ≠ .document entries) (k : Bool)
    (label : Label) : findTree k (.rule label (.equal e)) = findTree k e := by
  cases e with
  | document entries => exact absurd rfl (hshape entries)
  | _ => rfl

/-! ## Verdicts -/

theorem verdict_eq_ok_iff {collects : Bool} {ms : List Mismatch} :
    verdict collects ms = .ok () ↔ ms = [] := by
  cases ms with
  | nil => cases collects <;> simp [verdict, Mismatches.ofList?]
  | cons m rest => cases collects <;> simp [verdict, Mismatches.ofList?]

theorem isOk_verdict (collects : Bool) (ms : List Mismatch) :
    (verdict collects ms).isOk = ms.isEmpty := by
  cases ms with
  | nil => cases collects <;> rfl
  | cons m rest => cases collects <;> rfl

/-- Nothing is lost between the findings of a comparison that collects and its outcome. -/
theorem mismatches_verdict_true (ms : List Mismatch) : (verdict true ms).mismatches = ms := by
  cases ms with
  | nil => rfl
  | cons m rest => rfl

/-- No mode reports what was not found. -/
theorem mem_of_mem_mismatches_verdict {k : Bool} {ms : List Mismatch} {m : Mismatch}
    (h : m ∈ (verdict k ms).mismatches) : m ∈ ms := by
  have halike : (verdict k ms).mismatches <+: ms := by
    cases ms with
    | nil => cases k <;> exact List.nil_prefix
    | cons first rest =>
        cases k with
        | true => exact List.prefix_refl _
        | false => exact ⟨rest, rfl⟩
  exact halike.subset h

end Conformance
