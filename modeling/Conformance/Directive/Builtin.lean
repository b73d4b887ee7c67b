import Conformance.Directive.Registry

/-!
# The directives

Every directive with its constructor. `RuleError` says why a constructor may refuse its payload.
-/

set_option autoImplicit false

namespace Conformance

/-! ## Building rules -/

namespace LengthBounds

/-- Refuse bounds that say nothing, and an exact bound beside others. -/
def validate (b : LengthBounds) : Except RuleError Unit :=
  match b.eq.isSome, b.hasRelational with
  | false, false => .error .noLengthBound
  | true, true => .error .exactWithRelational
  | _, _ => .ok ()

end LengthBounds

namespace Rule

def length? (b : LengthBounds) : Except RuleError Rule := do
  b.validate
  return .length b

def pattern? (text : String) : Except RuleError Rule :=
  match Pattern.compile? text with
  | some p => .ok (.pattern p)
  | none => .error .pattern

def nonEmpty (token : String) (operands : List Expected) : Except RuleError (List Expected) :=
  if operands.isEmpty then .error (.emptyOperands token) else .ok operands

end Rule

namespace Tree

mutual

/-- Whether a rule occurs in a tree, outside other rules. -/
def hasRule {ρ : Type} : Tree ρ → Bool
  | .rule _ _ => true
  | .array items => someHasRule items
  | .document entries => someEntryHasRule entries
  | _ => false

def someHasRule {ρ : Type} : List (Tree ρ) → Bool
  | [] => false
  | t :: rest => hasRule t || someHasRule rest

def someEntryHasRule {ρ : Type} : List (String × Tree ρ) → Bool
  | [] => false
  | (_, t) :: rest => hasRule t || someEntryHasRule rest

end

end Tree

namespace Directive

/-! ## Payloads -/

def mistyped {α : Type} (expected : String) (json : Json) : Except RuleError α :=
  .error (.payload expected json.kind)

def boolean : Json → Except RuleError Bool
  | .bool b => .ok b
  | other => mistyped "boolean" other

def string : Json → Except RuleError String
  | .string s => .ok s
  | other => mistyped "string" other

def number : Json → Except RuleError Number
  | .integer i => .ok (.ofInteger i)
  | .float x => .ok (.float x)
  | other => .error (.notNumeric other.kind)

/-- The greatest length that may be written as a binary64 number. -/
def greatestFloatLength : Int := 0xFFFFFFFF

/-- A length: a number without a fraction that is not below zero. -/
def lengthNumber : Json → Except RuleError Nat
  | .integer i => if 0 ≤ i then .ok i.toNat else .error .negativeLength
  | .float x =>
    match x.toInt? with
    | none => .error .fractionalLength
    | some i =>
      if i < 0 then .error .negativeLength
      else if greatestFloatLength < i then .error (.payload "length within range" "number")
      else .ok i.toNat
  | other => mistyped "number" other

def setBound (b : LengthBounds) (member : String × Json) : Except RuleError LengthBounds :=
  match member.1 with
  | "eq" => return { b with eq := some (← lengthNumber member.2) }
  | "lt" => return { b with lt := some (← lengthNumber member.2) }
  | "lte" => return { b with lte := some (← lengthNumber member.2) }
  | "gt" => return { b with gt := some (← lengthNumber member.2) }
  | "gte" => return { b with gte := some (← lengthNumber member.2) }
  | other => .error (.unknownLengthBound other)

/-- The bounds of a payload: a number for an exact length, or an object of bounds. -/
def lengthBounds : Json → Except RuleError LengthBounds
  | .integer i => return .exactly (← lengthNumber (.integer i))
  | .float x => return .exactly (← lengthNumber (.float x))
  | .object members => members.foldlM setBound {}
  | other => mistyped "number or object" other

/-! ## Constructors -/

/-- A constructor that looks at the value of the payload only. -/
def ofJson (build : Json → Except RuleError Rule) : Constructor := fun label p =>
  return .rule label (← build p.json)

def ofOperand (build : Expected → Except RuleError Rule) : Constructor := fun label p => do
  return .rule label (← build (← p.operand))

def ofOperands (build : List Expected → Except RuleError Rule) : Constructor := fun label p => do
  return .rule label (← build (← p.operands))

def ofBound (direction : Direction) (inclusive : Bool) : Constructor :=
  ofJson fun json => return .numeric ⟨← number json, direction, inclusive⟩

/-- Equality with a tree that holds a rule would fail for every value, so the directive refuses it. -/
def buildNotEqual (e : Expected) : Except RuleError Rule :=
  if e.hasRule then .error (.payload "literal" "directive") else .ok (.notEqual e)

/-- Presence can be asked for, but not absence. -/
def buildRequired (json : Json) : Except RuleError Rule := do
  if ← boolean json then return .required else .error .requiredFalse

end Directive

namespace Registry

open Directive

def builtin : Registry := ⟨[
  ("$eq", ofOperand fun e => .ok (.equal e)),
  ("$ne", ofOperand buildNotEqual),
  ("$nil", ofJson fun json => return .nil true (← boolean json)),
  ("$notNil", ofJson fun json => return .nil false (← boolean json)),
  ("$required", ofJson buildRequired),
  ("$any", ofJson fun _ => .ok .any),
  ("$regex", ofJson fun json => do Rule.pattern? (← string json)),
  ("$elementsMatch", ofOperands fun es => .ok (.elementsMatch es)),
  ("$length", ofJson fun json => do Rule.length? (← lengthBounds json)),
  ("$empty", ofJson fun json => return .empty (← boolean json)),
  ("$lt", ofBound .below false),
  ("$lte", ofBound .below true),
  ("$gt", ofBound .above false),
  ("$gte", ofBound .above true),
  ("$in", ofOperands fun es => return .inSet (← Rule.nonEmpty "$in" es)),
  ("$and", ofOperands fun es => return .and (← Rule.nonEmpty "$and" es)),
  ("$or", ofOperands fun es => return .or (← Rule.nonEmpty "$or" es)),
  ("$nor", ofOperands fun es => return .nor (← Rule.nonEmpty "$nor" es)),
  ("$not", ofOperand fun e => .ok (.not e))]⟩

end Registry

end Conformance
