import Conformance.Json.Reader
import Conformance.Options.Basic

/-!
# Reading options

Options are written as an object with members named after them, or as an array with the options in their
order. What is left out has its default. A member of another name, a member that occurs twice and a value
of the wrong type are errors, each with the place that the reader had reached.
-/

set_option autoImplicit false

namespace Conformance

/-- What can be wrong with options whose text is JSON so far. -/
inductive OptionsFault where
  | unknownField (name : String)
  | duplicateField (name : String)
  | wrongType (found expected : String)
  | wrongValue (found expected : String)
  deriving DecidableEq, Inhabited

inductive OptionsError where
  | json (error : Json.ReadError)
  | invalid (fault : OptionsFault) (position : Json.Position)
  deriving DecidableEq, Inhabited

def OptionsFault.message : OptionsFault → String
  | .unknownField name =>
    "unknown field `" ++ name ++ "`, expected `small_doc_linear_threshold` or `collect_all`"
  | .duplicateField name => "duplicate field `" ++ name ++ "`"
  | .wrongType found expected => "invalid type: " ++ found ++ ", expected " ++ expected
  | .wrongValue found expected => "invalid value: " ++ found ++ ", expected " ++ expected

def OptionsError.message : OptionsError → String
  | .json error => error.message
  | .invalid fault position => position.locate fault.message

namespace Options

open Json

def foundText : Json → String
  | .null => "null"
  | .bool b => "boolean `" ++ boolText b ++ "`"
  | .integer i => "integer `" ++ toString i ++ "`"
  | .float x => "floating point `" ++ x.write .json ++ "`"
  | .string s => "string " ++ Text.quoted s
  | .array _ => "sequence"
  | .object _ => "map"

/-- A reader of a part of options. -/
abbrev Read (α : Type) := Cursor → Except OptionsError (α × Cursor)

def ofJsonStep {α : Type} (r : Except ReadError α) : Except OptionsError α := r.mapError .json

def faultAt {α : Type} (c : Cursor) (fault : OptionsFault) : Except OptionsError α :=
  .error (.invalid fault c.position)

/-- The error of a value that is not of the expected type. A scalar is read first; of an array or an
object, the opening bracket is enough. -/
def refuse {α : Type} (expected : String) (c : Cursor) : Except OptionsError α :=
  match c.rest with
  | '[' :: _ => faultAt c (.wrongType (foundText (.array [])) expected)
  | '\x7b' :: _ => faultAt c (.wrongType (foundText (.object [])) expected)
  | _ => do
    let (value, c) ← ofJsonStep (readShallow none c)
    faultAt c (.wrongType (foundText value) expected)

def readThreshold : Read Int := fun c => do
  let c := c.skipBlanks
  match c.rest with
  | [] => ofJsonStep (c.fail .endOfValue)
  | x :: _ =>
    if x = '-' || x.isDigit then
      let (value, c) ← ofJsonStep (readNumber c)
      match value with
      | .integer i =>
        if i < 0x8000000000000000 then return (i, c) else faultAt c (.wrongValue (foundText value) "i64")
      | _ => faultAt c (.wrongType (foundText value) "i64")
    else refuse "i64" c

def readFlag : Read Bool := fun c => do
  let c := c.skipBlanks
  match c.rest with
  | [] => ofJsonStep (c.fail .endOfValue)
  | x :: _ =>
    if x = 't' || x = 'f' then
      let (value, c) ← ofJsonStep (readShallow none c)
      -- only the two truth values begin with these letters
      return (foundText value = foundText (.bool true), c)
    else refuse "a boolean" c

/-- Read the end of an array of options, the cursor being behind the last of them. -/
def readArrayEnd (c : Cursor) : Except ReadError Cursor :=
  let c := c.skipBlanks
  match c.rest with
  | [] => c.fail .endOfList
  | ']' :: _ => .ok c.next
  | ',' :: _ =>
    let c := c.next.skipBlanks
    if c.rest.head? = some ']' then c.failNext .trailingComma else c.failNext .trailingCharacters
  | _ => c.failNext .trailingCharacters

/-- Read options from an array, the cursor being behind its opening bracket. -/
def readArray : Read Options := fun c => do
  let (more, c) ← ofJsonStep (nextItem true c)
  if !more then return ({}, c.next)
  let (threshold, c) ← readThreshold c
  let (more, c) ← ofJsonStep (nextItem false c)
  if !more then return ({ threshold := threshold }, c.next)
  let (collectAll, c) ← readFlag c
  return (⟨threshold, collectAll⟩, ← ofJsonStep (readArrayEnd c))

/-- The cursor behind the blanks that follow, and behind a closing bracket after them. A fault of a member's
name is put there. -/
def behindMember (c : Cursor) : Cursor :=
  let c := c.skipBlanks
  if c.rest.head? = some '\x7d' then c.next else c

/-- The options that were read, with the defaults of those that were not. -/
def complete (threshold : Option Int) (collectAll : Option Bool) : Options :=
  let standard : Options := {}
  ⟨threshold.getD standard.threshold, collectAll.getD standard.collectAll⟩

/-- Read the members of an object of options, adding them to those read before. -/
def readMembers : (room : Nat) → (first : Bool) → (threshold : Option Int) → (collectAll : Option Bool) →
    Read Options
  | 0, _, _, _, c => ofJsonStep (c.fail .endOfObject)
  | room + 1, first, threshold, collectAll, c => do
    let (more, c) ← ofJsonStep (nextMember first c)
    if !more then return (complete threshold collectAll, c.next)
    let (name, c) ← ofJsonStep (readString c)
    if name = "small_doc_linear_threshold" then
      if threshold.isSome then faultAt (behindMember c) (.duplicateField name)
      else
        let c ← ofJsonStep (readColon c)
        let (value, c) ← readThreshold c
        readMembers room false (some value) collectAll c
    else if name = "collect_all" then
      if collectAll.isSome then faultAt (behindMember c) (.duplicateField name)
      else
        let c ← ofJsonStep (readColon c)
        let (value, c) ← readFlag c
        readMembers room false threshold (some value) c
    else faultAt (behindMember c) (.unknownField name)

def read (text : String) : Except OptionsError Options := do
  let c := (Cursor.ofText text).skipBlanks
  let (options, c) ← match c.rest with
    | [] => ofJsonStep (c.fail .endOfValue)
    | '[' :: _ => readArray c.next
    | '\x7b' :: rest => readMembers (rest.length + 1) true none none c.next
    | _ => refuse "struct TesterOptions" c
  ofJsonStep (expectEnd c)
  return options

end Options

end Conformance
