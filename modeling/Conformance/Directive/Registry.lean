import Conformance.Directive.Error
import Conformance.Json.Reader
import Conformance.Rule.Basic

/-!
# Registries of directives

A registry maps directive tokens to constructors. Decoding turns every object whose only member is a
registered token into what the constructor of that token makes of the member's value, the payload. All
other objects become documents, with their members in order.

A payload comes to its constructor together with what decoding makes of it and of all its parts, so that a
constructor takes what it needs and never has to decode anything itself. Every rule is labelled by the
place of its directive in the decoded value.
-/

set_option autoImplicit false

namespace Conformance

/-- A payload of a directive: its value, the label of a rule made from it, what decoding makes of it, and
the same for its items or the values of its members. -/
structure Payload where
  json : Json
  label : Label
  decoded : Except DecodeError Expected
  parts : List Payload

/-- A constructor builds an expected tree from the label of the directive and its payload. -/
abbrev Constructor := Label → Payload → Except RuleError Expected

/-- A table of directives. No token occurs twice. -/
structure Registry where
  entries : List (String × Constructor)

namespace Registry

def empty : Registry := ⟨[]⟩

def find? (r : Registry) (token : String) : Option Constructor := lookup token r.entries

def contains (r : Registry) (token : String) : Bool := (r.find? token).isSome

def unregister (r : Registry) (token : String) : Registry := ⟨r.entries.filter (·.1 != token)⟩

/-- The registry with a token, in the place of the constructor it may have had. -/
def register (r : Registry) (token : String) (c : Constructor) : Registry :=
  ⟨(token, c) :: (r.unregister token).entries⟩

/-- The registered tokens, sorted. -/
def tokens (r : Registry) : List String := (r.entries.map (·.1)).mergeSort fun a b => !(b < a)

def debug (r : Registry) : String :=
  "Registry \x7b tokens: [" ++ ", ".intercalate (r.tokens.map Text.quoted) ++ "] \x7d"

end Registry

/-! ## Decoding -/

/-- The result with the error of an item put at its position. -/
def atIndex {α : Type} (position : Nat) (r : Except DecodeError α) : Except DecodeError α :=
  r.mapError (·.under ⟨[.index position]⟩)

/-- The result with the error of a member put at its key. -/
def atKey {α : Type} (key : String) (r : Except DecodeError α) : Except DecodeError α :=
  r.mapError (·.under ⟨[.key key]⟩)

/-- What decoding makes of several items, the first of which has the given position: all of them, or the
error of the first one that fails. -/
def decodedItems : (position : Nat) → List Payload → Except DecodeError (List Expected)
  | _, [] => .ok []
  | position, p :: rest => do
    let e ← atIndex position p.decoded
    return e :: (← decodedItems (position + 1) rest)

def decodedEntries : List (String × Payload) → Except DecodeError (List (String × Expected))
  | [] => .ok []
  | (key, p) :: rest => do
    let e ← atKey key p.decoded
    return (key, e) :: (← decodedEntries rest)

/-- The result of a constructor: an error of an operand is passed on, and any other one is put at the
directive. -/
def ofConstructor (token : String) (r : Except RuleError Expected) : Except DecodeError Expected :=
  match r with
  | .ok e => .ok e
  | .error (.nested inner) => .error inner
  | .error source => .error (.directive token .root source)

def Registry.directive? (r : Registry) (members : List (String × Payload)) :
    Option (String × Constructor × Payload) :=
  match members with
  | [(token, payload)] => (r.find? token).map fun c => (token, c, payload)
  | _ => none

def Registry.decodedObject (r : Registry) (label : Label) (members : List (String × Payload)) :
    Except DecodeError Expected :=
  -- of two members neither is a directive, whatever they are called
  match r.directive? members with
  | some (token, c, payload) => ofConstructor token (c label payload)
  | none => (decodedEntries members).map .document

namespace Registry

mutual

/-- A JSON value as a payload, labelled. -/
def payload (r : Registry) (label : Label) : Json → Payload
  | .array items =>
    let parts := payloadItems r label 0 items
    ⟨.array items, label, (decodedItems 0 parts).map .array, parts⟩
  | .object members =>
    let parts := payloadMembers r label 0 members
    ⟨.object members, label, r.decodedObject label parts, parts.map (·.2)⟩
  | .null => ⟨.null, label, .ok .null, []⟩
  | .bool b => ⟨.bool b, label, .ok (.bool b), []⟩
  | .integer i => ⟨.integer i, label, .ok (.ofNumber (.ofInteger i)), []⟩
  | .float x => ⟨.float x, label, .ok (.float x), []⟩
  | .string s => ⟨.string s, label, .ok (.string s), []⟩

/-- The payloads of the items of an array, the first of which has the given position. -/
def payloadItems (r : Registry) (label : Label) : (position : Nat) → List Json → List Payload
  | _, [] => []
  | position, x :: rest => payload r (position :: label) x :: payloadItems r label (position + 1) rest

def payloadMembers (r : Registry) (label : Label) :
    (position : Nat) → List (String × Json) → List (String × Payload)
  | _, [] => []
  | position, (key, x) :: rest =>
    (key, payload r (position :: label) x) :: payloadMembers r label (position + 1) rest

end

/-- Decode a JSON value into an expected tree. Rules of different origins are different objects. -/
def decode (r : Registry) (origin : Nat) (json : Json) : Except DecodeError Expected :=
  (r.payload [origin] json).decoded

def decodeText (r : Registry) (origin : Nat) (text : String) : Except DecodeError Expected :=
  match Json.read text with
  | .error error => .error (.json error)
  | .ok json => r.decode origin json

end Registry

/-! ## Operands -/

namespace Payload

def operand (p : Payload) : Except RuleError Expected := p.decoded.mapError .nested

/-- The items of a payload as operands of a directive; it has to be an array. -/
def operands (p : Payload) : Except RuleError (List Expected) :=
  match p.json with
  | .array _ => (decodedItems 0 p.parts).mapError .nested
  | other => .error (.payload "array" other.kind)

end Payload

end Conformance
