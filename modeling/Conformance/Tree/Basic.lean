import Conformance.Json.Basic
import Conformance.Number

/-!
# Trees

A tree is a JSON-like value. Documents are lists of entries in order, and a key may occur more than once;
a look-up finds the first entry. A node can also be a rule. What a rule node carries is a parameter: the
rules themselves on the side of the expectation, and only a text to show on the side of the value that is
checked. Its label tells a rule object from every other one, whatever the two contain.
-/

set_option autoImplicit false

namespace Conformance

/-- The identity of a rule object. Copies of an object keep its label. -/
abbrev Label := List Nat

/-- A tree whose rule nodes carry a `ρ`. -/
inductive Tree (ρ : Type) where
  | null
  | bool (value : Bool)
  | int (value : Int)
  | float (value : Binary64)
  | string (value : String)
  | array (items : List (Tree ρ))
  | document (entries : List (String × Tree ρ))
  | rule (label : Label) (content : ρ)
  deriving Inhabited

/-- A tree whose rule nodes carry only their structural form. -/
abbrev Value := Tree String

-- `lookup key entries` is the value of the first entry with the key.
export List (lookup)

namespace Tree

variable {ρ : Type}

def kind : Tree ρ → String
  | .null => "null"
  | .bool _ => "bool"
  | .int _ => "int"
  | .float _ => "float"
  | .string _ => "string"
  | .array _ => "array"
  | .document _ => "document"
  | .rule _ _ => "rule"

def ofNumber : Number → Tree ρ
  | .int i => .int i
  | .float x => .float x

def number? : Tree ρ → Option Number
  | .int i => some (.int i)
  | .float x => some (.float x)
  | _ => none

def string? : Tree ρ → Option String
  | .string s => some s
  | _ => none

def isNull : Tree ρ → Bool
  | .null => true
  | _ => false

/-- Whether a node is the zero of its type: `null`, `false`, a zero or the empty string. Arrays, documents
and rules never are. -/
def isZero : Tree ρ → Bool
  | .null => true
  | .bool b => !b
  | .int i => i == 0
  | .float x => x.isZero
  | .string s => s.isEmpty
  | .array _ | .document _ | .rule _ _ => false

/-- The number of elements of an array, or of entries of a document. -/
def length? : Tree ρ → Option Nat
  | .array items => some items.length
  | .document entries => some entries.length
  | _ => none

/-- Whether a node is empty: an array or document of length zero, or a zero. -/
def isEmpty : Tree ρ → Bool
  | .array items => items.isEmpty
  | .document entries => entries.isEmpty
  | other => other.isZero

end Tree

/-- The number that a JSON integer is: one beyond the signed range becomes binary64. -/
def Number.ofInteger (i : Int) : Number :=
  if i < 0x8000000000000000 then .int i else .float (.ofInt i)

namespace Tree

variable {ρ : Type}

mutual

/-- The tree of plain data that a JSON value is. Every object becomes a document. -/
def ofJson : Json → Tree ρ
  | .null => .null
  | .bool b => .bool b
  | .integer i => .ofNumber (.ofInteger i)
  | .float x => .float x
  | .string s => .string s
  | .array items => .array (ofJsonItems items)
  | .object members => .document (ofJsonMembers members)

def ofJsonItems : List Json → List (Tree ρ)
  | [] => []
  | x :: rest => ofJson x :: ofJsonItems rest

def ofJsonMembers : List (String × Json) → List (String × Tree ρ)
  | [] => []
  | (key, x) :: rest => (key, ofJson x) :: ofJsonMembers rest

end

theorem ofJsonItems_eq_map (items : List Json) :
    (ofJsonItems items : List (Tree ρ)) = items.map ofJson := by
  induction items with
  | nil => rfl
  | cons x rest ih => rw [ofJsonItems, ih, List.map_cons]

theorem ofJsonMembers_eq_map (members : List (String × Json)) :
    (ofJsonMembers members : List (String × Tree ρ)) = members.map fun m => (m.1, ofJson m.2) := by
  induction members with
  | nil => rfl
  | cons m rest ih => rw [ofJsonMembers, ih, List.map_cons]

end Tree

end Conformance
