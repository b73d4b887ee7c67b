import Conformance.Tree.Basic
import Std.Data.HashMap

/-!
# Key indices

A key index finds the first entry with a key without going through the document. It maps the hash of each
key to the position of the first entry whose key has that hash. If the entry there has another key after
all, the document is searched from its start.
-/

set_option autoImplicit false

namespace Conformance

/-- The buffer of a key index: positions by hash. -/
abbrev KeySlots := Std.HashMap UInt64 Nat

structure KeyIndex (α : Type) where
  hash : String → UInt64
  entries : List (String × α)
  byPosition : Array (String × α)
  slots : KeySlots

namespace KeyIndex

variable {α : Type}

/-- Enter the keys of entries, the first of which has the given position. A hash that is taken stays. -/
def enterKeys (hash : String → UInt64) : (position : Nat) → List (String × α) → KeySlots → KeySlots
  | _, [], slots => slots
  | position, (key, _) :: rest, slots =>
    enterKeys hash (position + 1) rest (slots.insertIfNew (hash key) position)

def build (hash : String → UInt64) (entries : List (String × α)) (slots : KeySlots) : KeyIndex α :=
  ⟨hash, entries, entries.toArray, enterKeys hash 0 entries slots⟩

/-- The value of the first entry with a key. -/
def get (index : KeyIndex α) (key : String) : Option α :=
  match index.slots[index.hash key]? with
  | none => none
  | some position =>
    -- the entry there may have another key with this hash
    match index.byPosition[position]? with
    | some (k, v) => if k = key then some v else lookup key index.entries
    | none => lookup key index.entries

end KeyIndex

end Conformance
