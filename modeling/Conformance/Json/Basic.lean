import Conformance.Binary64.Basic

/-!
# JSON values

The members of an object keep the order in which they were written. A number that was written as an
integer, and is within the range of signed or unsigned words of sixty-four bits, is kept exactly; every
other number is binary64.
-/

set_option autoImplicit false

namespace Conformance

inductive Json where
  | null
  | bool (value : Bool)
  | integer (value : Int)
  | float (value : Binary64)
  | string (value : String)
  | array (items : List Json)
  | object (members : List (String × Json))
  deriving Inhabited

namespace Json

def kind : Json → String
  | .null => "null"
  | .bool _ => "boolean"
  | .integer _ | .float _ => "number"
  | .string _ => "string"
  | .array _ => "array"
  | .object _ => "object"

/-- The members with one more: a name that is there already keeps its place and takes the new value. -/
def putMember (name : String) (value : Json) : List (String × Json) → List (String × Json)
  | [] => [(name, value)]
  | (other, old) :: rest =>
    if other = name then (name, value) :: rest else (other, old) :: putMember name value rest

/-- The value of the first member with the given name. -/
def member? (json : Json) (name : String) : Option Json :=
  match json with
  | .object members => (members.find? (·.1 = name)).map (·.2)
  | _ => none

end Json

end Conformance
