import Conformance.Matcher

/-!
# Trees without custom rules

`Builtin e` says that the rules of an expected tree are those that have a directive. A custom rule may look
at the mode and change its mind about a value, so that what is said of satisfaction and of the two modes
holds of these trees only. The operands of combinators are trees of this kind again; the payload of a
`notEqual` is only compared with, and may be anything.
-/

set_option autoImplicit false

namespace Conformance

/-- No rule of the tree is custom. -/
inductive Builtin : Expected → Prop where
  | null : Builtin .null
  | bool (b : Bool) : Builtin (.bool b)
  | int (i : Int) : Builtin (.int i)
  | float (x : Binary64) : Builtin (.float x)
  | string (s : String) : Builtin (.string s)
  | array {items : List Expected} (h : ∀ e ∈ items, Builtin e) : Builtin (.array items)
  | document {entries : List (String × Expected)} (h : ∀ entry ∈ entries, Builtin entry.2) :
      Builtin (.document entries)
  | strict (label : Label) {entries : List (String × Expected)}
      (h : ∀ entry ∈ entries, Builtin entry.2) : Builtin (.rule label (.equal (.document entries)))
  | same (label : Label) {e : Expected} (hshape : ∀ entries, e ≠ .document entries) (h : Builtin e) :
      Builtin (.rule label (.equal e))
  | notEqual (label : Label) (e : Expected) : Builtin (.rule label (.notEqual e))
  | nil (label : Label) (target explicit : Bool) : Builtin (.rule label (.nil target explicit))
  | required (label : Label) : Builtin (.rule label .required)
  | any (label : Label) : Builtin (.rule label .any)
  | empty (label : Label) (want : Bool) : Builtin (.rule label (.empty want))
  | pattern (label : Label) (p : Pattern) : Builtin (.rule label (.pattern p))
  | elementsMatch (label : Label) {es : List Expected} (h : ∀ e ∈ es, Builtin e) :
      Builtin (.rule label (.elementsMatch es))
  | length (label : Label) (bounds : LengthBounds) : Builtin (.rule label (.length bounds))
  | inSet (label : Label) {es : List Expected} (h : ∀ e ∈ es, Builtin e) :
      Builtin (.rule label (.inSet es))
  | numeric (label : Label) (bound : NumericBound) : Builtin (.rule label (.numeric bound))
  | and (label : Label) {es : List Expected} (h : ∀ e ∈ es, Builtin e) : Builtin (.rule label (.and es))
  | or (label : Label) {es : List Expected} (h : ∀ e ∈ es, Builtin e) : Builtin (.rule label (.or es))
  | nor (label : Label) {es : List Expected} (h : ∀ e ∈ es, Builtin e) : Builtin (.rule label (.nor es))
  | not (label : Label) {e : Expected} (h : Builtin e) : Builtin (.rule label (.not e))

end Conformance
