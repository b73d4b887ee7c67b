import Conformance.Path

/-!
# Mismatches and failures

A mismatch is what a comparison found wrong at one place. A failed comparison has either the one mismatch
at which it stopped or the list of all that it collected, which is never empty.
-/

set_option autoImplicit false

namespace Conformance

/-- One thing that is wrong, and the place where it is wrong. -/
structure Mismatch where
  path : Path
  message : String
  deriving DecidableEq, Inhabited

namespace Mismatch

/-- The same mismatch seen from further up: its path continues `base`. -/
def under (base : Path) (m : Mismatch) : Mismatch := { m with path := base.join m.path }

/-- The text of a mismatch; at the root there is no path to show. -/
def text (m : Mismatch) : String :=
  if m.path.isRoot then m.message else m.path.text ++ ": " ++ m.message

def debug (m : Mismatch) : String :=
  "MismatchError \x7b path: " ++ m.path.debug ++ ", message: " ++ Text.quoted m.message ++ " \x7d"

@[simp] theorem under_root (m : Mismatch) : m.under .root = m := rfl

/-- To move a mismatch down twice is to move it down along the joined path. -/
theorem under_under (p q : Path) (m : Mismatch) : (m.under q).under p = m.under (p.join q) := by
  simp [under, Path.join_assoc]

end Mismatch

/-- Mismatches in the order in which they were found, at least one. -/
structure Mismatches where
  first : Mismatch
  rest : List Mismatch
  deriving DecidableEq, Inhabited

namespace Mismatches

def ofList? : List Mismatch → Option Mismatches
  | [] => none
  | first :: rest => some ⟨first, rest⟩

def toList (ms : Mismatches) : List Mismatch := ms.first :: ms.rest

def size (ms : Mismatches) : Nat := ms.rest.length + 1

/-- The text of a list of mismatches: how many there are, and the first one. -/
def text (ms : Mismatches) : String :=
  if ms.rest.isEmpty then ms.first.text
  else toString ms.size ++ " mismatches (first: " ++ ms.first.text ++ ")"

@[simp] theorem length_toList (ms : Mismatches) : ms.toList.length = ms.size := rfl

@[simp] theorem ofList?_toList (ms : Mismatches) : ofList? ms.toList = some ms := rfl

end Mismatches

inductive Failure where
  /-- The mismatch at which the comparison stopped. -/
  | single (mismatch : Mismatch)
  /-- Every mismatch that was collected. -/
  | several (mismatches : Mismatches)
  deriving DecidableEq, Inhabited

namespace Failure

def mismatches : Failure → List Mismatch
  | .single m => [m]
  | .several ms => ms.toList

def first : Failure → Mismatch
  | .single m => m
  | .several ms => ms.first

def text : Failure → String
  | .single m => m.text
  | .several ms => ms.text

end Failure

/-- How a comparison, or a part of one, came out. -/
abbrev Outcome := Except Failure Unit

end Conformance
