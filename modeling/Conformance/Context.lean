import Conformance.Mismatch

/-!
# Contexts

A context is the state of a running comparison: the path of the node it is at, whether mismatches are
collected, and those collected so far. Reporting a mismatch to a context that collects adds it to the
list, and the comparison goes on; any other context hands the mismatch back as the failure to stop with.

Actions on a context are functions from a context to an outcome and a context. The context comes back also
when the outcome is a failure, so that a path can be restored and nothing collected is lost.
-/

set_option autoImplicit false

namespace Conformance

/-- The state of a running comparison. -/
structure Context where
  path : Path
  collects : Bool
  collected : List Mismatch
  deriving Inhabited

namespace Context

/-- A context at a path, with nothing collected. -/
def startAt (path : Path) (collects : Bool) : Context := ⟨path, collects, []⟩

def start (collects : Bool) : Context := startAt .root collects

/-- A context at the same place and of the same kind, with nothing collected. -/
def isolated (cx : Context) : Context := startAt cx.path cx.collects

def enter (cx : Context) (s : Segment) : Context := { cx with path := cx.path.push s }

def leave (cx : Context) : Context := { cx with path := cx.path.pop }

def mismatch (cx : Context) (message : String) : Mismatch := ⟨cx.path, message⟩

/-- Collect a mismatch, or stop with it. -/
def report (cx : Context) (m : Mismatch) : Outcome × Context :=
  if cx.collects then (.ok (), { cx with collected := cx.collected ++ [m] })
  else (.error (.single m), cx)

/-- Collect every mismatch of a failure, or stop with the whole failure. -/
def reportAll (cx : Context) (failure : Failure) : Outcome × Context :=
  if cx.collects then (.ok (), { cx with collected := cx.collected ++ failure.mismatches })
  else (.error failure, cx)

def reportHere (cx : Context) (message : String) : Outcome × Context :=
  cx.report (cx.mismatch message)

/-- Report a message one step below the place of the context. -/
def reportAt (cx : Context) (s : Segment) (message : String) : Outcome × Context :=
  cx.report ⟨cx.path.push s, message⟩

/-- The result of a comparison: its own failure, or else the mismatches collected on the way. -/
def finish (cx : Context) (outcome : Outcome) : Outcome :=
  match outcome with
  | .error failure => .error failure
  | .ok () =>
    -- nothing is collected where the comparison stops, so that this is success there
    match Mismatches.ofList? cx.collected with
    | none => .ok ()
    | some ms => .error (.several ms)

@[simp] theorem leave_enter (cx : Context) (s : Segment) : (cx.enter s).leave = cx := by
  cases cx
  simp [enter, leave]

end Context

end Conformance
