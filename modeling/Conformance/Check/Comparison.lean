import Conformance.Context
import Conformance.KeyIndex
import Conformance.Pool.Basic

/-!
# Running comparisons

A comparison works on a session: the context, and the pool from which key indices borrow their buffers. It
succeeds or stops with a failure, and the session comes back in both cases.

Two ways of running a comparison inside another one leave no trace in the context: `isolated` runs it at
the same place with nothing collected and gives its result as a value, and `apart` runs it in a context of
its own.
-/

set_option autoImplicit false

namespace Conformance

/-- What a comparison works on. -/
structure Session where
  context : Context
  pool : Pool KeySlots

/-- A step of a comparison. -/
abbrev Comparison (α : Type) := ExceptT Failure (StateM Session) α

namespace Comparison

def context : Comparison Context := return (← get).context

def onContext (action : Context → Outcome × Context) : Comparison Unit :=
  ExceptT.mk fun s =>
    let (outcome, cx) := action s.context
    (outcome, { s with context := cx })

def report (m : Mismatch) : Comparison Unit := onContext (·.report m)

def reportAll (failure : Failure) : Comparison Unit := onContext (·.reportAll failure)

def reportHere (message : String) : Comparison Unit := onContext (·.reportHere message)

/-- Report a message one step below the place of the context. -/
def reportAt (s : Segment) (message : String) : Comparison Unit := onContext (·.reportAt s message)

/-- Report several mismatches one after the other, as seen from further up. -/
def reportUnder (base : Path) : List Mismatch → Comparison Unit
  | [] => pure ()
  | m :: rest => do
    report (m.under base)
    reportUnder base rest

/-- Stop with a message at the place of the context, whether mismatches are collected or not. -/
def fail (message : String) : Comparison Unit := do
  throw (.single ((← context).mismatch message))

/-- Run a comparison one step further down. The context comes back up also from a failure. -/
def within (s : Segment) (c : Comparison Unit) : Comparison Unit :=
  ExceptT.mk fun session =>
    let (outcome, after) := c.run { session with context := session.context.enter s }
    (outcome, { after with context := after.context.leave })

def attempt (c : Comparison Unit) : Comparison Outcome :=
  ExceptT.mk fun session =>
    let (outcome, after) := c.run session
    (.ok outcome, after)

/-- Run a comparison in a context of its own: its outcome, and that context at its end. -/
def apart (cx : Context) (c : Comparison Unit) : Comparison (Outcome × Context) :=
  ExceptT.mk fun session =>
    let (outcome, after) := c.run { session with context := cx }
    (.ok (outcome, after.context), { after with context := session.context })

def resultIn (cx : Context) (c : Comparison Unit) : Comparison Outcome := do
  let (outcome, after) ← apart cx c
  return after.finish outcome

/-- The result of a comparison at the same place, with nothing collected before. -/
def isolated (c : Comparison Unit) : Comparison Outcome := do
  resultIn (← context).isolated c

def ofOutcome : Outcome → Comparison Unit
  | .ok () => pure ()
  | .error failure => throw failure

/-- Run a comparison with a key index of a document. The buffer of the index goes back to the pool when the
comparison is over, however it ends. -/
def withIndex {α : Type} (hash : String → UInt64) (entries : List (String × α))
    (c : KeyIndex α → Comparison Unit) : Comparison Unit :=
  ExceptT.mk fun session =>
    let (buffer, pool) := session.pool.acquire
    let index := KeyIndex.build hash entries buffer
    let (outcome, after) := (c index).run { session with pool := pool }
    (outcome, { after with pool := after.pool.release index.slots })

end Comparison

/-- What is expected of a value, as the comparison that finds out. -/
abbrev Check := Value → Comparison Unit

end Conformance
