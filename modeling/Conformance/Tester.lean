import Conformance.Matcher
import Conformance.Options.Basic

/-!
# Testers

A tester compares values with expected trees under fixed options. It owns the pool of buffers that its
comparisons borrow from, so that testing gives back the tester along with the result; the result does not
depend on what was tested before.
-/

set_option autoImplicit false

namespace Conformance

structure Tester where
  options : Options
  pool : Pool KeySlots
  hash : String → UInt64

namespace Tester

def ofOptions (options : Options) : Tester :=
  ⟨options.clamped, .empty .standard, fun key => Hashable.hash key⟩

def plan (t : Tester) : LookupPlan := ⟨t.options.effectiveThreshold, t.hash⟩

/-- Whether a value satisfies an expected tree: the result, and the tester for later tests. -/
def test (t : Tester) (expected : Expected) (actual : Value) : Outcome × Tester :=
  let session : Session := ⟨.start t.options.collectAll, t.pool⟩
  let (outcome, after) := (checkTree t.plan expected actual).run session
  (after.context.finish outcome, { t with pool := after.pool })

def debug (t : Tester) : String :=
  "Tester \x7b options: " ++ t.options.debug ++ ", idle_buffers: " ++ toString t.pool.idle.length ++
    ", .. \x7d"

end Tester

end Conformance
