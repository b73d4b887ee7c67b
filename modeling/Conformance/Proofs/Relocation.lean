import Conformance.Proofs.Checks

/-!
# Comparisons in their place and at the root

A comparison may be started anywhere: at any path, with any mismatches collected before. `Relocates` says
that where it is started makes no difference but for the paths. Compared with the same comparison at the
root, every mismatch has the path of the place put in front, and what was collected before is still there,
untouched and in front of what is new. The path of the context is back at the end, whatever happened.

The main statement is that the comparison with every expected tree is of this kind, whatever its custom
rules do, with any plan for look-ups and any pools.
-/

set_option autoImplicit false

namespace Conformance

namespace Context

/-- What became of a context in which a comparison ran, beside what became of a root context of the same
mode in which it ran too. -/
structure Relocates (cx : Context) (atRoot here : Outcome × Context) : Prop where
  path : here.2.path = cx.path
  collects : here.2.collects = cx.collects
  /-- Where mismatches are collected, those found at the root are added in the same order. -/
  collecting : cx.collects = true → here.1 = .ok () ∧
    here.2.collected = cx.collected ++ atRoot.2.collected.map (Mismatch.under cx.path)
  /-- Elsewhere nothing is added, and the comparison stops with the mismatch of the one at the root. -/
  stopping : cx.collects = false → here.2.collected = cx.collected ∧
    ∀ failure, here.1 = .error failure ↔
      ∃ m, atRoot.1 = .error (.single m) ∧ failure = .single (m.under cx.path)

theorem collected_tell_start (ms : List Mismatch) : ((start true).tell ms).2.collected = ms := by
  have htold : (start true).tell ms = (.ok (), { start true with collected := ms }) := by
    rw [tell_of_collects rfl, map_under_start]
    rfl
  rw [htold]

/-- To be told the same findings is relocation. -/
theorem relocates_tell (cx : Context) (ms : List Mismatch) :
    cx.Relocates ((start cx.collects).tell ms) (cx.tell ms) where
  path := path_tell cx ms
  collects := collects_tell cx ms
  collecting := by
    intro hk
    rw [tell_of_collects hk, hk, collected_tell_start]
    exact ⟨rfl, rfl⟩
  stopping := by
    intro hk
    have hroot : (start false).tell ms = (verdict false ms, start false) := by
      rw [tell_of_not_collects rfl, map_under_start]
    rw [tell_of_not_collects hk, hk, hroot]
    refine ⟨rfl, fun failure => ?_⟩
    -- both verdicts are on the first finding alone, if there is one
    cases ms with
    | nil =>
        constructor
        · intro h
          cases h
        · rintro ⟨m, h, -⟩
          cases h
    | cons first rest =>
        have hhere : verdict false ((first :: rest).map (Mismatch.under cx.path))
            = .error (.single (first.under cx.path)) := rfl
        have hthere : verdict false (first :: rest) = .error (.single first) := rfl
        rw [hhere, hthere]
        constructor
        · intro h
          exact ⟨first, rfl, (Except.error.inj h).symm⟩
        · rintro ⟨m, hm, rfl⟩
          have hfirst : first = m := Failure.single.inj (Except.error.inj hm)
          rw [hfirst]

end Context

/-- **A comparison is the same everywhere, but for the paths.** -/
theorem checkTree_relocates (plan : LookupPlan) (e : Expected) (a : Value) (cx : Context)
    (pool rootPool : Pool KeySlots) :
    cx.Relocates ((checkTree plan e a).effect (.start cx.collects) rootPool)
      ((checkTree plan e a).effect cx pool) := by
  have hhere := (checkTree_finds cx.collects plan e a cx rfl).effect_eq pool
  have hroot := (checkTree_finds cx.collects plan e a (.start cx.collects) rfl).effect_eq rootPool
  rw [hhere, hroot]
  exact cx.relocates_tell (findTree cx.collects e a)

end Conformance
