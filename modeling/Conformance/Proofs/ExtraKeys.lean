import Conformance.Proofs.Entries
import Conformance.Proofs.Findings

/-!
# Keys that should not be there

A strict document is checked like any other one, and then every key of the value that it does not have is
reported, once, at its first occurrence. The search goes through the value and adds each key that it reports to
those that it knows. `extraKeys_eq` says what comes of it without that list: the other keys are filtered out, and
then repetitions are erased.
-/

set_option autoImplicit false

namespace Conformance

def Mismatch.extraKey (key : String) : Mismatch :=
  ⟨⟨[.key key]⟩, "unexpected extra key " ++ Text.quoted key ++ " (strict $eq)"⟩

/-- The keys of a document without the known ones, and without repetitions. -/
def keysBeyond (known : List String) (actual : List (String × Value)) : List String :=
  ((actual.map Prod.fst).filter (· ∉ known)).eraseDups

/-- The search with a growing list of known keys comes to a filter and the removal of repetitions. -/
theorem extraKeys_eq (known : List String) (actual : List (String × Value)) :
    Check.extraKeys known actual = keysBeyond known actual := by
  induction actual generalizing known with
  | nil => rfl
  | cons entry rest ih =>
      obtain ⟨key, value⟩ := entry
      rw [Check.extraKeys, keysBeyond, List.map_cons]
      by_cases hknown : key ∈ known
      · have hdropped : (key :: rest.map Prod.fst).filter (· ∉ known) = (rest.map Prod.fst).filter (· ∉ known) :=
          List.filter_cons_of_neg (by simpa using hknown)
        rw [if_pos (List.contains_iff_mem.mpr hknown), ih, hdropped]
        rfl
      · have hkept : (key :: rest.map Prod.fst).filter (· ∉ known)
            = key :: (rest.map Prod.fst).filter (· ∉ known) :=
          List.filter_cons_of_pos (by simpa using hknown)
        have hno : ¬ known.contains key = true := fun h => hknown (List.contains_iff_mem.mp h)
        -- to know a key from now on is to erase it from the rest
        have hrest : (rest.map Prod.fst).filter (· ∉ key :: known)
            = ((rest.map Prod.fst).filter (· ∉ known)).filter (fun name => !name == key) := by
          rw [List.filter_filter]
          refine List.filter_congr fun name _ => ?_
          by_cases hname : name = key
          · simp [hname]
          · simp [hname]
        rw [if_neg hno, ih, hkept, List.eraseDups_cons, ← hrest]
        rfl

theorem mem_extraKeys {known : List String} {actual : List (String × Value)} {key : String} :
    key ∈ Check.extraKeys known actual ↔ key ∈ actual.map Prod.fst ∧ key ∉ known := by
  rw [extraKeys_eq, keysBeyond, List.mem_eraseDups, List.mem_filter, decide_eq_true_iff]

/-- Each extra key is reported once. -/
theorem nodup_extraKeys (known : List String) (actual : List (String × Value)) :
    (Check.extraKeys known actual).Nodup := by
  induction actual generalizing known with
  | nil => exact List.nodup_nil
  | cons entry rest ih =>
      rw [Check.extraKeys]
      split
      · exact ih known
      · have hfresh : entry.1 ∉ Check.extraKeys (entry.1 :: known) rest :=
          fun hmem => (mem_extraKeys.mp hmem).2 List.mem_cons_self
        exact List.nodup_cons.mpr ⟨hfresh, ih (entry.1 :: known)⟩

/-- A key that should not be there is a key of the document. -/
theorem exists_lookup_of_mem_extraKeys {known : List String} {actual : List (String × Value)} {key : String}
    (h : key ∈ Check.extraKeys known actual) : ∃ v, lookup key actual = some v :=
  exists_lookup_of_mem_keys (mem_extraKeys.mp h).1

/-- The mismatches at the keys that a document has beyond those of an expected one. -/
def extraReport (entries : List (String × Expected)) : Value → List Mismatch
  | .document actual => (keysBeyond (entries.map Prod.fst) actual).map Mismatch.extraKey
  | _ => []

/-- What is found at a strict document is what is found at the document, and then the extra keys. -/
theorem findTree_strict_eq (k : Bool) (label : Label) (entries : List (String × Expected)) (a : Value) :
    findTree k (.rule label (.equal (.document entries))) a
      = findTree k (.document entries) a ++ extraReport entries a := by
  cases a with
  | document actual =>
      have hextras : ∀ keys : List String, keys.flatMap Find.extra = keys.map Mismatch.extraKey := by
        intro keys
        exact List.flatMap_pure_eq_map Mismatch.extraKey keys
      rw [findTree_strict, ← findTree_document, hextras, extraKeys_eq]
      rfl
  | _ => exact (List.append_nil _).symm

end Conformance
