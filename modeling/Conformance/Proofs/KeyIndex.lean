import Conformance.KeyIndex
import Conformance.Proofs.Entries

/-!
# A key index finds what a search finds

An index that is built into an empty buffer holds, for every hash, the position of the first entry whose
key has that hash (`getElem?_enterKeys`). Nothing is asked of the hash function, so two keys may share a
hash; the look-up then falls back on the search. In every case it gives the value of the first entry with
the key (`get_build`).
-/

set_option autoImplicit false

namespace Conformance

namespace KeyIndex

variable {α : Type}

/-- The position of the first entry whose key has a hash, the first entry having the given position. -/
def firstWithHash (hash : String → UInt64) (h : UInt64) : Nat → List (String × α) → Option Nat
  | _, [] => none
  | position, (key, _) :: rest =>
    if hash key = h then some position else firstWithHash hash h (position + 1) rest

/-- Slots that are taken stay as they are, and every other one gets the first position for its hash. -/
theorem getElem?_enterKeys (hash : String → UInt64) (h : UInt64) (entries : List (String × α))
    (position : Nat) (slots : KeySlots) :
    (enterKeys hash position entries slots)[h]?
      = slots[h]?.or (firstWithHash hash h position entries) := by
  induction entries generalizing position slots with
  | nil => simp [enterKeys, firstWithHash]
  | cons entry rest ih =>
      obtain ⟨key, value⟩ := entry
      rw [enterKeys, ih, firstWithHash, Std.HashMap.getElem?_insertIfNew]
      by_cases hkey : hash key = h
      · subst hkey
        by_cases htaken : hash key ∈ slots
        · simp [htaken]
        · simp [htaken]
      · simp [hkey]

theorem le_of_firstWithHash {hash : String → UInt64} {h : UInt64} {entries : List (String × α)}
    {start position : Nat} (hfirst : firstWithHash hash h start entries = some position) :
    start ≤ position := by
  induction entries generalizing start with
  | nil => simp [firstWithHash] at hfirst
  | cons entry rest ih =>
      rw [firstWithHash] at hfirst
      split at hfirst
      · exact Nat.le_of_eq (Option.some.inj hfirst)
      · have := ih hfirst
        omega

/-- A key whose hash is not among those of the entries is not among their keys. -/
theorem lookup_eq_none_of_firstWithHash {hash : String → UInt64} {key : String}
    {entries : List (String × α)} {start : Nat}
    (hnone : firstWithHash hash (hash key) start entries = none) : lookup key entries = none := by
  induction entries generalizing start with
  | nil => rfl
  | cons entry rest ih =>
      rw [firstWithHash] at hnone
      split at hnone
      · cases hnone
      · rename_i hne
        have hkey : entry.1 ≠ key := fun heq => hne (by rw [heq])
        rw [lookup_cons_of_ne hkey]
        exact ih hnone

/-- The first entry with the hash of a key is the first entry with the key, if it has the key at all: an
earlier one with the key would have the hash too. -/
theorem lookup_of_firstWithHash {hash : String → UInt64} {key : String} {entries : List (String × α)}
    {start position : Nat}
    (hfirst : firstWithHash hash (hash key) start entries = some position) :
    ∃ entry, entries[position - start]? = some entry ∧
      (entry.1 = key → lookup key entries = some entry.2) := by
  induction entries generalizing start with
  | nil => simp [firstWithHash] at hfirst
  | cons entry rest ih =>
      rw [firstWithHash] at hfirst
      split at hfirst
      · have hpos : start = position := Option.some.inj hfirst
        refine ⟨entry, by simp [hpos], ?_⟩
        rintro rfl
        exact List.lookup_cons_self
      · rename_i hne
        have hkey : entry.1 ≠ key := fun heq => hne (by rw [heq])
        have hle := le_of_firstWithHash hfirst
        obtain ⟨found, hat, hlookup⟩ := ih hfirst
        have hshift : position - start = position - (start + 1) + 1 := by omega
        refine ⟨found, by rw [hshift, List.getElem?_cons_succ, hat], fun heq => ?_⟩
        rw [lookup_cons_of_ne hkey]
        exact hlookup heq

/-- **An index in an empty buffer finds the first entry with a key**, whatever the hash function. -/
theorem get_build (hash : String → UInt64) (entries : List (String × α)) (key : String) :
    (build hash entries ∅).get key = lookup key entries := by
  have hslots : (enterKeys hash 0 entries (∅ : KeySlots))[hash key]?
      = firstWithHash hash (hash key) 0 entries := by
    rw [getElem?_enterKeys]
    simp
  simp only [get, build, hslots]
  cases hfirst : firstWithHash hash (hash key) 0 entries with
  | none => exact (lookup_eq_none_of_firstWithHash hfirst).symm
  | some position =>
      obtain ⟨entry, hat, hlookup⟩ := lookup_of_firstWithHash hfirst
      rw [Nat.sub_zero] at hat
      simp only [List.getElem?_toArray, hat]
      split
      · rename_i hkey
        exact (hlookup hkey).symm
      · rfl

end KeyIndex

end Conformance
