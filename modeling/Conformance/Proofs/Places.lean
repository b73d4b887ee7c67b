import Conformance.Proofs.Checks
import Conformance.Proofs.Origins

/-!
# The places of mismatches

`Tree.walk` follows a path down a tree: a key leads to the first entry with that key, an index to the element
there. The paths of mismatches are put together from keys and positions of the *expected* tree. The main
statement is that they are places of the value that is checked. A mismatch is either at a node of the value,
or it says that a key was not found, and then it is one step below a document of the value that lacks the key.
The message tells the two apart.
-/

set_option autoImplicit false

namespace Conformance

/-! ## Walking down a tree -/

namespace Tree

variable {ρ : Type}

def child : Segment → Tree ρ → Option (Tree ρ)
  | .key name, .document entries => lookup name entries
  | .index position, .array items => items[position]?
  | _, _ => none

/-- The node that the steps of a path lead to. -/
def walk : List Segment → Tree ρ → Option (Tree ρ)
  | [], t => some t
  | s :: rest, t => (child s t).bind (walk rest)

theorem walk_cons_of_child {s : Segment} {t v : Tree ρ} (h : child s t = some v) (rest : List Segment) :
    walk (s :: rest) t = walk rest v := by
  rw [walk, h, Option.bind_some]

end Tree

namespace Mismatch

/-- The mismatch is at a node of the value, and is not about a key that was not found. -/
structure AtNode (a : Value) (m : Mismatch) : Prop where
  leads : ∃ node, a.walk m.path.segments = some node
  message : m.message ≠ "key not found"

/-- The mismatch is about a key that was not found: its path ends in that key, and what comes before leads to
a document without it. -/
structure AtMissingKey (a : Value) (m : Mismatch) : Prop where
  place : ∃ steps key entries, m.path.segments = steps ++ [.key key] ∧
    a.walk steps = some (.document entries) ∧ ∀ entry ∈ entries, entry.1 ≠ key
  message : m.message = "key not found"

/-- The mismatch is at a place of the value, or at a key that a document of the value lacks. -/
def Placed (a : Value) (m : Mismatch) : Prop := m.AtNode a ∨ m.AtMissingKey a

/-- What is placed in a node is placed in the whole, once the step to the node is put in front. -/
theorem Placed.below {a v : Value} {s : Segment} {m : Mismatch} (h : m.Placed v)
    (hchild : a.child s = some v) : (m.under (Path.root.push s)).Placed a := by
  have hsegments : (m.under (Path.root.push s)).path.segments = s :: m.path.segments := rfl
  rcases h with ⟨⟨node, hnode⟩, hmessage⟩ | ⟨⟨steps, key, entries, hpath, hwalk, hlacks⟩, hmessage⟩
  · refine .inl ⟨⟨node, ?_⟩, hmessage⟩
    rw [hsegments, Tree.walk_cons_of_child hchild, hnode]
  · refine .inr ⟨⟨s :: steps, key, entries, ?_, ?_, hlacks⟩, hmessage⟩
    · rw [hsegments, hpath, List.cons_append]
    · rw [Tree.walk_cons_of_child hchild, hwalk]

end Mismatch

def AllPlaced (a : Value) (ms : List Mismatch) : Prop := ∀ m ∈ ms, m.Placed a

/-! ## The main statement -/

/-- A mismatch is placed in the value wherever it comes from. -/
theorem Origin.placed {e : Expected} {a : Value} {m : Mismatch} (h : Origin e a m) : m.Placed a := by
  induction h with
  | remark e a hmessage => exact .inl ⟨⟨a, rfl⟩, hmessage.ne_missing⟩
  | @missing entries actual key e hmem hlacks =>
      exact .inr ⟨⟨[], key, actual, rfl, rfl, ne_of_lookup_eq_none hlacks⟩, rfl⟩
  | entry hmem hvalue h ih => exact ih.below hvalue
  | element hitem hvalue h ih => exact ih.below hvalue
  -- an extra key has a value, and the mismatch is at that node
  | @extra label entries actual key hkey hnew =>
      obtain ⟨v, hv⟩ := exists_lookup_of_mem_keys hkey
      have hchild : (Tree.document actual).child (.key key) = some v := hv
      have hwalk : (Tree.document actual).walk [.key key] = some v := by
        rw [Tree.walk_cons_of_child hchild, Tree.walk]
      exact .inl ⟨⟨v, hwalk⟩, Mismatch.extraKey_ne_missing key⟩
  | payload label h ih => exact ih
  | operand label hmem h ih => exact ih
  | alternative label hmem h ih => exact ih

/-- Whatever there is to find is placed in the value, in either mode. -/
theorem findTree_allPlaced {e : Expected} (h : Builtin e) (k : Bool) (a : Value) :
    AllPlaced a (findTree k e a) := by
  intro m hm
  have horigin : Origin e a m := findTree_origin h k a m hm
  exact horigin.placed

/-- **Reported paths are real**: every mismatch that a tester reports is either at a node of the value, or at a
key that a document of the value lacks. It is never both, since the message says which. -/
theorem Tester.mismatches_placed {e : Expected} (h : Builtin e) (t : Tester) (a : Value) :
    ∀ m ∈ (t.test e a).1.mismatches,
      (m.AtNode a ∨ m.AtMissingKey a) ∧ ¬ (m.AtNode a ∧ m.AtMissingKey a) := by
  intro m hm
  rw [test_eq_verdict] at hm
  refine ⟨findTree_allPlaced h t.options.collectAll a m (mem_of_mem_mismatches_verdict hm), ?_⟩
  rintro ⟨hnode, hmissing⟩
  exact hnode.message hmissing.message

/-- Below a repeated key, an element lacks one key and has another one too many. -/
theorem mismatches_placed_strict_element :
    let t : Tester := .ofOptions { threshold := 0, collectAll := true }
    let e : Expected := .document [("k", .array [.rule [0] (.equal (.document [("x", .int 1)]))])]
    let a : Value := .document [("k", .array [.document [("y", .null)]]), ("k", .null)]
    ∃ lacking extra, (t.test e a).1.mismatches = [lacking, extra] ∧
      lacking.path.segments = [.key "k", .index 0, .key "x"] ∧ lacking.AtMissingKey a ∧
      extra.path.segments = [.key "k", .index 0, .key "y"] ∧ extra.AtNode a := by
  intro t e a
  have hbuiltin : Builtin e := by
    refine .document (List.forall_mem_singleton.mpr (.array (List.forall_mem_singleton.mpr ?_)))
    exact .strict [0] (List.forall_mem_singleton.mpr (.int 1))
  have hplaced := Tester.mismatches_placed hbuiltin t a
  have hlist : (t.test e a).1.mismatches
      = [⟨⟨[.key "k", .index 0, .key "x"]⟩, "key not found"⟩,
        ⟨⟨[.key "k", .index 0, .key "y"]⟩, "unexpected extra key \"y\" (strict $eq)"⟩] := by
    rw [Tester.test_eq_verdict]
    rfl
  rw [hlist] at hplaced
  refine ⟨_, _, hlist, rfl, ?_, rfl, ?_⟩
  · exact (hplaced _ List.mem_cons_self).1.resolve_left fun hnode => hnode.message rfl
  · refine (hplaced _ (List.mem_cons_of_mem _ List.mem_cons_self)).1.resolve_right fun hmissing => ?_
    exact absurd hmissing.message (by decide)

end Conformance
