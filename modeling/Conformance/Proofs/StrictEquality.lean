import Conformance.Proofs.Composition
import Conformance.Proofs.Origins

/-!
# Strict documents

A strict document finds what the document finds that it wraps, and then the keys that the value has beyond it. In
the mode that stops it fails as the document does, and says something of its own only if the document has nothing
to say. The keys are those of one level. A document further down is strict only if it is wrapped itself:
`StrictAt` follows the wrapped documents of a tree, and every mismatch about a key that should not be there comes
from one of them.
-/

set_option autoImplicit false

namespace Conformance

/-! ## Wrapped documents -/

/-- In an expected tree the steps lead to a document that is wrapped, with the given entries. -/
inductive StrictAt (known : List (String × Expected)) : Expected → List Segment → Prop where
  | here (label : Label) : StrictAt known (.rule label (.equal (.document known))) []
  | entry {entries : List (String × Expected)} {key : String} {e : Expected} {steps : List Segment}
      (hmem : (key, e) ∈ entries) (h : StrictAt known e steps) :
      StrictAt known (.document entries) (.key key :: steps)
  | element {items : List Expected} {i : Nat} {e : Expected} {steps : List Segment}
      (hitem : items[i]? = some e) (h : StrictAt known e steps) :
      StrictAt known (.array items) (.index i :: steps)
  | payload (label : Label) {e : Expected} {steps : List Segment} (h : StrictAt known e steps) :
      StrictAt known (.rule label (.equal e)) steps
  | operand (label : Label) {es : List Expected} {e : Expected} {steps : List Segment} (hmem : e ∈ es)
      (h : StrictAt known e steps) : StrictAt known (.rule label (.and es)) steps
  | alternative (label : Label) {es : List Expected} {e : Expected} {steps : List Segment} (hmem : e ∈ es)
      (h : StrictAt known e steps) : StrictAt known (.rule label (.or es)) steps

/-- The mismatch is about a key that a wrapped document of the tree does not have. -/
def Mismatch.BeyondStrict (e : Expected) (m : Mismatch) : Prop :=
  ∃ known steps key, StrictAt known e steps ∧ key ∉ known.map Prod.fst ∧
    m = (Mismatch.extraKey key).under ⟨steps⟩

/-- A mismatch with the message about a key that should not be there comes from a wrapped document. -/
theorem Origin.beyondStrict {e : Expected} {a : Value} {m : Mismatch} (h : Origin e a m) {name : String}
    (hmessage : m.message = (Mismatch.extraKey name).message) : m.BeyondStrict e := by
  -- messages do not change on the way up, so that the wrapped document is found where the mismatch begins
  induction h with
  | remark e a habout => exact absurd hmessage (habout.ne_extraKey name)
  | missing hmem hlacks => exact absurd hmessage.symm (Mismatch.extraKey_ne_missing name)
  | @entry entries actual key e v m hmem hvalue h ih =>
      obtain ⟨known, steps, extra, hstrict, hnew, rfl⟩ := ih hmessage
      exact ⟨known, .key key :: steps, extra, .entry hmem hstrict, hnew, Mismatch.under_under _ _ _⟩
  | @element items values i e v m hitem hvalue h ih =>
      obtain ⟨known, steps, extra, hstrict, hnew, rfl⟩ := ih hmessage
      exact ⟨known, .index i :: steps, extra, .element hitem hstrict, hnew, Mismatch.under_under _ _ _⟩
  | @extra label entries actual key hkey hnew =>
      exact ⟨entries, [], key, .here label, hnew, (Mismatch.under_root _).symm⟩
  | payload label h ih =>
      obtain ⟨known, steps, extra, hstrict, hrest⟩ := ih hmessage
      exact ⟨known, steps, extra, .payload label hstrict, hrest⟩
  | operand label hmem h ih =>
      obtain ⟨known, steps, extra, hstrict, hrest⟩ := ih hmessage
      exact ⟨known, steps, extra, .operand label hmem hstrict, hrest⟩
  | alternative label hmem h ih =>
      obtain ⟨known, steps, extra, hstrict, hrest⟩ := ih hmessage
      exact ⟨known, steps, extra, .alternative label hmem hstrict, hrest⟩

/-! ## The main statement -/

/-- A comparison that stops looks at what comes later only if there was nothing to find before. -/
theorem verdict_append (ms ns : List Mismatch) :
    verdict false (ms ++ ns) = match verdict false ms with
      | .error failure => .error failure
      | .ok () => verdict false ns := by
  cases ms with
  | nil => rfl
  | cons first rest => rfl

/-- **Strict equality is the subset comparison and then the extra keys, at one level only.** A tester that
collects adds one mismatch for each distinct key beyond the document, in the order in which the keys occur first;
a tester that stops returns the failure of the document, or else the first of these. Nothing in the document is
reported so unless it is wrapped itself. -/
theorem Tester.test_strict (t : Tester) (label : Label) (entries : List (String × Expected)) (a : Value) :
    let plain := (t.test (.document entries) a).1
    let strict := (t.test (.rule label (.equal (.document entries))) a).1
    (t.options.collectAll = true → strict.mismatches = plain.mismatches ++ extraReport entries a) ∧
      (t.options.collectAll = false → strict = match plain with
        | .error failure => .error failure
        | .ok () =>
          match extraReport entries a with
          | [] => .ok ()
          | first :: _ => .error (.single first)) ∧
      (Builtin (.document entries) → ∀ m ∈ plain.mismatches, ∀ name,
        m.message = (Mismatch.extraKey name).message → m.BeyondStrict (.document entries)) := by
  intro plain strict
  refine ⟨fun hmode => ?_, fun hmode => ?_, fun hbuiltin m hm name hmessage => ?_⟩
  · show (t.test _ a).1.mismatches = (t.test _ a).1.mismatches ++ _
    rw [mismatches_test hmode, mismatches_test hmode, findTree_strict_eq]
  · show (t.test _ a).1 = match (t.test (.document entries) a).1 with
      | .error failure => .error failure
      | .ok () => verdict false (extraReport entries a)
    rw [test_eq_verdict, test_eq_verdict, hmode, findTree_strict_eq, verdict_append]
  · have hfound : m ∈ findTree t.options.collectAll (.document entries) a := by
      refine mem_of_mem_mismatches_verdict (k := t.options.collectAll) ?_
      rw [← test_eq_verdict]
      exact hm
    -- what the message says of the place is known from where the mismatch comes from
    have horigin : Origin (.document entries) a m := findTree_origin hbuiltin _ a m hfound
    exact horigin.beyondStrict hmessage

/-- Of two documents in a strict one, only the second is strict again. The extra keys of the whole come after
what is found in it, and hide behind it in the mode that stops. -/
theorem test_strict_nested :
    let known : List (String × Expected) :=
      [("a", .document []), ("b", .rule [1] (.equal (.document []))), ("a", .document [])]
    let a : Value := .document [("x", .null), ("a", .document [("y", .null)]),
      ("b", .document [("z", .null)]), ("w", .null), ("x", .bool true)]
    let nested : Mismatch := (Mismatch.extraKey "z").under ⟨[.key "b"]⟩
    let e : Expected := .rule [0] (.equal (.document known))
    ((Tester.ofOptions { threshold := 0, collectAll := true }).test e a).1.mismatches
        = [nested, .extraKey "x", .extraKey "w"] ∧
      ((Tester.ofOptions { threshold := 0 }).test e a).1 = .error (.single nested) ∧
      nested.BeyondStrict (.document known) := by
  intro known a nested e
  have hall := Tester.test_strict (.ofOptions { threshold := 0, collectAll := true }) [0] known a
  have hfast := Tester.test_strict (.ofOptions { threshold := 0 }) [0] known a
  have hbuiltin : Builtin (.document known) := by
    have hempty : ∀ entry ∈ ([] : List (String × Expected)), Builtin entry.2 := List.forall_mem_nil _
    refine .document fun entry hmem => ?_
    simp only [known, List.mem_cons, List.not_mem_nil, or_false] at hmem
    rcases hmem with rfl | rfl | rfl
    · exact .document hempty
    · exact .strict [1] hempty
    · exact .document hempty
  rw [Tester.test_eq_verdict, Tester.test_eq_verdict] at hall hfast
  refine ⟨?_, ?_, ?_⟩
  · rw [Tester.test_eq_verdict]
    exact hall.1 rfl
  · rw [Tester.test_eq_verdict]
    exact hfast.2.1 rfl
  · exact hall.2.2 hbuiltin nested List.mem_cons_self "z" rfl

end Conformance
