import Conformance.Proofs.Builtin
import Conformance.Proofs.ExtraKeys

/-!
# Where mismatches come from

A mismatch has its origin at one node of the expected tree, and is then handed up step by step. `Origin e a m`
says how: it is a remark at a node, or about a key that is missing, or about a key that should not be there, and
each step up puts one segment in front or none. `findTree_origin` goes through the tree once; what is said
elsewhere of the paths and messages of all mismatches is an induction on their origin.

Remarks are told from what is said about keys by their first letter. Most rules make at most one of them.
-/

set_option autoImplicit false

namespace Conformance

/-! ## Remarks -/

/-- The message begins with a letter other than those of the two messages about keys. -/
def AboutNode (message : String) : Prop := ∃ c, message.toList.head? = some c ∧ c ≠ 'k' ∧ c ≠ 'u'

/-- A text that is written out begins with its first letter. -/
theorem AboutNode.literal {c : Char} {rest : List Char} (h : (c != 'k' && c != 'u') = true) :
    AboutNode (String.ofList (c :: rest)) := by
  refine ⟨c, ?_, by simpa using h⟩
  rw [String.toList_ofList]
  rfl

/-- A longer text begins as the text that opens it. Only what is seen to be an appending is to be taken apart in
this way, so it is applied with reducible definitions open and no others. -/
theorem AboutNode.append {first rest : String} (h : AboutNode first) : AboutNode (first ++ rest) := by
  obtain ⟨c, hc, hne⟩ := h
  refine ⟨c, ?_, hne⟩
  rw [String.toList_append, List.head?_append, hc]
  rfl

theorem AboutNode.ne_missing {message : String} (h : AboutNode message) : message ≠ "key not found" := by
  rintro rfl
  obtain ⟨c, hc, hne, -⟩ := h
  exact hne (Option.some.inj hc).symm

theorem head?_extraKey (key : String) : (Mismatch.extraKey key).message.toList.head? = some 'u' := by
  simp [Mismatch.extraKey]

theorem AboutNode.ne_extraKey {message : String} (h : AboutNode message) (key : String) :
    message ≠ (Mismatch.extraKey key).message := by
  rintro rfl
  obtain ⟨c, hc, -, hne⟩ := h
  exact hne (Option.some.inj (hc.symm.trans (head?_extraKey key)))

theorem Mismatch.extraKey_ne_missing (key : String) : (Mismatch.extraKey key).message ≠ "key not found" := by
  intro h
  have hletter : some 'u' = some 'k' := by
    rw [← head?_extraKey key, h]
    rfl
  cases hletter

/-- There is nothing to find, or one thing at the place itself. -/
inductive Remark : List Mismatch → Prop where
  | none : Remark []
  | here {message : String} (h : AboutNode message) : Remark (Find.here message)

theorem remark_ite {p : Prop} [Decidable p] {ms ns : List Mismatch} (hms : Remark ms) (hns : Remark ns) :
    Remark (if p then ms else ns) := by
  split
  · exact hms
  · exact hns

theorem remark_pure : Remark (Find.stop (pure ())) := by
  rw [Find.stop_pure]
  exact .none

theorem remark_fail {message : String} (h : AboutNode message) : Remark (Find.stop (Comparison.fail message)) := by
  rw [Find.stop_fail]
  exact .here h

theorem remark_reportHere {message : String} (h : AboutNode message) :
    Remark (Find.stop (Comparison.reportHere message)) := by
  rw [Find.stop_reportHere]
  exact .here h

/-! ### Leaves -/

theorem aboutNode_compareNumber {want : Number} {kind message : String} {a : Value}
    (h : Tree.compareNumber want kind a = .differs message) : AboutNode message := by
  unfold Tree.compareNumber at h
  split at h
  · cases h
    repeat with_reducible apply AboutNode.append
    exact .literal rfl
  · split at h
    · cases h
    · cases h
      repeat with_reducible apply AboutNode.append
      exact .literal rfl

/-- All messages about leaves say what was expected. -/
theorem aboutNode_compareScalars {e : Expected} {a : Value} {message : String}
    (h : e.compareScalars a = .differs message) : AboutNode message := by
  unfold Tree.compareScalars at h
  split at h
  · split at h
    · cases h
    · cases h
      exact .append (.append (.append (.literal rfl)))
  · cases h
    exact .append (.append (.append (.literal rfl)))
  · split at h
    · cases h
    · cases h
      exact .append (.append (.append (.literal rfl)))
  · cases h
    exact .append (.append (.append (.literal rfl)))
  · exact aboutNode_compareNumber h
  · exact aboutNode_compareNumber h
  · cases h

theorem remark_leaf (e : Expected) (a : Value) : Remark (Find.alone (Check.leaf e) a) := by
  unfold Find.alone Check.leaf
  split
  · exact remark_pure
  · rename_i hdiffers
    exact remark_reportHere (aboutNode_compareScalars hdiffers)
  · split
    · exact remark_pure
    · exact remark_reportHere (.append (.append (.append (.literal rfl))))

/-! ### Rules without operands -/

theorem remark_notEqual (e : Expected) (a : Value) : Remark (Find.alone (Check.notEqual e) a) := by
  unfold Find.alone Check.notEqual
  split
  · exact remark_fail (.append (.append (.literal rfl)))
  · exact remark_pure
  · split
    · exact remark_fail (.append (.append (.literal rfl)))
    · exact remark_pure

theorem remark_nil (target explicit : Bool) (a : Value) :
    Remark (Find.alone (Check.nil target explicit) a) := by
  unfold Find.alone Check.nil
  split
  · split
    · exact remark_fail (.append (.append (.literal rfl)))
    · exact remark_fail (.literal rfl)
    · exact remark_pure
  · split
    · exact remark_pure
    · split
      · exact remark_fail (.literal rfl)
      · exact remark_fail (.literal rfl)

theorem remark_required (a : Value) : Remark (Find.alone Check.required a) := by
  unfold Find.alone Check.required
  split
  · exact remark_fail (.append (.append (.literal rfl)))
  · exact remark_pure

theorem remark_empty (want : Bool) (a : Value) : Remark (Find.alone (Check.empty want) a) := by
  unfold Find.alone Check.empty
  split
  · apply remark_fail
    repeat with_reducible apply AboutNode.append
    exact .literal rfl
  · apply remark_fail
    repeat with_reducible apply AboutNode.append
    exact .literal rfl
  · exact remark_pure

theorem remark_pattern (p : Pattern) (a : Value) : Remark (Find.alone (Check.pattern p) a) := by
  unfold Find.alone Check.pattern
  split
  · exact remark_fail (.append (.literal rfl))
  · split
    · exact remark_pure
    · exact remark_fail (.append (.append (.append (.literal rfl))))

theorem aboutNode_token (bound : NumericBound) : AboutNode bound.token := by
  unfold NumericBound.token
  split <;> exact .literal rfl

theorem remark_numeric (bound : NumericBound) (a : Value) : Remark (Find.alone (Check.numeric bound) a) := by
  unfold Find.alone Check.numeric
  split
  · exact remark_fail (.append (.append (aboutNode_token bound)))
  · split
    · exact remark_pure
    · apply remark_fail
      repeat with_reducible apply AboutNode.append
      exact aboutNode_token bound

theorem remark_lengthBound (n : Nat) (t : Check.LengthTest) : Remark (Find.lengthBound n t) := by
  unfold Find.lengthBound
  split
  · refine remark_ite .none (.here ?_)
    repeat with_reducible apply AboutNode.append
    exact .literal rfl
  · exact .none

/-! ### Rules with operands

What is found at the operands is thrown away here. -/

theorem remark_claimAll (finders : List (String × Finder)) (values : List Value) :
    Remark (Find.claimAll finders values) := by
  induction finders generalizing values with
  | nil => exact .none
  | cons find rest ih =>
      rw [Find.claimAll]
      split
      · exact ih _
      · exact .here (.append (.literal rfl))

theorem remark_elementsMatch (finders : List (String × Finder)) (a : Value) :
    Remark (Find.elementsMatch finders a) := by
  unfold Find.elementsMatch
  split
  · exact remark_ite (remark_claimAll finders _) (.here (.append (.append (.append (.literal rfl)))))
  · exact .here (.append (.literal rfl))

theorem remark_inSet (candidates : List (String × Finder)) (a : Value) :
    Remark (Find.inSet candidates a) := by
  unfold Find.inSet
  refine remark_ite .none (.here ?_)
  repeat with_reducible apply AboutNode.append
  exact .literal rfl

theorem remark_not (f : Finder) (a : Value) : Remark (Find.not f a) := by
  unfold Find.not
  exact remark_ite (.here (.literal rfl)) .none

/-- What alternatives come to is what they find, or one remark at the place of them all. -/
theorem or_eq_flatMap_or_remark (k : Bool) (fs : List Finder) (a : Value) :
    Find.or k fs a = fs.flatMap (· a) ∨ Remark (Find.or k fs a) := by
  unfold Find.or
  split
  · exact .inr .none
  · cases hfound : fs.flatMap (· a) with
    | nil => exact .inr (.here (.literal rfl))
    | cons first rest =>
        cases k with
        | true => exact .inl rfl
        | false => exact .inr (.here (.append (.literal rfl)))

/-! ## Origins -/

/-- Between an expected tree and a value, a mismatch can come about in this way. -/
inductive Origin : Expected → Value → Mismatch → Prop where
  | remark (e : Expected) (a : Value) {message : String} (h : AboutNode message) :
      Origin e a ⟨.root, message⟩
  | missing {entries : List (String × Expected)} {actual : List (String × Value)} {key : String}
      {e : Expected} (hmem : (key, e) ∈ entries) (hlacks : lookup key actual = none) :
      Origin (.document entries) (.document actual) ⟨⟨[.key key]⟩, "key not found"⟩
  | entry {entries : List (String × Expected)} {actual : List (String × Value)} {key : String}
      {e : Expected} {v : Value} {m : Mismatch} (hmem : (key, e) ∈ entries)
      (hvalue : lookup key actual = some v) (h : Origin e v m) :
      Origin (.document entries) (.document actual) (m.under ⟨[.key key]⟩)
  | element {items : List Expected} {values : List Value} {i : Nat} {e : Expected} {v : Value}
      {m : Mismatch} (hitem : items[i]? = some e) (hvalue : values[i]? = some v) (h : Origin e v m) :
      Origin (.array items) (.array values) (m.under ⟨[.index i]⟩)
  /-- A strict document is told of a key of the value that it does not have. -/
  | extra (label : Label) {entries : List (String × Expected)} {actual : List (String × Value)}
      {key : String} (hkey : key ∈ actual.map Prod.fst) (hnew : key ∉ entries.map Prod.fst) :
      Origin (.rule label (.equal (.document entries))) (.document actual) (.extraKey key)
  | payload (label : Label) {e : Expected} {a : Value} {m : Mismatch} (h : Origin e a m) :
      Origin (.rule label (.equal e)) a m
  | operand (label : Label) {es : List Expected} {e : Expected} {a : Value} {m : Mismatch}
      (hmem : e ∈ es) (h : Origin e a m) : Origin (.rule label (.and es)) a m
  | alternative (label : Label) {es : List Expected} {e : Expected} {a : Value} {m : Mismatch}
      (hmem : e ∈ es) (h : Origin e a m) : Origin (.rule label (.or es)) a m

theorem Remark.origin {ms : List Mismatch} (h : Remark ms) (e : Expected) (a : Value) :
    ∀ m ∈ ms, Origin e a m := by
  intro m hm
  cases h with
  | none => cases hm
  | here hmessage =>
      rw [List.mem_singleton.mp hm]
      exact .remark e a hmessage

/-- What is found in a document comes from one of its entries, or is about a key that it misses. -/
theorem origin_entries {k : Bool} {entries : List (String × Expected)}
    (h : ∀ entry ∈ entries, ∀ v, ∀ m ∈ findTree k entry.2 v, Origin entry.2 v m) (a : Value) :
    ∀ m ∈ findTree k (.document entries) a, Origin (.document entries) a m := by
  intro m hm
  by_cases hshape : ∃ actual, a = .document actual
  · obtain ⟨actual, rfl⟩ := hshape
    rw [findTree_document] at hm
    obtain ⟨⟨key, e⟩, hmem, hfound⟩ := List.mem_flatMap.mp hm
    unfold Find.entry at hfound
    cases hvalue : lookup key actual with
    | some v =>
        simp only [hvalue] at hfound
        obtain ⟨inner, hinner, rfl⟩ := List.mem_map.mp hfound
        exact .entry hmem hvalue (h (key, e) hmem v inner hinner)
    | none =>
        simp only [hvalue] at hfound
        rw [List.mem_singleton.mp hfound]
        exact .missing hmem hvalue
  · rw [findTree_document_shape k entries fun actual hactual => hshape ⟨actual, hactual⟩] at hm
    exact (Remark.here (.append (.literal rfl))).origin _ _ m hm

/-- What is found in an array comes from one of its elements, or is a remark about the array. -/
theorem origin_items {k : Bool} {items : List Expected}
    (h : ∀ e ∈ items, ∀ v, ∀ m ∈ findTree k e v, Origin e v m) (a : Value) :
    ∀ m ∈ findTree k (.array items) a, Origin (.array items) a m := by
  intro m hm
  by_cases hshape : ∃ values, a = .array values
  · obtain ⟨values, rfl⟩ := hshape
    by_cases hlength : items.length = values.length
    · rw [findTree_array k hlength] at hm
      obtain ⟨⟨⟨e, v⟩, i⟩, hmem, hfound⟩ := List.mem_flatMap.mp hm
      have hzip : (items.zip values)[i]? = some (e, v) := List.mk_mem_zipIdx_iff_getElem?.mp hmem
      obtain ⟨hitem, hvalue⟩ := List.getElem?_zip_eq_some.mp hzip
      obtain ⟨inner, hinner, rfl⟩ := List.mem_map.mp hfound
      exact .element hitem hvalue (h e (List.mem_of_getElem? hitem) v inner hinner)
    · rw [findTree_array_length k hlength] at hm
      exact (Remark.here (.append (.append (.append (.literal rfl))))).origin _ _ m hm
  · rw [findTree_array_shape k items fun values hvalues => hshape ⟨values, hvalues⟩] at hm
    exact (Remark.here (.append (.literal rfl))).origin _ _ m hm

theorem origin_length (bounds : LengthBounds) (e : Expected) (a : Value) :
    ∀ m ∈ Find.length bounds a, Origin e a m := by
  intro m hm
  unfold Find.length at hm
  split at hm
  · exact (Remark.here (.append (.literal rfl))).origin e a m hm
  · obtain ⟨t, -, hfound⟩ := List.mem_flatMap.mp hm
    exact (remark_lengthBound _ t).origin e a m hfound

/-- **Whatever there is to find has an origin**, in either mode. -/
theorem findTree_origin {e : Expected} (h : Builtin e) (k : Bool) (a : Value) :
    ∀ m ∈ findTree k e a, Origin e a m := by
  induction h generalizing a with
  | null => exact (remark_leaf _ a).origin _ a
  | bool b => exact (remark_leaf _ a).origin _ a
  | int i => exact (remark_leaf _ a).origin _ a
  | float x => exact (remark_leaf _ a).origin _ a
  | string s => exact (remark_leaf _ a).origin _ a
  | array _ ih => exact origin_items ih a
  | document _ ih => exact origin_entries ih a
  | @strict label entries _ ih =>
      intro m hm
      rw [findTree_strict_eq] at hm
      -- a strict document has two parts: what the plain one finds, and the keys beyond it
      rcases List.mem_append.mp hm with hm | hm
      · exact .payload label (origin_entries ih a m hm)
      · cases a with
        | document actual =>
            obtain ⟨key, hkey, rfl⟩ := List.mem_map.mp hm
            rw [← extraKeys_eq] at hkey
            obtain ⟨hold, hnew⟩ := mem_extraKeys.mp hkey
            exact .extra label hold hnew
        | _ => cases hm
  | same label hshape _ ih =>
      intro m hm
      rw [findTree_same hshape] at hm
      exact .payload label (ih a m hm)
  | notEqual label e => exact (remark_notEqual e a).origin _ a
  | nil label target explicit => exact (remark_nil target explicit a).origin _ a
  | required label => exact (remark_required a).origin _ a
  | any label => exact Remark.none.origin _ a
  | empty label want => exact (remark_empty want a).origin _ a
  | pattern label p => exact (remark_pattern p a).origin _ a
  | elementsMatch label _ _ => exact (remark_elementsMatch _ a).origin _ a
  | length label bounds => exact origin_length bounds _ a
  | inSet label _ _ => exact (remark_inSet _ a).origin _ a
  | numeric label bound => exact (remark_numeric bound a).origin _ a
  | and label _ ih =>
      intro m hm
      rw [findTree_and] at hm
      obtain ⟨e, he, hfound⟩ := List.mem_flatMap.mp hm
      exact .operand label he (ih e he a m hfound)
  | @or label es _ ih =>
      intro m hm
      rw [findTree_or] at hm
      -- an `or` that stops, or finds nothing to hand up, makes a remark of its own
      rcases or_eq_flatMap_or_remark k (es.map (findTree k)) a with hall | hremark
      · rw [hall, List.flatMap_map] at hm
        obtain ⟨e, he, hfound⟩ := List.mem_flatMap.mp hm
        exact .alternative label he (ih e he a m hfound)
      · exact hremark.origin _ a m hm
  | nor label _ _ =>
      intro m hm
      rw [findTree_nor] at hm
      obtain ⟨⟨e, i⟩, -, hfound⟩ := List.mem_flatMap.mp hm
      have hmessage : AboutNode ("$nor failed: alternative " ++ toString i ++ " matched") :=
        .append (.append (.literal rfl))
      exact (remark_ite (.here hmessage) .none).origin _ a m hfound
  | not label _ _ => exact (remark_not _ a).origin _ a

end Conformance
