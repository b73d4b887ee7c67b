import Conformance.Proofs.Decoded
import Conformance.Proofs.Places

/-!
# The wording of mismatches

Every message of a comparison has more than one word, and stands in one line. There is one exception to the
second: an `or` that has to stop quotes the first mismatch of its alternatives with its path, and paths show
keys as they are. `Mismatch.Worded k P m` says so of a mismatch that is found in the mode `k` between trees
whose keys have the property `P`. It is an invariant of all ways to put findings together, since the keys of a
path are keys of the two trees.
-/

set_option autoImplicit false

namespace Conformance

/-! ## Sentences -/

/-- A text of more than one word, in one line. -/
structure Sentence (s : String) : Prop where
  blank : ' ' ∈ s.toList
  line : '\n' ∉ s.toList

/-- A text that is written out is looked through letter by letter. -/
theorem Sentence.literal {letters : List Char} (h : (letters.contains ' ' && !letters.contains '\n') = true) :
    Sentence (String.ofList letters) := by
  have hletters : ' ' ∈ letters ∧ '\n' ∉ letters := by simpa using h
  constructor
  · rw [String.toList_ofList]
    exact hletters.1
  · rw [String.toList_ofList]
    exact hletters.2

/-- A comparison that finds nothing, or says one sentence at its own place. -/
inductive SaysSentence : Comparison Unit → Prop where
  | pure : SaysSentence (pure ())
  | fail {message : String} (h : Sentence message) : SaysSentence (Comparison.fail message)
  | report {message : String} (h : Sentence message) : SaysSentence (Comparison.reportHere message)

section Messages

variable {P : String → Prop} {a : Value}

theorem sentence_compareNumber {want : Number} {kind message : String} (hkind : '\n' ∉ kind.toList)
    (h : Tree.compareNumber want kind a = .differs message) : Sentence message := by
  unfold Tree.compareNumber at h
  split at h
  · cases h
    cases want with
    | int i => exact ⟨by simp, by simp⟩
    | float x => exact ⟨by simp, by simp⟩
  · split at h
    · cases h
    · cases h
      exact ⟨by simp, by simp [hkind]⟩

theorem sentence_compareScalars {e : Expected} {message : String}
    (h : e.compareScalars a = .differs message) : Sentence message := by
  unfold Tree.compareScalars at h
  split at h
  · split at h
    · cases h
    · cases h
      exact ⟨by simp, by simp⟩
  · cases h
    exact ⟨by simp, by simp⟩
  · split at h
    · cases h
    · cases h
      exact ⟨by simp, by simp⟩
  · cases h
    exact ⟨by simp, by simp⟩
  · exact sentence_compareNumber (by simp) h
  · exact sentence_compareNumber (by simp) h
  · cases h

theorem saysSentence_leaf {e : Expected} (he : Legible P (view e)) (ha : Legible P a) :
    SaysSentence (Check.leaf e a) := by
  unfold Check.leaf
  split
  · exact .pure
  · rename_i hdiffers
    exact .report (sentence_compareScalars hdiffers)
  · split
    · exact .pure
    · exact .report ⟨by simp, by simp [he.lineFeed_notMem_describe, ha.lineFeed_notMem_describe]⟩

theorem saysSentence_notEqual {e : Expected} (he : Legible P (view e)) (a : Value) :
    SaysSentence (Check.notEqual e a) := by
  unfold Check.notEqual
  split
  · exact .fail ⟨by simp, by simp [he.lineFeed_notMem_display]⟩
  · exact .pure
  · split
    · exact .fail ⟨by simp, by simp [he.lineFeed_notMem_display]⟩
    · exact .pure

theorem saysSentence_nil (target explicit : Bool) (a : Value) : SaysSentence (Check.nil target explicit a) := by
  unfold Check.nil
  split
  · split
    · exact .fail ⟨by simp, by simp⟩
    · exact .fail (.literal rfl)
    · exact .pure
  · split
    · exact .pure
    · split
      · exact .fail (.literal rfl)
      · exact .fail (.literal rfl)

theorem saysSentence_required (a : Value) : SaysSentence (Check.required a) := by
  unfold Check.required
  split
  · exact .fail ⟨by simp, by simp⟩
  · exact .pure

theorem saysSentence_empty (want : Bool) (ha : Legible P a) : SaysSentence (Check.empty want a) := by
  have hdisplay : '\n' ∉ a.display.toList := ha.lineFeed_notMem_display
  unfold Check.empty
  split
  · exact .fail ⟨by simp, by simp [hdisplay]⟩
  · exact .fail ⟨by simp, by simp [hdisplay]⟩
  · exact .pure

theorem saysSentence_pattern (p : Pattern) (a : Value) : SaysSentence (Check.pattern p a) := by
  unfold Check.pattern
  split
  · exact .fail ⟨by simp, by simp⟩
  · split
    · exact .pure
    · exact .fail ⟨by simp, by simp⟩

theorem lineFeed_notMem_token (bound : NumericBound) : '\n' ∉ bound.token.toList := by
  unfold NumericBound.token
  split <;> simp

theorem lineFeed_notMem_operator (bound : NumericBound) : '\n' ∉ bound.operator.toList := by
  unfold NumericBound.operator
  split <;> simp

theorem saysSentence_numeric (bound : NumericBound) (a : Value) : SaysSentence (Check.numeric bound a) := by
  have htoken : '\n' ∉ bound.token.toList := lineFeed_notMem_token bound
  have hoperator : '\n' ∉ bound.operator.toList := lineFeed_notMem_operator bound
  unfold Check.numeric
  split
  · exact .fail ⟨by simp, by simp [htoken]⟩
  · split
    · exact .pure
    · exact .fail ⟨by simp, by simp [htoken, hoperator]⟩

end Messages

/-! ## Worded mismatches -/

/-- A key is written into the path as it is, so that it has to be without a line feed itself. -/
theorem lineFeed_notMem_segment {s : Segment} (h : ∀ key, s = .key key → '\n' ∉ key.toList) :
    '\n' ∉ s.text.toList := by
  cases s with
  | key name => simpa [Segment.text] using h name rfl
  | index i => simp [Segment.text]

/-- A path is shown in one line if its keys have no line feeds. -/
theorem lineFeed_notMem_path {p : Path} (h : ∀ key, .key key ∈ p.segments → '\n' ∉ key.toList) :
    '\n' ∉ p.text.toList := by
  rw [Path.toList_text, List.mem_flatMap]
  rintro ⟨s, hs, hmem⟩
  refine lineFeed_notMem_segment ?_ hmem
  rintro key rfl
  exact h key hs

namespace Mismatch

/-- The mismatch is found in a mode between trees whose keys have a property: its path is made of such keys, and
its message is a sentence, if only keys have no line feeds where they may be quoted. -/
structure Worded (k : Bool) (P : String → Prop) (m : Mismatch) : Prop where
  keys : ∀ key, .key key ∈ m.path.segments → P key
  blank : ' ' ∈ m.message.toList
  line : (k = true ∨ ∀ key, P key → '\n' ∉ key.toList) → '\n' ∉ m.message.toList

variable {k : Bool} {P : String → Prop} {m : Mismatch}

/-- A step by an index, or by a key with the property, may be put in front. -/
theorem Worded.below {s : Segment} (hs : ∀ key, s = .key key → P key) (h : m.Worded k P) :
    (m.under (Path.root.push s)).Worded k P := by
  refine ⟨fun key hmem => ?_, h.blank, h.line⟩
  have hmem : Segment.key key ∈ s :: m.path.segments := hmem
  rcases List.mem_cons.mp hmem with hfirst | hrest
  · exact hs key hfirst.symm
  · exact h.keys key hrest

/-- The text of a mismatch is shown in one line where no key has a line feed. -/
theorem Worded.lineFeed_notMem_text (h : m.Worded k P) (hP : ∀ key, P key → '\n' ∉ key.toList) :
    '\n' ∉ m.text.toList := by
  have hpath : '\n' ∉ m.path.text.toList := lineFeed_notMem_path fun key hmem => hP key (h.keys key hmem)
  have hmessage : '\n' ∉ m.message.toList := h.line (.inr hP)
  unfold text
  split
  · exact hmessage
  · simp [hpath, hmessage]

end Mismatch

def AllWorded (k : Bool) (P : String → Prop) (ms : List Mismatch) : Prop := ∀ m ∈ ms, m.Worded k P

section Findings

variable {k : Bool} {P : String → Prop}

theorem allWorded_nil : AllWorded k P [] := List.forall_mem_nil _

theorem allWorded_here {message : String} (h : Sentence message) : AllWorded k P (Find.here message) := by
  intro m hm
  rw [List.mem_singleton.mp hm]
  exact ⟨fun key hmem => (List.not_mem_nil hmem).elim, h.blank, fun _ => h.line⟩

/-- A step in front of a worded mismatch may only bring a key that has the property. -/
theorem allWorded_below {s : Segment} (hs : ∀ key, s = .key key → P key) {ms : List Mismatch}
    (h : AllWorded k P ms) : AllWorded k P (below s ms) := by
  intro m hm
  obtain ⟨inner, hinner, rfl⟩ := List.mem_map.mp hm
  exact (h inner hinner).below hs

theorem AllWorded.append {ms ns : List Mismatch} (hms : AllWorded k P ms) (hns : AllWorded k P ns) :
    AllWorded k P (ms ++ ns) := List.forall_mem_append.mpr ⟨hms, hns⟩

theorem allWorded_flatMap {α : Type} {l : List α} {f : α → List Mismatch}
    (h : ∀ x ∈ l, AllWorded k P (f x)) : AllWorded k P (l.flatMap f) := by
  intro m hm
  obtain ⟨x, hx, hmx⟩ := List.mem_flatMap.mp hm
  exact h x hx m hmx

/-- A check that says a sentence at its own place finds something that is worded. -/
theorem SaysSentence.allWorded {check : Check} {a : Value} (h : SaysSentence (check a)) :
    AllWorded k P (Find.alone check a) := by
  unfold Find.alone
  generalize check a = c at h
  cases h with
  | pure => exact allWorded_nil
  | fail hmessage =>
      rw [Find.stop_fail]
      exact allWorded_here hmessage
  | report hmessage =>
      rw [Find.stop_reportHere]
      exact allWorded_here hmessage

/-! ## Rules with operands -/

theorem allWorded_length (bounds : LengthBounds) (a : Value) : AllWorded k P (Find.length bounds a) := by
  have htests : ∀ t ∈ Check.lengthTests bounds, '\n' ∉ t.name.toList ∧ '\n' ∉ t.sign.toList := by
    simp [Check.lengthTests]
  unfold Find.length
  split
  · exact allWorded_here ⟨by simp, by simp⟩
  · refine allWorded_flatMap fun t ht => ?_
    obtain ⟨hname, hsign⟩ := htests t ht
    unfold Find.lengthBound
    split
    · split
      · exact allWorded_nil
      · exact allWorded_here ⟨by simp, by simp [hname, hsign]⟩
    · exact allWorded_nil

variable {operands : List (String × Finder)}

theorem allWorded_claimAll (htexts : ∀ o ∈ operands, '\n' ∉ o.1.toList) (values : List Value) :
    AllWorded k P (Find.claimAll operands values) := by
  induction operands generalizing values with
  | nil => exact allWorded_nil
  | cons o rest ih =>
      obtain ⟨htext, hrest⟩ := List.forall_mem_cons.mp htexts
      rw [Find.claimAll]
      split
      · exact ih hrest _
      · exact allWorded_here ⟨by simp, by simp [htext]⟩

theorem allWorded_elementsMatch (htexts : ∀ o ∈ operands, '\n' ∉ o.1.toList) (a : Value) :
    AllWorded k P (Find.elementsMatch operands a) := by
  unfold Find.elementsMatch
  split
  · split
    · exact allWorded_claimAll htexts _
    · exact allWorded_here ⟨by simp, by simp⟩
  · exact allWorded_here ⟨by simp, by simp⟩

theorem allWorded_inSet (htexts : ∀ o ∈ operands, '\n' ∉ o.1.toList) {a : Value} (ha : Legible P a) :
    AllWorded k P (Find.inSet operands a) := by
  have hdisplay : '\n' ∉ a.display.toList := ha.lineFeed_notMem_display
  have htexts : '\n' ∉ (", ".intercalate (operands.map (·.1))).toList :=
    lineFeed_notMem_intercalate (by simp) (List.forall_mem_map.mpr htexts)
  unfold Find.inSet
  generalize ", ".intercalate (operands.map (·.1)) = texts at htexts ⊢
  split
  · exact allWorded_nil
  · exact allWorded_here ⟨by simp, by simp [hdisplay, htexts]⟩

/-- An `or` that has to stop is the one place where a message holds a path. -/
theorem allWorded_or {fs : List Finder} {a : Value} (h : ∀ f ∈ fs, AllWorded k P (f a)) :
    AllWorded k P (Find.or k fs a) := by
  have hall : AllWorded k P (fs.flatMap (· a)) := allWorded_flatMap h
  unfold Find.or
  split
  · exact allWorded_nil
  · cases hfound : fs.flatMap (· a) with
    | nil => exact allWorded_here (.literal rfl)
    | cons first rest =>
        rw [hfound] at hall
        have hfirst : first.Worded k P := hall first List.mem_cons_self
        cases k with
        | true => exact hall
        | false =>
            -- the text of the first mismatch is quoted, and its path with it
            intro m hm
            rw [List.mem_singleton.mp hm]
            refine ⟨fun key hmem => (List.not_mem_nil hmem).elim, by simp, ?_⟩
            rintro (⟨⟨⟩⟩ | hP)
            have htext : '\n' ∉ first.text.toList := hfirst.lineFeed_notMem_text hP
            simp [htext]

theorem allWorded_nor (position : Nat) (fs : List Finder) (a : Value) :
    AllWorded k P (Find.nor position fs a) := by
  refine allWorded_flatMap ?_
  rintro ⟨f, i⟩ -
  dsimp only
  split
  · exact allWorded_here ⟨by simp, by simp⟩
  · exact allWorded_nil

theorem allWorded_not (f : Finder) (a : Value) : AllWorded k P (Find.not f a) := by
  unfold Find.not
  split
  · exact allWorded_here (.literal rfl)
  · exact allWorded_nil

/-! ## Documents -/

/-- What is found below a key with the property. -/
theorem allWorded_below_key {key : String} (hkey : P key) {ms : List Mismatch} (h : AllWorded k P ms) :
    AllWorded k P (below (.key key) ms) := by
  refine allWorded_below ?_ h
  rintro _ ⟨⟩
  exact hkey

theorem allWorded_entry {actual : List (String × Value)} {entry : String × Finder} (hkey : P entry.1)
    (h : ∀ v, lookup entry.1 actual = some v → AllWorded k P (entry.2 v)) :
    AllWorded k P (Find.entry actual entry) := by
  unfold Find.entry
  cases hvalue : lookup entry.1 actual with
  | some v => exact allWorded_below_key hkey (h v hvalue)
  | none => exact allWorded_below_key hkey (allWorded_here (.literal rfl))

theorem allWorded_extra {key : String} (hkey : P key) : AllWorded k P (Find.extra key) :=
  allWorded_below_key hkey (allWorded_here ⟨by simp, by simp⟩)

/-- The keys of the path are those of the expected document. -/
theorem allWorded_document {entries : List (String × Expected)} (hkeys : ∀ entry ∈ entries, P entry.1)
    (h : ∀ entry ∈ entries, ∀ a, Legible P a → AllWorded k P (findTree k entry.2 a)) {a : Value}
    (ha : Legible P a) : AllWorded k P (findTree k (.document entries) a) := by
  by_cases hshape : ∃ actual, a = .document actual
  · obtain ⟨actual, rfl⟩ := hshape
    rw [findTree_document]
    refine allWorded_flatMap fun entry hmem => allWorded_entry (hkeys entry hmem) fun v hv => ?_
    have hlegible : Legible P v := (ha.entry _ (mem_of_lookup hv)).2
    exact h entry hmem v hlegible
  · rw [findTree_document_shape k entries fun actual hactual => hshape ⟨actual, hactual⟩]
    exact allWorded_here ⟨by simp, by simp⟩

/-- A strict document adds mismatches at keys of the value. -/
theorem allWorded_strict (label : Label) {entries : List (String × Expected)} {a : Value} (ha : Legible P a)
    (h : AllWorded k P (findTree k (.document entries) a)) :
    AllWorded k P (findTree k (.rule label (.equal (.document entries))) a) := by
  by_cases hshape : ∃ actual, a = .document actual
  · obtain ⟨actual, rfl⟩ := hshape
    rw [findTree_strict, ← findTree_document]
    refine h.append (allWorded_flatMap fun key hkey => ?_)
    obtain ⟨v, hv⟩ := exists_lookup_of_mem_extraKeys hkey
    have hP : P key := (ha.entry _ (mem_of_lookup hv)).1
    exact allWorded_extra hP
  · have hsame : findTree k (.rule label (.equal (.document entries))) a = findTree k (.document entries) a := by
      cases a with
      | document actual => exact absurd ⟨actual, rfl⟩ hshape
      | _ => rfl
    rw [hsame]
    exact h

theorem allWorded_array {items : List Expected}
    (h : ∀ e ∈ items, ∀ a, Legible P a → AllWorded k P (findTree k e a)) {a : Value} (ha : Legible P a) :
    AllWorded k P (findTree k (.array items) a) := by
  by_cases hshape : ∃ values, a = .array values
  · obtain ⟨values, rfl⟩ := hshape
    by_cases hlength : items.length = values.length
    · rw [findTree_array k hlength]
      refine allWorded_flatMap ?_
      rintro ⟨⟨e, v⟩, i⟩ hmem
      obtain ⟨he, hv⟩ := List.of_mem_zip (List.fst_mem_of_mem_zipIdx hmem)
      exact allWorded_below nofun (h e he v (ha.item v hv))
    · rw [findTree_array_length k hlength]
      exact allWorded_here ⟨by simp, by simp⟩
  · rw [findTree_array_shape k items fun values hvalues => hshape ⟨values, hvalues⟩]
    exact allWorded_here ⟨by simp, by simp⟩

end Findings

/-! ## The main statement -/

/-- Whatever there is to find is worded, in either mode. -/
theorem findTree_allWorded {P : String → Prop} {e : Expected} (he : Keyed P e) (k : Bool) {a : Value}
    (ha : Legible P a) : AllWorded k P (findTree k e a) := by
  induction he generalizing a with
  | null => exact (saysSentence_leaf (.null : Legible P (view .null)) ha).allWorded
  | bool b => exact (saysSentence_leaf (.bool b : Legible P (view (.bool b))) ha).allWorded
  | int i => exact (saysSentence_leaf (.int i : Legible P (view (.int i))) ha).allWorded
  | float x => exact (saysSentence_leaf (.float x : Legible P (view (.float x))) ha).allWorded
  | string s => exact (saysSentence_leaf (.string s : Legible P (view (.string s))) ha).allWorded
  | array _ ih => exact allWorded_array (fun e he a => ih e he) ha
  | document hkeys _ ih => exact allWorded_document hkeys (fun entry hmem a => ih entry hmem) ha
  | @rule label r hcustom hoperands ih =>
      -- messages about operands show them by their texts, which have no line feed in them
      have htexts : ∀ es : List Expected, (∀ e ∈ es, Keyed P e) →
          ∀ o ∈ findOperands k es, '\n' ∉ o.1.toList := by
        intro es hes
        rw [findOperands_eq_map]
        exact List.forall_mem_map.mpr fun e he => (hes e he).legible_view.lineFeed_notMem_display
      cases r with
      | equal e =>
          have hpayload : AllWorded k P (findTree k e a) := ih e List.mem_cons_self ha
          by_cases hshape : ∃ entries, e = .document entries
          · obtain ⟨entries, rfl⟩ := hshape
            exact allWorded_strict label ha hpayload
          · rw [findTree_same fun entries hentries => hshape ⟨entries, hentries⟩]
            exact hpayload
      | notEqual e => exact (saysSentence_notEqual (hoperands e List.mem_cons_self).legible_view a).allWorded
      | nil target explicit => exact (saysSentence_nil target explicit a).allWorded
      | required => exact (saysSentence_required a).allWorded
      | any => exact allWorded_nil
      | empty want => exact (saysSentence_empty want ha).allWorded
      | pattern p => exact (saysSentence_pattern p a).allWorded
      | elementsMatch es => exact allWorded_elementsMatch (htexts es hoperands) a
      | length bounds => exact allWorded_length bounds a
      | inSet es => exact allWorded_inSet (htexts es hoperands) ha
      | numeric bound => exact (saysSentence_numeric bound a).allWorded
      | and es =>
          rw [findTree_and]
          exact allWorded_flatMap fun e he => ih e he ha
      | or es =>
          rw [findTree_or]
          exact allWorded_or (List.forall_mem_map.mpr fun e he => ih e he ha)
      | nor es => exact allWorded_nor 0 _ a
      | not e => exact allWorded_not _ a
      | custom name run => cases hcustom

end Conformance
