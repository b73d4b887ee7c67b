import Conformance.CommandLine.Run
import Conformance.Proofs.Blame
import Conformance.Proofs.Wording
import Mathlib

/-!
# Reports on texts

What a report says does not depend on how it is asked for. Whether two texts can be compared is a matter of
the texts alone, the exit status tells whether the one satisfies the other, and the text of a report is that of
an empty one only if nothing is wrong.

A report in text form is meant to have one line for each mismatch. Messages keep to that, but paths do not: they
show keys as they are, so that a key with a line feed breaks the line. The lines are counted with this in mind.
-/

set_option autoImplicit false

namespace Conformance

/-! ## Texts that can be compared -/

def readTexts (r : Registry) (expected actual : String) : Except TextsError (Expected × Value) := do
  let e ← (r.decodeText 0 expected).mapError .expected
  let j ← (Json.read actual).mapError .actual
  return (e, .ofJson j)

/-- The texts are read before the tester is asked. -/
theorem checkTexts_eq_map (r : Registry) (t : Tester) (expected actual : String) :
    checkTexts r t expected actual = (readTexts r expected actual).map fun sides =>
      (.ofOutcome (t.test sides.1 sides.2).1, (t.test sides.1 sides.2).2) := by
  unfold checkTexts readTexts
  cases (r.decodeText 0 expected).mapError TextsError.expected with
  | error err => rfl
  | ok e =>
      cases (Json.read actual).mapError TextsError.actual with
      | error err => rfl
      | ok j => rfl

/-- Whether two texts can be compared is none of the tester's business. -/
theorem checkTexts_error_iff {r : Registry} (t : Tester) {expected actual : String} :
    (∃ err, checkTexts r t expected actual = .error err) ↔ ∃ err, readTexts r expected actual = .error err := by
  rw [checkTexts_eq_map]
  cases readTexts r expected actual with
  | error err => exact iff_of_true ⟨err, rfl⟩ ⟨err, rfl⟩
  | ok sides => exact iff_of_false nofun nofun

theorem checkTexts_eq_ok_iff {r : Registry} {t after : Tester} {expected actual : String} {report : Report} :
    checkTexts r t expected actual = .ok (report, after) ↔ ∃ e a, readTexts r expected actual = .ok (e, a) ∧
      report = .ofOutcome (t.test e a).1 ∧ after = (t.test e a).2 := by
  rw [checkTexts_eq_map, map_eq_ok_iff]
  constructor
  · rintro ⟨⟨e, a⟩, hread, hdone⟩
    obtain ⟨hreport, hafter⟩ := Prod.mk.inj hdone
    exact ⟨e, a, hread, hreport.symm, hafter.symm⟩
  · rintro ⟨e, a, hread, rfl, rfl⟩
    exact ⟨(e, a), hread, rfl⟩

/-- Two sides were read from texts if both are JSON and the expected one is decoded. -/
theorem readTexts_eq_ok_iff {r : Registry} {expected actual : String} {e : Expected} {a : Value} :
    readTexts r expected actual = .ok (e, a) ↔ ∃ want got, Json.read expected = .ok want ∧
      r.decode 0 want = .ok e ∧ Json.read actual = .ok got ∧ a = .ofJson got := by
  -- the expected side is read and decoded in one go, and the actual side is only read
  have hdecoded : ∀ e, r.decodeText 0 expected = .ok e
      ↔ ∃ want, Json.read expected = .ok want ∧ r.decode 0 want = .ok e := by
    intro e
    unfold Registry.decodeText
    cases Json.read expected with
    | error err => exact iff_of_false nofun (by rintro ⟨want, ⟨⟩, -⟩)
    | ok want =>
        constructor
        · intro h
          exact ⟨want, rfl, h⟩
        · rintro ⟨want', ⟨⟩, h⟩
          exact h
  unfold readTexts
  rw [bind_eq_ok_iff]
  constructor
  · rintro ⟨e', he, hrest⟩
    obtain ⟨got, hgot, hsides⟩ := bind_eq_ok_iff.mp hrest
    cases hsides
    obtain ⟨want, hwant, hdecode⟩ := (hdecoded e).mp (mapError_eq_ok_iff.mp he)
    exact ⟨want, got, hwant, hdecode, mapError_eq_ok_iff.mp hgot, rfl⟩
  · rintro ⟨want, got, hwant, hdecode, hgot, rfl⟩
    have he := (hdecoded e).mpr ⟨want, hwant, hdecode⟩
    exact ⟨e, mapError_eq_ok_iff.mpr he, bind_eq_ok_iff.mpr ⟨got, mapError_eq_ok_iff.mpr hgot, rfl⟩⟩

/-- A value cannot be decoded exactly if one of its directives is refused. -/
theorem decode_eq_error_iff {j : Json} : (∀ e, Registry.builtin.decode 0 j ≠ .ok e)
    ↔ ∃ s source, s ∈ Directive.sites j ∧ s.Refused source := by
  constructor
  · intro h
    cases hdecode : Registry.builtin.decode 0 j with
    | ok e => exact absurd hdecode (h e)
    | error err =>
        obtain ⟨before, s, after, source, hsites, -, hrefused, -⟩ := (Directive.judging j [0]).blames err hdecode
        have hmem : s ∈ Directive.sites j := by
          rw [hsites]
          exact List.mem_append_right before List.mem_cons_self
        exact ⟨s, source, hmem, hrefused⟩
  · rintro ⟨s, source, hmem, hrefused⟩ e he
    exact hrefused.not_accepted ((Directive.judging j [0]).accepted e he s hmem)

/-- Two texts cannot be compared if one of them is no JSON, or a directive in the expected one is refused. -/
theorem readTexts_error_iff {expected actual : String} :
    (∃ err, readTexts .builtin expected actual = .error err) ↔ (∀ j, Json.read expected ≠ .ok j) ∨
      (∃ j s source, Json.read expected = .ok j ∧ s ∈ Directive.sites j ∧ s.Refused source) ∨
      ∀ j, Json.read actual ≠ .ok j := by
  have hok : (∃ err, readTexts .builtin expected actual = .error err)
      ↔ ¬ ∃ e a, readTexts .builtin expected actual = .ok (e, a) := by
    cases readTexts .builtin expected actual with
    | error err => simp
    | ok sides => exact iff_of_false nofun (not_not_intro ⟨sides.1, sides.2, rfl⟩)
  rw [hok]
  constructor
  · intro hnone
    by_cases hexpected : ∀ j, Json.read expected ≠ .ok j
    · exact .inl hexpected
    by_cases hactual : ∀ j, Json.read actual ≠ .ok j
    · exact .inr (.inr hactual)
    -- both texts are JSON, so that only a directive can stand in the way
    push Not at hexpected hactual
    obtain ⟨want, hwant⟩ := hexpected
    obtain ⟨got, hgot⟩ := hactual
    have hdecode : ∀ e, Registry.builtin.decode 0 want ≠ .ok e := fun e he =>
      hnone ⟨e, _, readTexts_eq_ok_iff.mpr ⟨want, got, hwant, he, hgot, rfl⟩⟩
    obtain ⟨s, source, hmem, hrefused⟩ := decode_eq_error_iff.mp hdecode
    exact .inr (.inl ⟨want, s, source, hwant, hmem, hrefused⟩)
  · rintro herror ⟨e, a, hread⟩
    obtain ⟨want, got, hwant, hdecode, hgot, -⟩ := readTexts_eq_ok_iff.mp hread
    rcases herror with hexpected | ⟨j, s, source, hj, hmem, hrefused⟩ | hactual
    · exact hexpected want hwant
    · have hsame : j = want := Except.ok.inj (hj.symm.trans hwant)
      subst hsame
      exact decode_eq_error_iff.mpr ⟨s, source, hmem, hrefused⟩ e hdecode
    · exact hactual got hgot

/-- What is read from texts has the keys of the texts. -/
theorem keyed_of_readTexts {P : String → Prop} {expected actual : String} {e : Expected} {a : Value}
    (hread : readTexts .builtin expected actual = .ok (e, a))
    (hP : ∀ j, Json.read expected = .ok j ∨ Json.read actual = .ok j → ∀ key, j.HasKey key → P key) :
    Keyed P e ∧ Legible P a := by
  obtain ⟨want, got, hwant, hdecode, hgot, rfl⟩ := readTexts_eq_ok_iff.mp hread
  constructor
  · exact Registry.keyed_of_decodesTo (hP want (.inl hwant)) ⟨[0], hdecode⟩
  · exact legible_ofJson (hP got (.inr hgot))

theorem builtin_of_readTexts {expected actual : String} {e : Expected} {a : Value}
    (hread : readTexts .builtin expected actual = .ok (e, a)) : Builtin e :=
  (keyed_of_readTexts (P := fun _ => True) hread fun _ _ _ _ => trivial).1.builtin

/-! ## Exit status -/

namespace Report

theorem mismatches_ofOutcome (outcome : Outcome) : (ofOutcome outcome).mismatches = outcome.mismatches := by
  cases outcome <;> rfl

/-- The status tells whether the comparison succeeded. -/
theorem exitCode_ofOutcome (outcome : Outcome) :
    (ofOutcome outcome).exitCode = if outcome = .ok () then 0 else 1 := by
  cases outcome with
  | ok _ => rfl
  | error failure => rfl

/-- A failure has at least one mismatch, so that only the report of a success is empty. -/
theorem mismatches_ofOutcome_eq_nil_iff {outcome : Outcome} :
    (ofOutcome outcome).mismatches = [] ↔ outcome = .ok () := by
  cases outcome with
  | ok _ => exact iff_of_true rfl rfl
  | error failure =>
      refine iff_of_false ?_ nofun
      cases failure with
      | single m => exact List.cons_ne_nil m []
      | several ms => exact List.cons_ne_nil ms.first ms.rest

/-- The status and the list of mismatches tell the same, although neither is made from the other. -/
theorem exitCode_ofOutcome_eq_zero_iff {outcome : Outcome} :
    (ofOutcome outcome).exitCode = 0 ↔ (ofOutcome outcome).mismatches = [] := by
  rw [mismatches_ofOutcome_eq_nil_iff, exitCode_ofOutcome]
  split
  · rename_i hok
    exact iff_of_true rfl hok
  · rename_i hfail
    exact iff_of_false Nat.one_ne_zero hfail

/-- Any two testers give the same status. -/
theorem exitCode_test_eq {e : Expected} (h : Builtin e) (t t' : Tester) (a : Value) :
    (ofOutcome (t.test e a).1).exitCode = (ofOutcome (t'.test e a).1).exitCode := by
  have hok : ∀ t : Tester, (t.test e a).1 = .ok () ↔ Sat e a := fun t =>
    ⟨Tester.sat_of_test_eq_ok h, fun hsat => Tester.test_eq_ok_of_sat h hsat t⟩
  rw [exitCode_ofOutcome, exitCode_ofOutcome]
  exact if_congr ((hok t).trans (hok t').symm) rfl rfl

/-- A tester that stops has one mismatch to report. -/
theorem length_mismatches_stop {t : Tester} (hmode : t.options.collectAll = false) {e : Expected} {a : Value}
    (hfail : (ofOutcome (t.test e a).1).exitCode ≠ 0) : (ofOutcome (t.test e a).1).mismatches.length = 1 := by
  rw [Ne, exitCode_ofOutcome_eq_zero_iff] at hfail
  rw [mismatches_ofOutcome, Tester.test_eq_verdict, hmode] at hfail ⊢
  cases hfound : findTree false e a with
  | nil =>
      rw [hfound] at hfail
      exact absurd rfl hfail
  | cons first rest => rfl

/-! ## Reports that say nothing -/

theorem render_text_of_ne_nil {r : Report} (h : r.mismatches ≠ []) :
    r.render .text = String.join (r.mismatches.map fun m => m.text ++ "\n") := by
  have hempty : ¬ r.mismatches.isEmpty = true := by
    rw [List.isEmpty_iff]
    exact h
  exact if_neg hempty

/-- Every mismatch has a message of more than one word, and `ok` is one word. -/
theorem render_text_eq_iff {r : Report} (h : ∀ m ∈ r.mismatches, ' ' ∈ m.message.toList) :
    r.render .text = "ok\n" ↔ r.mismatches = [] := by
  constructor
  · intro hok
    by_contra hsome
    obtain ⟨m, hm⟩ := List.exists_mem_of_ne_nil _ hsome
    have hmessage : ' ' ∈ m.message.toList := h m hm
    have hblank : ' ' ∈ m.text.toList := by
      unfold Mismatch.text
      split
      · exact hmessage
      · simp
    have hmem : ' ' ∈ (r.render .text).toList := by
      rw [render_text_of_ne_nil hsome, String.toList_join, List.flatMap_map, List.mem_flatMap]
      exact ⟨m, hm, by simp [hblank]⟩
    rw [hok] at hmem
    simp at hmem
  · intro hnone
    unfold render
    rw [hnone]
    rfl

/-- An array with items starts a new line behind its bracket. -/
theorem prettyAt_array_cons (level : Nat) (x : Json) (rest : List Json) :
    ∃ text, Json.prettyAt level (.array (x :: rest)) = "[" ++ Json.newLine (level + 1) ++ text := by
  have harray : Json.prettyAt level (.array (x :: rest))
      = "[" ++ Json.prettyItems (level + 1) (x :: rest) ++ Json.newLine level ++ "]" := rfl
  rw [harray]
  cases rest with
  | nil => exact ⟨_, by rw [Json.prettyItems]; simp only [String.append_assoc]; rfl⟩
  | cons y rest =>
      have hitems : Json.prettyItems (level + 1) (x :: y :: rest) = Json.newLine (level + 1) ++
          Json.prettyAt (level + 1) x ++ "," ++ Json.prettyItems (level + 1) (y :: rest) := rfl
      exact ⟨_, by rw [hitems]; simp only [String.append_assoc]; rfl⟩

/-- An array with items is never written as `[]`. -/
theorem render_json_eq_iff {r : Report} : r.render .json = "[]\n" ↔ r.mismatches = [] := by
  unfold render mismatchesJson
  cases r.mismatches with
  | nil => exact iff_of_true rfl rfl
  | cons m rest =>
      refine iff_of_false ?_ (List.cons_ne_nil m rest)
      obtain ⟨text, htext⟩ := prettyAt_array_cons 0 m.toJson (rest.map Mismatch.toJson)
      intro hok
      dsimp only at hok
      rw [List.map_cons, Json.pretty, htext] at hok
      have hlist := congrArg String.toList hok
      simp [Json.newLine] at hlist

/-! ## Lines -/

/-- The line feeds of a mismatch are those of its path, if its message has none. -/
theorem count_lineFeed_mismatch (m : Mismatch) (hmessage : '\n' ∉ m.message.toList) :
    m.text.toList.count '\n' = m.path.text.toList.count '\n' := by
  have hcount : m.message.toList.count '\n' = 0 := List.count_eq_zero.mpr hmessage
  unfold Mismatch.text
  split
  · rename_i hroot
    rw [Path.isRoot_iff] at hroot
    rw [hroot, hcount]
    rfl
  · simp [List.count_append, hcount]

/-- A line feed ends every mismatch, and there are those that are in the texts of the mismatches. -/
theorem count_lineFeed_render {r : Report} (h : r.mismatches ≠ []) :
    (r.render .text).toList.count '\n'
      = r.mismatches.length + (r.mismatches.map fun m => m.text.toList.count '\n').sum := by
  rw [render_text_of_ne_nil h]
  generalize r.mismatches = ms
  induction ms with
  | nil => simp
  | cons m rest ih =>
      have hfirst : (m.text ++ "\n").toList.count '\n' = m.text.toList.count '\n' + 1 := by
        rw [String.toList_append, List.count_append]
        rfl
      rw [List.map_cons, String.join_cons, String.toList_append, List.count_append, hfirst, ih,
        List.length_cons, List.map_cons, List.sum_cons]
      omega

end Report

/-! ## Comparisons of texts -/

/-- What is found between texts is worded, with the keys of the texts. -/
theorem worded_of_checkTexts {P : String → Prop} {t after : Tester} {expected actual : String} {report : Report}
    (h : checkTexts .builtin t expected actual = .ok (report, after))
    (hP : ∀ j, Json.read expected = .ok j ∨ Json.read actual = .ok j → ∀ key, j.HasKey key → P key) :
    AllWorded t.options.collectAll P report.mismatches := by
  obtain ⟨e, a, hread, rfl, -⟩ := checkTexts_eq_ok_iff.mp h
  obtain ⟨he, ha⟩ := keyed_of_readTexts hread hP
  intro m hm
  rw [Report.mismatches_ofOutcome, Tester.test_eq_verdict] at hm
  exact findTree_allWorded he t.options.collectAll ha m (mem_of_mem_mismatches_verdict hm)

/-- Any two testers come to the same status for two texts, or to the same error. -/
theorem exitCode_checkTexts_eq (expected actual : String) (t t' : Tester) :
    (checkTexts .builtin t expected actual).map (fun done => done.1.exitCode)
      = (checkTexts .builtin t' expected actual).map fun done => done.1.exitCode := by
  rw [checkTexts_eq_map, checkTexts_eq_map]
  cases hread : readTexts .builtin expected actual with
  -- both sides are the same error; the two testers are not to be compared for that
  | error err => simp only [Except.map]
  | ok sides =>
      have hbuiltin : Builtin sides.1 := builtin_of_readTexts hread
      have hsame := Report.exitCode_test_eq hbuiltin t t' sides.2
      simp only [Except.map, hsame]

/-! ## The command line -/

namespace CommandLine

variable {m : Type → Type} [Monad m]

def checkUnder (source : InputSource m) (expected actual : String) (o : Options) :
    ExceptT CommandError m Report := do
  let expected ← readInput source expected
  let actual ← readInput source actual
  match checkTexts .builtin (.ofOptions o) expected actual with
  | .ok (report, _) => return report
  | .error error => throw (.ofTexts error)

variable [LawfulMonad m]

/-- The exit status of a comparison of texts, as a command hands it on. -/
theorem exitCode_ofTexts (result : Except TextsError (Report × Tester)) :
    Report.exitCode <$> (match result with
      | .ok (report, _) => return report
      | .error error => throw (.ofTexts error) : ExceptT CommandError m Report)
      = match result.map fun done => done.1.exitCode with
        | .ok code => return code
        | .error error => throw (.ofTexts error) := by
  cases result with
  | ok done => simp [Except.map]
  | error err => simp [Except.map]

/-- The files are read before the options matter. -/
theorem exitCode_checkUnder_eq (source : InputSource m) (expected actual : String) (o o' : Options) :
    Report.exitCode <$> checkUnder source expected actual o
      = Report.exitCode <$> checkUnder source expected actual o' := by
  unfold checkUnder
  rw [map_bind, map_bind]
  refine bind_congr fun want => ?_
  rw [map_bind, map_bind]
  refine bind_congr fun got => ?_
  have hsame := exitCode_checkTexts_eq want got (.ofOptions o) (.ofOptions o')
  rw [exitCode_ofTexts, exitCode_ofTexts, hsame]

/-- Whatever options are asked for, on top of those of a file, and in whatever format, a check of the same inputs
ends with the same status or with the same error. -/
theorem exitCode_check_eq (source : InputSource m) {a a' : CheckArguments} (hexpected : a'.expected = a.expected)
    (hactual : a'.actual = a.actual) (hconfig : a'.config = a.config) :
    Report.exitCode <$> check source a = Report.exitCode <$> check source a' := by
  have hsame := exitCode_checkUnder_eq source a.expected a.actual
  unfold checkUnder at hsame
  unfold check loadOptions
  rw [hexpected, hactual, hconfig]
  dsimp only
  -- the standard input cannot be both sides, and then no options are asked for
  by_cases htwice : (a.expected = "-" && a.actual = "-") = true
  · rw [if_pos htwice, if_pos htwice]
    simp
  · rw [if_neg htwice, if_neg htwice]
    cases a.config with
    | none =>
        simp only [pure_bind]
        exact hsame _ _
    | some name =>
        simp only [bind_assoc]
        rw [map_bind, map_bind]
        refine bind_congr fun text => ?_
        cases Options.read text with
        | ok options =>
            simp only [pure_bind]
            exact hsame _ _
        | error err => simp

end CommandLine

/-! ## The main statements -/

/-- **The verdict does not depend on how it is reported.** Any two testers come to the same exit status for two
texts, or to the same error; there is an error exactly if one of the texts is no JSON or a directive in the
expected one is refused. The status tells whether the comparison succeeded, in either format only an empty
report looks like one, and a tester that stops reports a single mismatch. -/
theorem checkTexts_verdict (expected actual : String) :
    (∀ t t' : Tester, (checkTexts .builtin t expected actual).map (fun done => done.1.exitCode)
      = (checkTexts .builtin t' expected actual).map fun done => done.1.exitCode) ∧
    (∀ t : Tester, (∃ err, checkTexts .builtin t expected actual = .error err) ↔
      (∀ j, Json.read expected ≠ .ok j) ∨
      (∃ j s source, Json.read expected = .ok j ∧ s ∈ Directive.sites j ∧ s.Refused source) ∨
      ∀ j, Json.read actual ≠ .ok j) ∧
    ∀ (t after : Tester) (report : Report),
      checkTexts .builtin t expected actual = .ok (report, after) →
      (∃ e a, readTexts .builtin expected actual = .ok (e, a) ∧
        report.exitCode = if (t.test e a).1 = .ok () then 0 else 1) ∧
      (report.render .text = "ok\n" ↔ report.exitCode = 0) ∧
      (report.render .json = "[]\n" ↔ report.exitCode = 0) ∧
      (t.options.collectAll = false → report.exitCode ≠ 0 → report.mismatches.length = 1) := by
  refine ⟨exitCode_checkTexts_eq expected actual, fun t => ?_, fun t after report h => ?_⟩
  · rw [checkTexts_error_iff, readTexts_error_iff]
  · have hworded := worded_of_checkTexts (P := fun _ => True) h fun _ _ _ _ => trivial
    obtain ⟨e, a, hread, rfl, -⟩ := checkTexts_eq_ok_iff.mp h
    refine ⟨⟨e, a, hread, Report.exitCode_ofOutcome _⟩, ?_, ?_,
      fun hmode hfail => Report.length_mismatches_stop hmode hfail⟩
    · rw [Report.exitCode_ofOutcome_eq_zero_iff]
      exact Report.render_text_eq_iff fun m hm => (hworded m hm).blank
    · rw [Report.exitCode_ofOutcome_eq_zero_iff]
      exact Report.render_json_eq_iff

/-- A document that lacks two keys: one of them is reported, and with both the status would be the same. -/
theorem checkTexts_verdict_two_missing :
    let expected := "\x7b\"a\": 1, \"b\": 2\x7d"
    let actual := "\x7b\x7d"
    let t : Tester := .ofOptions { threshold := 0 }
    ∃ report after, checkTexts .builtin t expected actual = .ok (report, after) ∧
      report.exitCode = 1 ∧ report.mismatches.length = 1 ∧ report.render .text ≠ "ok\n" ∧
      report.render .json ≠ "[]\n" ∧
      (checkTexts .builtin (.ofOptions { collectAll := true }) expected actual).map
        (fun done => done.1.exitCode) = .ok 1 := by
  intro expected actual t
  have hdone : (checkTexts .builtin t expected actual).map (fun done => done.1.exitCode) = .ok 1 := by cbv
  obtain ⟨hsame, -, hreport⟩ := checkTexts_verdict expected actual
  obtain ⟨⟨report, after⟩, h, hcode⟩ := map_eq_ok_iff.mp hdone
  have hcode : report.exitCode = 1 := hcode
  obtain ⟨-, htext, hjson, hone⟩ := hreport t after report h
  refine ⟨report, after, h, hcode, hone rfl (by omega), fun hok => ?_, fun hok => ?_, ?_⟩
  · have hzero : report.exitCode = 0 := htext.mp hok
    omega
  · have hzero : report.exitCode = 0 := hjson.mp hok
    omega
  · rw [hsame _ t, hdone]

/-- **The lines of a report.** There is at least one line for each mismatch. Where all mismatches are collected,
there are more only by the line feeds in paths, and in either mode there are no more if no key in the texts has
a line feed. -/
theorem checkTexts_lines {t after : Tester} {expected actual : String} {report : Report}
    (h : checkTexts .builtin t expected actual = .ok (report, after)) (hfail : report.mismatches ≠ []) :
    report.mismatches.length ≤ (report.render .text).toList.count '\n' ∧
    (t.options.collectAll = true → (report.render .text).toList.count '\n' = report.mismatches.length +
      (report.mismatches.map fun m => m.path.text.toList.count '\n').sum) ∧
    ((∀ j, Json.read expected = .ok j ∨ Json.read actual = .ok j → ∀ key, j.HasKey key → '\n' ∉ key.toList) →
      (report.render .text).toList.count '\n' = report.mismatches.length) := by
  have hcount := Report.count_lineFeed_render hfail
  refine ⟨by omega, fun hmode => ?_, fun hkeys => ?_⟩
  · have hworded := worded_of_checkTexts (P := fun _ => True) h fun _ _ _ _ => trivial
    have hpaths : (report.mismatches.map fun m => m.text.toList.count '\n')
        = report.mismatches.map fun m => m.path.text.toList.count '\n' :=
      List.map_congr_left fun m hm => Report.count_lineFeed_mismatch m ((hworded m hm).line (.inl hmode))
    rw [hcount, hpaths]
  · have hworded := worded_of_checkTexts h hkeys
    have hnone : ∀ n ∈ report.mismatches.map fun m => m.text.toList.count '\n', n = 0 := by
      refine List.forall_mem_map.mpr fun m hm => List.count_eq_zero.mpr ?_
      exact (hworded m hm).lineFeed_notMem_text fun _ hkey => hkey
    rw [hcount, List.sum_eq_zero_iff_forall_eq_nat.mpr hnone, Nat.add_zero]

/-- Two keys are missing, in as many lines. -/
theorem checkTexts_lines_two_missing :
    let expected := "\x7b\"a\": 1, \"b\": 2\x7d"
    let actual := "\x7b\x7d"
    ∃ report after, checkTexts .builtin (.ofOptions { collectAll := true }) expected actual = .ok (report, after) ∧
      report.mismatches.length = 2 ∧ (report.render .text).toList.count '\n' = 2 := by
  intro expected actual
  have hdone : (checkTexts .builtin (.ofOptions { collectAll := true }) expected actual).map
      (fun done => done.1.mismatches.length) = .ok 2 := by cbv
  have hexpected : Json.read expected = .ok (.object [("a", .integer 1), ("b", .integer 2)]) := by cbv
  have hactual : Json.read actual = .ok (.object []) := by cbv
  have hkeys : ∀ j, Json.read expected = .ok j ∨ Json.read actual = .ok j →
      ∀ key, j.HasKey key → '\n' ∉ key.toList := by
    rintro j (hj | hj) key hkey
    · cases hexpected.symm.trans hj
      cases hkey with
      | here hmem hname =>
          subst hname
          simp only [List.mem_cons, List.not_mem_nil, or_false] at hmem
          rcases hmem with rfl | rfl <;> simp
      | member hmem hvalue =>
          simp only [List.mem_cons, List.not_mem_nil, or_false] at hmem
          rcases hmem with rfl | rfl <;> cases hvalue
    · cases hactual.symm.trans hj
      cases hkey with
      | here hmem => cases hmem
      | member hmem => cases hmem
  obtain ⟨⟨report, after⟩, h, hlength⟩ := map_eq_ok_iff.mp hdone
  have hlength : report.mismatches.length = 2 := hlength
  have hfail : report.mismatches ≠ [] := by
    intro hnone
    rw [hnone] at hlength
    cases hlength
  exact ⟨report, after, h, hlength, ((checkTexts_lines h hfail).2.2 hkeys).trans hlength⟩

/-- A key with a line feed is missing: the one mismatch takes two lines. -/
theorem checkTexts_lines_broken_key :
    ∃ report after,
      checkTexts .builtin (.ofOptions {}) "\x7b\"a\\nb\": 1\x7d" "\x7b\x7d" = .ok (report, after) ∧
      report.mismatches ≠ [] ∧ (report.render .text).toList.count '\n' ≠ report.mismatches.length := by
  have hdone : (checkTexts .builtin (.ofOptions {}) "\x7b\"a\\nb\": 1\x7d" "\x7b\x7d").map
      (fun done => (done.1.mismatches.length, (done.1.render .text).toList.count '\n')) = .ok (1, 2) := by cbv
  obtain ⟨⟨report, after⟩, h, hcounts⟩ := map_eq_ok_iff.mp hdone
  obtain ⟨hlength, hlines⟩ := Prod.mk.inj hcounts
  have hlength : report.mismatches.length = 1 := hlength
  have hlines : (report.render .text).toList.count '\n' = 2 := hlines
  refine ⟨report, after, h, ?_, by omega⟩
  intro hnone
  rw [hnone] at hlength
  cases hlength

end Conformance
