import Conformance.Proofs.Delimited
import Conformance.Proofs.Reports

/-!
# The texts of paths

A report shows the path of a mismatch by its text. In it the steps stand one behind the other, each with a full stop
or a bracket at its beginning, and keys are written as they are. If no key has one of these two letters in it
(`PlainKey`), then a step ends where another one begins, and the text tells the path: keys may be empty, be made of
digits or hold the other bracket.
-/

set_option autoImplicit false

namespace Conformance

/-- The key has neither of the two letters with which a step of a path begins. -/
def PlainKey (key : String) : Prop := '.' ∉ key.toList ∧ '[' ∉ key.toList

def BeginsStep (c : Char) : Prop := c = '.' ∨ c = '['

theorem PlainKey.not_beginsStep {key : String} (h : PlainKey key) : ∀ c ∈ key.toList, ¬ BeginsStep c := by
  rintro c hc (rfl | rfl)
  · exact h.1 hc
  · exact h.2 hc

namespace Segment

def Plain (s : Segment) : Prop := ∀ key, s = .key key → PlainKey key

theorem text_key (name : String) : (Segment.key name).text.toList = '.' :: name.toList := by
  simp [text]

theorem text_index (i : Nat) : (Segment.index i).text.toList = '[' :: (i.repr.toList ++ [']']) := by
  simp [text]

theorem exists_text_eq_cons (s : Segment) : ∃ c rest, s.text.toList = c :: rest ∧ BeginsStep c := by
  cases s with
  | key name => exact ⟨_, _, text_key name, .inl rfl⟩
  | index i => exact ⟨_, _, text_index i, .inr rfl⟩

/-- The digits of an index end at the bracket. -/
theorem delimited_repr (i : Nat) :
    Delimited (fun i : Nat => i.repr.toList) (fun _ => True) (· = some ']') i := by
  have hbracket : ∀ r : List Char, r.head? = some ']' → ∀ c ∈ r.head?, ¬ c.isDigit = true := by
    intro r hr c hc
    rw [hr] at hc
    cases hc
    decide
  intro j r s _ hr hs h
  obtain ⟨hdigits, hrest⟩ := append_inj_of_run (fun c => isDigit_of_mem_repr) (fun c => isDigit_of_mem_repr)
    (hbracket r hr) (hbracket s hs) h
  exact ⟨Nat.repr_inj.mp (String.toList_inj.mp hdigits), hrest⟩

/-- A step ends where another one begins, or where the text ends. -/
theorem delimited_text {s : Segment} (hs : s.Plain) :
    Delimited (fun s => s.text.toList) Plain (fun o => ∀ c ∈ o, BeginsStep c) s := by
  intro t r r' ht hr hr' h
  dsimp only at h
  cases s with
  | key name =>
      cases t with
      | key other =>
          rw [text_key, text_key] at h
          obtain ⟨hname, hrest⟩ := append_inj_of_run (hs name rfl).not_beginsStep
            (ht other rfl).not_beginsStep (fun c hc => not_not_intro (hr c hc))
            (fun c hc => not_not_intro (hr' c hc)) (List.cons.inj h).2
          exact ⟨congrArg Segment.key (String.toList_inj.mp hname), hrest⟩
      | index j =>
          rw [text_key, text_index] at h
          cases (List.cons.inj h).1
  | index i =>
      cases t with
      | key other =>
          rw [text_key, text_index] at h
          cases (List.cons.inj h).1
      | index j =>
          rw [text_index, text_index] at h
          obtain ⟨rfl, hrest⟩ := (delimited_repr i).closed.preceded ['['] j r r' trivial trivial trivial h
          exact ⟨rfl, hrest⟩

end Segment

namespace Path

variable {p q : Path}

def PlainKeys (p : Path) : Prop := ∀ key, .key key ∈ p.segments → PlainKey key

theorem PlainKeys.plain (h : p.PlainKeys) : ∀ s ∈ p.segments, s.Plain := by
  rintro _ hmem key rfl
  exact h key hmem

/-- Step by step, each of them ends where the next one begins. -/
theorem text_inj (hp : p.PlainKeys) (hq : q.PlainKeys) : p.text = q.text ↔ p = q := by
  constructor
  · intro h
    have hfirst : ∀ s : Segment, s.Plain → ∃ c rest, s.text.toList = c :: rest ∧
        (∀ d ∈ some c, BeginsStep d) ∧ some c ≠ none := by
      intro s _
      obtain ⟨c, rest, htext, hc⟩ := s.exists_text_eq_cons
      exact ⟨c, rest, htext, fun d hd => Option.some.inj hd ▸ hc, Option.some_ne_none c⟩
    have hdelimited : Delimited (List.flatMap fun s : Segment => s.text.toList) (fun l => ∀ s ∈ l, s.Plain)
        (· = none) p.segments :=
      .flatMap (by rintro _ rfl _ ⟨⟩) hfirst hp.plain fun s hs => Segment.delimited_text (hp.plain s hs)
    rw [← String.toList_inj, toList_text, toList_text] at h
    obtain ⟨hsegments, -⟩ := hdelimited q.segments [] [] hq.plain rfl rfl (congrArg (· ++ []) h)
    cases p
    cases q
    exact congrArg Path.mk hsegments
  · rintro rfl
    rfl

end Path

namespace Mismatch

theorem member?_path (m : Mismatch) : m.toJson.member? "path" = some (.string m.path.text) := rfl

/-- Mismatches are written with the same path only if they are at the same place. -/
theorem path_eq_of_written {m n : Mismatch} (hm : m.path.PlainKeys) (hn : n.path.PlainKeys)
    (h : m.toJson.member? "path" = n.toJson.member? "path") : m.path = n.path := by
  rw [member?_path, member?_path] at h
  have htext : m.path.text = n.path.text := Json.string.inj (Option.some.inj h)
  exact (Path.text_inj hm hn).mp htext

end Mismatch

/-- **A path is known by its text** if its keys are plain. So mismatches at different places are written with
different paths, and a report on texts with plain keys never has one path for two places. -/
theorem paths_known_by_text :
    (∀ p q : Path, p.PlainKeys → q.PlainKeys → (p.text = q.text ↔ p = q)) ∧
    (∀ m n : Mismatch, m.path.PlainKeys → n.path.PlainKeys → m.path ≠ n.path →
      m.toJson.member? "path" ≠ n.toJson.member? "path") ∧
    ∀ (t after : Tester) (expected actual : String) (report : Report),
      checkTexts .builtin t expected actual = .ok (report, after) →
      (∀ j, Json.read expected = .ok j ∨ Json.read actual = .ok j → ∀ key, j.HasKey key → PlainKey key) →
      ∀ m ∈ report.mismatches, ∀ n ∈ report.mismatches, m.path ≠ n.path →
        m.toJson.member? "path" ≠ n.toJson.member? "path" := by
  refine ⟨fun p q hp hq => Path.text_inj hp hq, fun m n hm hn hne h => ?_, ?_⟩
  · exact hne (Mismatch.path_eq_of_written hm hn h)
  · intro t after expected actual report h hkeys m hm n hn hne heq
    -- the keys of a path are keys of the two texts
    have hworded := worded_of_checkTexts h hkeys
    exact hne (Mismatch.path_eq_of_written (hworded m hm).keys (hworded n hn).keys heq)

/-- Steps that look alike: an empty key, keys of digits and keys with a bracket stand beside indices. -/
theorem paths_known_by_text_lookalikes :
    let p : Path := ⟨[.key "", .key "1", .index 23]⟩
    let q : Path := ⟨[.key "", .key "1", .index 2, .key "3]"]⟩
    let expected := "\x7b\"\": [1], \"0]\": 2\x7d"
    let actual := "\x7b\"\": [3]\x7d"
    let m : Mismatch := ⟨⟨[.key "", .index 0]⟩, "expected int 1, got int 3"⟩
    let n : Mismatch := ⟨⟨[.key "0]"]⟩, "key not found"⟩
    p.text = "..1[23]" ∧ q.text = "..1[2].3]" ∧ p.text ≠ q.text ∧
    m.toJson.member? "path" ≠ n.toJson.member? "path" ∧
    ∃ report after,
      checkTexts .builtin (.ofOptions { collectAll := true }) expected actual = .ok (report, after) ∧
      report.mismatches = [m, n] ∧ ∀ m ∈ report.mismatches, ∀ n ∈ report.mismatches,
        m.path ≠ n.path → m.toJson.member? "path" ≠ n.toJson.member? "path" := by
  intro p q expected actual m n
  have hdone : (checkTexts .builtin (.ofOptions { collectAll := true }) expected actual).map
      (fun done => done.1.mismatches) = .ok [m, n] := by cbv
  have hexpected : Json.read expected
      = .ok (.object [("", .array [.integer 1]), ("0]", .integer 2)]) := by cbv
  have hactual : Json.read actual = .ok (.object [("", .array [.integer 3])]) := by cbv
  have hempty : PlainKey "" := by simp [PlainKey]
  have hclosing : PlainKey "0]" := by simp [PlainKey]
  have hitem : ∀ (i : Int) (key : String), ¬ (Json.array [.integer i]).HasKey key := by
    rintro i key (_ | ⟨hmem, h⟩)
    rw [List.mem_singleton.mp hmem] at h
    cases h
  have hkeys : ∀ j, Json.read expected = .ok j ∨ Json.read actual = .ok j →
      ∀ key, j.HasKey key → PlainKey key := by
    rintro j (hj | hj) key hkey
    · cases hexpected.symm.trans hj
      cases hkey with
      | here hmem hname =>
          subst hname
          simp only [List.mem_cons, List.not_mem_nil, or_false] at hmem
          rcases hmem with rfl | rfl
          · exact hempty
          · exact hclosing
      | member hmem hvalue =>
          simp only [List.mem_cons, List.not_mem_nil, or_false] at hmem
          rcases hmem with rfl | rfl
          · exact absurd hvalue (hitem 1 key)
          · cases hvalue
    · cases hactual.symm.trans hj
      cases hkey with
      | here hmem hname =>
          rw [← hname, List.mem_singleton.mp hmem]
          exact hempty
      | member hmem hvalue =>
          rw [List.mem_singleton.mp hmem] at hvalue
          exact absurd hvalue (hitem 3 key)
  obtain ⟨htexts, hwritten, hreports⟩ := paths_known_by_text
  obtain ⟨⟨report, after⟩, h, hmismatches⟩ := map_eq_ok_iff.mp hdone
  have hp : p.PlainKeys := by simp [p, Path.PlainKeys, PlainKey]
  have hq : q.PlainKeys := by simp [q, Path.PlainKeys, PlainKey]
  have hm : m.path.PlainKeys := by simp [m, Path.PlainKeys, PlainKey]
  have hn : n.path.PlainKeys := by simp [n, Path.PlainKeys, PlainKey]
  have hpaths : p ≠ q := by simp [p, q]
  have hplaces : m.path ≠ n.path := by simp [m, n]
  exact ⟨rfl, rfl, mt (htexts p q hp hq).mp hpaths, hwritten m n hm hn hplaces,
    report, after, h, hmismatches, hreports _ after expected actual report h hkeys⟩

/-- A key with a full stop in it reads like two keys. -/
example : (⟨[.key "a.b"]⟩ : Path).text = (⟨[.key "a", .key "b"]⟩ : Path).text := by decide

end Conformance
