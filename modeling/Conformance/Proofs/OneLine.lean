import Conformance.Proofs.Delimited
import Conformance.Rule.Text

/-!
# Texts in one line

Strings and keys are shown between quotes, with their line feeds escaped, and nothing else in the text of a value
or of a rule could break a line. So a value is shown in one line whatever its strings and keys are, unless a
custom rule in it has a name of several lines. `Legible P v` says that there is no such name, and that the keys
of the value have the property `P`; the property does not matter to how the value is shown.
-/

set_option autoImplicit false

namespace Conformance

/-! ## Numbers and words -/

/-- A letter that is no digit is not in a number. -/
theorem notMem_toDigits {c : Char} (hc : ∀ n, Nat.digitChar n ≠ c) {base : Nat} (hbase : 1 < base) (n : Nat) :
    c ∉ Nat.toDigits base n := by
  induction n using Nat.strongRecOn with
  | ind n ih =>
      rw [Nat.toDigits_eq_if hbase]
      split
      · simp [(hc n).symm]
      · rename_i hlarge
        have hsmaller : n / base < n := Nat.div_lt_self (by omega) hbase
        simp [ih (n / base) hsmaller, (hc (n % base)).symm]

@[simp] theorem lineFeed_notMem_toDigits {base : Nat} (hbase : 1 < base) (n : Nat) :
    '\n' ∉ Nat.toDigits base n :=
  notMem_toDigits (fun _ => Nat.digitChar_ne '\n' rfl) hbase n

@[simp] theorem lineFeed_notMem_int (i : Int) : '\n' ∉ i.repr.toList := by
  rw [Int.repr_eq_if]
  split <;> simp

@[simp] theorem lineFeed_notMem_boolText (b : Bool) : '\n' ∉ (boolText b).toList := by
  cases b <;> simp [boolText]

@[simp] theorem lineFeed_notMem_optionText (n : Option Nat) : '\n' ∉ (optionText n).toList := by
  cases n <;> simp [optionText]

@[simp] theorem lineFeed_notMem_kind {ρ : Type} (t : Tree ρ) : '\n' ∉ t.kind.toList := by
  cases t <;> simp [Tree.kind]

@[simp] theorem lineFeed_notMem_layout (layout : Binary64.Layout) (d : Binary64.Decimal) :
    '\n' ∉ (layout.write d).toList := by
  have hdigits : '\n' ∉ Nat.toDigits 10 d.digits := lineFeed_notMem_toDigits (by decide) d.digits
  have htake : ∀ n, '\n' ∉ (Nat.toDigits 10 d.digits).take n := fun n h => hdigits (List.mem_of_mem_take h)
  have hdrop : ∀ n, '\n' ∉ (Nat.toDigits 10 d.digits).drop n := fun n h => hdigits (List.mem_of_mem_drop h)
  have htail : '\n' ∉ (Nat.toDigits 10 d.digits).tail := fun h => hdigits (List.mem_of_mem_tail h)
  unfold Binary64.Layout.write
  dsimp only
  split
  · split <;> simp [htake, htail]
  · split
    · split <;> simp
    · split <;> simp [htake, hdrop]

@[simp] theorem lineFeed_notMem_write (layout : Binary64.Layout) (x : Binary64) :
    '\n' ∉ (x.write layout).toList := by
  cases x with
  | nan => simp [Binary64.write]
  | signed negative magnitude =>
      have hsign : '\n' ∉ (if negative then "-" else "").toList := by cases negative <;> simp
      have hpoint : '\n' ∉ (if layout.wholePoint then "0.0" else "0").toList := by
        cases layout.wholePoint <;> simp
      unfold Binary64.write
      dsimp only
      split
      · simp [hsign, hpoint]
      · split <;> simp [hsign]

@[simp] theorem lineFeed_notMem_number (n : Number) : '\n' ∉ n.display.toList ∧ '\n' ∉ n.debug.toList := by
  cases n <;> simp [Number.display, Number.debug]

/-! ## Quotes -/

/-- A line feed has a short escape; no other escape and no plain character brings one in. -/
theorem lineFeed_notMem_quotedChar (c : Char) : '\n' ∉ Text.quotedChar c := by
  fun_cases Text.quotedChar c
  case case7 hother _ _ _ _ =>
    intro h
    exact hother (List.mem_singleton.mp h).symm
  all_goals simp

@[simp] theorem lineFeed_notMem_quoted (s : String) : '\n' ∉ (Text.quoted s).toList := by
  simp [Text.quoted, lineFeed_notMem_quotedChar]

/-! ## Lists -/

/-- The texts of several things, put one after the other with the separator `s` between them: `f` is that text and
`g` that of one thing. -/
theorem lineFeed_notMem_separated {α : Type} {f : List α → String} {g : α → String} {s : String}
    (hnil : f [] = "") (hone : ∀ x, f [x] = g x) (hcons : ∀ x y rest, f (x :: y :: rest) = g x ++ s ++ f (y :: rest))
    (hs : '\n' ∉ s.toList) {l : List α} (h : ∀ x ∈ l, '\n' ∉ (g x).toList) : '\n' ∉ (f l).toList := by
  cases l with
  | nil => simp [hnil]
  | cons x rest =>
      obtain ⟨hx, hrest⟩ := List.forall_mem_cons.mp h
      rw [toList_separated hone hcons]
      simp +contextual [hx, hs, hrest]

theorem lineFeed_notMem_intercalate {s : String} (hs : '\n' ∉ s.toList) {texts : List String}
    (h : ∀ text ∈ texts, '\n' ∉ text.toList) : '\n' ∉ (s.intercalate texts).toList :=
  lineFeed_notMem_separated (f := s.intercalate) (g := id) rfl (fun _ => String.intercalate_singleton)
    (fun _ _ _ => String.intercalate_cons_cons) hs h

/-! ## Values -/

def Tree.entryDebug (entry : String × Value) : String :=
  "Entry \x7b key: " ++ Text.quoted entry.1 ++ ", value: " ++ entry.2.debug ++ " \x7d"

theorem Tree.debugEntries_singleton (entry : String × Value) : Tree.debugEntries [entry] = entryDebug entry := rfl

/-- The comma between two entries is written together with the end of the first one. -/
theorem Tree.debugEntries_cons_cons (x y : String × Value) (rest : List (String × Value)) :
    Tree.debugEntries (x :: y :: rest) = entryDebug x ++ ", " ++ Tree.debugEntries (y :: rest) := by
  have hcons : Tree.debugEntries (x :: y :: rest) = "Entry \x7b key: " ++ Text.quoted x.1 ++ ", value: " ++
      x.2.debug ++ " \x7d, " ++ Tree.debugEntries (y :: rest) := rfl
  rw [hcons, ← String.toList_inj]
  unfold entryDebug
  simp

/-- No rule in the value is shown over several lines, and the keys have a property. -/
inductive Legible (P : String → Prop) : Value → Prop where
  | null : Legible P .null
  | bool (b : Bool) : Legible P (.bool b)
  | int (i : Int) : Legible P (.int i)
  | float (x : Binary64) : Legible P (.float x)
  | string (s : String) : Legible P (.string s)
  | array {items : List Value} (h : ∀ v ∈ items, Legible P v) : Legible P (.array items)
  | document {entries : List (String × Value)} (hkeys : ∀ entry ∈ entries, P entry.1)
      (h : ∀ entry ∈ entries, Legible P entry.2) : Legible P (.document entries)
  | rule (label : Label) {text : String} (h : '\n' ∉ text.toList) : Legible P (.rule label text)

namespace Legible

variable {P : String → Prop} {v : Value}

theorem item {items : List Value} (h : Legible P (.array items)) : ∀ v ∈ items, Legible P v := by
  cases h with
  | array h => exact h

theorem entry {entries : List (String × Value)} (h : Legible P (.document entries)) :
    ∀ entry ∈ entries, P entry.1 ∧ Legible P entry.2 := by
  cases h with
  | document hkeys h => exact fun entry hmem => ⟨hkeys entry hmem, h entry hmem⟩

/-- By induction on the value; keys are shown between quotes here, unlike in paths. -/
theorem lineFeed_notMem_display (h : Legible P v) : '\n' ∉ v.display.toList := by
  induction h with
  | @array items _ ih =>
      have hitems : '\n' ∉ (Tree.displayItems items).toList :=
        lineFeed_notMem_separated (g := Tree.display) (s := ", ") rfl (fun _ => rfl)
          (fun _ _ _ => rfl) (by simp) ih
      simp [Tree.display, hitems]
  | @document entries _ _ ih =>
      have hentries : '\n' ∉ (Tree.displayEntries entries).toList :=
        lineFeed_notMem_separated (g := fun entry => Text.quoted entry.1 ++ ": " ++ entry.2.display)
          (s := ", ") rfl (fun _ => rfl) (fun _ _ _ => rfl) (by simp)
          fun entry hmem => by simp [ih entry hmem]
      simp [Tree.display, hentries]
  | rule label h => exact h
  | _ => simp [Tree.display]

theorem lineFeed_notMem_debug (h : Legible P v) : '\n' ∉ v.debug.toList := by
  -- `debug` is unfolded as a whole: to derive its equations one by one takes too long
  induction h with
  | @array items _ ih =>
      have hitems : '\n' ∉ (Tree.debugItems items).toList :=
        lineFeed_notMem_separated (g := Tree.debug) (s := ", ") rfl (fun _ => rfl)
          (fun _ _ _ => rfl) (by simp) ih
      unfold Tree.debug
      simp [hitems]
  | @document entries _ _ ih =>
      have hentries : '\n' ∉ (Tree.debugEntries entries).toList :=
        lineFeed_notMem_separated rfl Tree.debugEntries_singleton Tree.debugEntries_cons_cons (by simp)
          fun entry hmem => by unfold Tree.entryDebug; simp [ih entry hmem]
      unfold Tree.debug
      simp [hentries]
  | rule label h =>
      unfold Tree.debug
      simpa using h
  | _ => unfold Tree.debug; simp

theorem lineFeed_notMem_describe (h : Legible P v) : '\n' ∉ v.describe.toList := by
  have hdisplay : '\n' ∉ v.display.toList := h.lineFeed_notMem_display
  unfold Tree.describe
  split
  · simp
  · simp [hdisplay]

end Legible

/-! ## Rules -/

@[simp] theorem lineFeed_notMem_lengthBounds (b : LengthBounds) : '\n' ∉ b.debug.toList := by
  unfold LengthBounds.debug
  simp

@[simp] theorem lineFeed_notMem_numericBound (b : NumericBound) : '\n' ∉ b.debug.toList := by
  unfold NumericBound.debug
  cases b.direction <;> simp

theorem lineFeed_notMem_recordText {name : String} (hname : '\n' ∉ name.toList) {fields : List (String × String)}
    (h : ∀ field ∈ fields, '\n' ∉ field.1.toList ∧ '\n' ∉ field.2.toList) :
    '\n' ∉ (recordText name fields).toList := by
  unfold recordText
  generalize hjoined : ", ".intercalate _ = joined
  have hfields : '\n' ∉ joined.toList := by
    rw [← hjoined]
    refine lineFeed_notMem_intercalate (by simp) (List.forall_mem_map.mpr fun field hmem => ?_)
    simp [h field hmem]
  simp [hname, hfields]

theorem lineFeed_notMem_listText {P : String → Prop} {values : List Value} (h : ∀ v ∈ values, Legible P v) :
    '\n' ∉ (listText values).toList := by
  have harray : '\n' ∉ (Tree.array values).debug.toList := (Legible.array h).lineFeed_notMem_debug
  unfold Tree.debug at harray
  simpa [listText] using harray

end Conformance
