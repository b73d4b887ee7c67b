import Mathlib.Data.List.Basic

/-!
# Texts that show where they end

A text that is put together from others can be taken apart again if each of them shows where it ends.
`Delimited text P next a` says so of the text of `a`: whatever begins with it, and goes on with a letter that `next`
allows, begins with the text of no other `b` that has the property `P`.

A list of things is delimited if the things in it are, whether their texts stand one behind the other
(`Delimited.flatMap`) or with a separator between them and a bracket at the end (`Delimited.separated`).
-/

set_option autoImplicit false

namespace Conformance

variable {α : Type}

/-- In a text that begins with that of `a`, the end of the part can be found, if `next` allows the first letter of
what follows, which is `none` at the end of the whole. Any other way to read the text, as that of a `b` with the
property `P` and a rest, is the same way. -/
def Delimited (text : α → List Char) (P : α → Prop) (next : Option Char → Prop) (a : α) : Prop :=
  ∀ b r s, P b → next r.head? → next s.head? → text a ++ r = text b ++ s → a = b ∧ r = s

/-- Letters of one kind end where something else follows. -/
theorem append_inj_of_run {p : Char → Prop} {x y r s : List Char} (hx : ∀ c ∈ x, p c) (hy : ∀ c ∈ y, p c)
    (hr : ∀ c ∈ r.head?, ¬ p c) (hs : ∀ c ∈ s.head?, ¬ p c) (h : x ++ r = y ++ s) : x = y ∧ r = s := by
  induction x generalizing y with
  | nil =>
      cases y with
      | nil => exact ⟨rfl, h⟩
      | cons d y =>
          have hrest : r = d :: (y ++ s) := h
          exact absurd (hy d List.mem_cons_self) (hr d (by rw [hrest]; rfl))
  | cons c x ih =>
      cases y with
      | nil =>
          have hrest : s = c :: (x ++ r) := h.symm
          exact absurd (hx c List.mem_cons_self) (hs c (by rw [hrest]; rfl))
      | cons d y =>
          obtain ⟨rfl, htail⟩ := List.cons.inj h
          obtain ⟨rfl, hrest⟩ := ih (List.forall_mem_cons.mp hx).2 (List.forall_mem_cons.mp hy).2 htail
          exact ⟨rfl, hrest⟩

theorem isDigit_of_mem_repr {n : Nat} {c : Char} (hc : c ∈ n.repr.toList) : c.isDigit = true := by
  rw [Nat.repr_eq_ofList_toDigits, String.toList_ofList] at hc
  exact Nat.isDigit_of_mem_toDigits (by decide) (by decide) hc

/-- Texts put one after the other with the separator `s` between them, where `f` is the whole text and `g` that of one
thing: every thing but the first has a separator in front of it. -/
theorem toList_separated {f : List α → String} {g : α → String} {s : String} (hone : ∀ x, f [x] = g x)
    (hcons : ∀ x y rest, f (x :: y :: rest) = g x ++ s ++ f (y :: rest)) (x : α) (rest : List α) :
    (f (x :: rest)).toList = (g x).toList ++ rest.flatMap fun y => s.toList ++ (g y).toList := by
  induction rest generalizing x with
  | nil => simp [hone]
  | cons y rest ih => simp [hcons, ih]

/-- A list of things with something behind it begins like one of the things, or like what is behind it. -/
theorem head?_flatMap_append {text : α → List Char} {next : Option Char → Prop} {l : List α} {r : List Char}
    (hfirst : ∀ a ∈ l, ∃ c rest, text a = c :: rest ∧ next (some c)) (hr : next r.head?) :
    next (l.flatMap text ++ r).head? := by
  cases l with
  | nil => exact hr
  | cons a l =>
      obtain ⟨c, rest, htext, hnext⟩ := hfirst a List.mem_cons_self
      rw [List.flatMap_cons, htext]
      exact hnext

namespace Delimited

variable {text : α → List Char} {P : α → Prop} {next stop : Option Char → Prop}

/-- Things one behind the other, up to a letter with which none of them begins. -/
theorem flatMap (hstop : ∀ o, stop o → next o)
    (hfirst : ∀ a, P a → ∃ c rest, text a = c :: rest ∧ next (some c) ∧ ¬ stop (some c))
    {l : List α} (hP : ∀ a ∈ l, P a) (hl : ∀ a ∈ l, Delimited text P next a) :
    Delimited (List.flatMap text) (fun m => ∀ a ∈ m, P a) stop l := by
  -- what is behind a thing begins like another thing or is where the list stops
  have hbehind : ∀ (m : List α) (r : List Char), (∀ a ∈ m, P a) → stop r.head? →
      next (m.flatMap text ++ r).head? := by
    intro m r hm hr
    refine head?_flatMap_append (fun a ha => ?_) (hstop _ hr)
    obtain ⟨c, rest, htext, hnext, -⟩ := hfirst a (hm a ha)
    exact ⟨c, rest, htext, hnext⟩
  -- so one list cannot have come to its end where the other goes on
  have hmore : ∀ (b : α) (r rest : List Char), P b → stop r.head? → r ≠ text b ++ rest := by
    rintro b _ rest hb hr rfl
    obtain ⟨c, tail, htext, -, hnot⟩ := hfirst b hb
    rw [htext] at hr
    exact hnot hr
  induction l with
  | nil =>
      intro m r s hm hr _ h
      cases m with
      | nil => exact ⟨rfl, h⟩
      | cons b m =>
          rw [List.flatMap_cons, List.append_assoc] at h
          exact absurd h (hmore b r _ (hm b List.mem_cons_self) hr)
  | cons a l ih =>
      obtain ⟨ha, hPl⟩ := List.forall_mem_cons.mp hP
      obtain ⟨hdelimited, hrest⟩ := List.forall_mem_cons.mp hl
      intro m r s hm hr hs h
      rw [List.flatMap_cons, List.append_assoc] at h
      cases m with
      | nil => exact absurd h.symm (hmore a s _ ha hs)
      | cons b m =>
          obtain ⟨hb, hPm⟩ := List.forall_mem_cons.mp hm
          rw [List.flatMap_cons, List.append_assoc] at h
          obtain ⟨rfl, htail⟩ := hdelimited b _ _ hb (hbehind l r hPl hr) (hbehind m s hPm hs) h
          obtain ⟨rfl, hend⟩ := ih hPl hrest m r s hPm hr hs htail
          exact ⟨rfl, hend⟩

/-- The same letters may stand in front of every text. -/
theorem preceded (letters : List Char) {a : α} (h : Delimited text P next a) :
    Delimited (fun a => letters ++ text a) P next a := by
  intro b r s hb hr hs heq
  rw [List.append_assoc, List.append_assoc] at heq
  exact h b r s hb hr hs (List.append_cancel_left heq)

/-- Behind a closing bracket anything may follow. -/
theorem closed {bracket : Char} {a : α} (h : Delimited text P (· = some bracket) a) :
    Delimited (fun a => text a ++ [bracket]) P (fun _ => True) a := by
  intro b r s hb _ _ heq
  rw [List.append_assoc, List.append_assoc] at heq
  obtain ⟨rfl, hrest⟩ := h b ([bracket] ++ r) ([bracket] ++ s) hb rfl rfl heq
  exact ⟨rfl, List.append_cancel_left hrest⟩

/-- Things with a separator between them, up to a bracket with which none of them begins. -/
theorem separated {f : List α → String} {g : α → String} {s : String} {comma bracket : Char} {blank : List Char}
    (hnil : f [] = "") (hone : ∀ x, f [x] = g x)
    (hcons : ∀ x y rest, f (x :: y :: rest) = g x ++ s ++ f (y :: rest)) (hs : s.toList = comma :: blank)
    (hfirst : ∀ a, P a → ∃ c rest, (g a).toList = c :: rest ∧ c ≠ bracket) (hcomma : next (some comma))
    (hbracket : next (some bracket)) (hne : comma ≠ bracket) {l : List α} (hP : ∀ a ∈ l, P a)
    (hl : ∀ a ∈ l, Delimited (fun a => (g a).toList) P next a) :
    Delimited (fun l => (f l).toList) (fun m => ∀ a ∈ m, P a) (· = some bracket) l := by
  -- the bracket tells an empty list from one that has a first thing
  have hmore : ∀ (b : α) (m : List α) (r rest : List Char), P b → r.head? = some bracket →
      r ≠ (f (b :: m)).toList ++ rest := by
    rintro b m _ rest hb hr rfl
    obtain ⟨c, tail, htext, hc⟩ := hfirst b hb
    rw [toList_separated hone hcons, htext] at hr
    exact hc (Option.some.inj hr)
  have hbefore : ∀ b : α, s.toList ++ (g b).toList = comma :: (blank ++ (g b).toList) := by
    intro b
    rw [hs, List.cons_append]
  have hbehind : ∀ (m : List α) (r : List Char), r.head? = some bracket →
      next (m.flatMap (fun b => s.toList ++ (g b).toList) ++ r).head? := fun m r hr =>
    head?_flatMap_append (fun b _ => ⟨comma, _, hbefore b, hcomma⟩) (hr ▸ hbracket)
  intro m r r' hm hr hr' h
  cases l with
  | nil =>
      cases m with
      | nil => exact ⟨rfl, List.append_cancel_left h⟩
      | cons b m =>
          simp only [hnil] at h
          exact absurd h (hmore b m r r' (hm b List.mem_cons_self) hr)
  | cons a l =>
      obtain ⟨ha, hPl⟩ := List.forall_mem_cons.mp hP
      obtain ⟨hdelimited, hrest⟩ := List.forall_mem_cons.mp hl
      cases m with
      | nil =>
          simp only [hnil] at h
          exact absurd h.symm (hmore a l r' r ha hr')
      | cons b m =>
          obtain ⟨hb, hPm⟩ := List.forall_mem_cons.mp hm
          simp only [toList_separated hone hcons, List.append_assoc] at h
          obtain ⟨rfl, htail⟩ := hdelimited b _ _ hb (hbehind l r hr) (hbehind m r' hr') h
          -- behind the first one, the things stand one behind the other, each with its separator
          have hothers : Delimited (List.flatMap fun b => s.toList ++ (g b).toList) (fun m => ∀ a ∈ m, P a)
              (· = some bracket) l :=
            flatMap (by rintro _ rfl; exact hbracket)
              (fun b _ => ⟨comma, _, hbefore b, hcomma, fun heq => hne (Option.some.inj heq)⟩) hPl
              fun b hb => (hrest b hb).preceded s.toList
          obtain ⟨rfl, hend⟩ := hothers m r r' hPm hr hr' htail
          exact ⟨rfl, hend⟩

end Delimited

end Conformance
