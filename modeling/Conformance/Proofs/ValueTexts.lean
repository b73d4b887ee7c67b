import Conformance.Proofs.Delimited
import Conformance.Proofs.OneLine
import Mathlib

/-!
# The texts of values

Messages show values by a text in which strings stand between quotes and nothing else is marked. Two values with
integers as their only numbers, and without rules, still have the same text only if they are the same: the first
letter of a text tells the kind of the value (`Tree.kindAt`), and from there on the text shows where it ends, if
only no letter of an integer follows (`Tree.Integral.delimited`). A string ends at its second quote, whatever is in
it, since the written forms of characters can be told apart and none begins with a quote.
-/

set_option autoImplicit false

namespace Conformance

/-! ## Numbers -/

def IntegerLetter (c : Char) : Prop := c = '-' ∨ c.isDigit = true

instance : DecidablePred IntegerLetter := fun c => inferInstanceAs (Decidable (c = '-' ∨ c.isDigit = true))

/-- What may follow an integer: none of its letters. -/
def AfterInteger (next : Option Char) : Prop := ∀ c ∈ next, ¬ IntegerLetter c

theorem afterInteger_some {c : Char} (h : ¬ IntegerLetter c) : AfterInteger (some c) := by
  rintro _ ⟨⟩
  exact h

theorem integerLetter_of_mem_repr {i : Int} : ∀ c ∈ i.repr.toList, IntegerLetter c := by
  intro c hc
  rw [Int.repr_eq_if] at hc
  split at hc
  · exact .inr (isDigit_of_mem_repr hc)
  · rw [String.toList_append, List.mem_append] at hc
    rcases hc with hsign | hdigits
    · exact .inl (List.mem_singleton.mp hsign)
    · exact .inr (isDigit_of_mem_repr hdigits)

theorem exists_repr_eq_cons (i : Int) : ∃ c rest, i.repr.toList = c :: rest ∧ IntegerLetter c := by
  have hletters := integerLetter_of_mem_repr (i := i)
  cases hrepr : i.repr.toList with
  | nil =>
      rw [Int.repr_eq_if] at hrepr
      split at hrepr <;> simp at hrepr
  | cons c rest =>
      rw [hrepr] at hletters
      exact ⟨c, rest, rfl, hletters c List.mem_cons_self⟩

theorem digitChar_inj {m n : Nat} (hm : m < 16) (hn : n < 16) (h : Nat.digitChar m = Nat.digitChar n) : m = n := by
  have hall : ∀ i j : Fin 16, Nat.digitChar i = Nat.digitChar j → i = j := by decide
  exact congrArg Fin.val (hall ⟨m, hm⟩ ⟨n, hn⟩ h)

/-- By induction on the number: the last digit is the remainder, the others are the quotient. -/
theorem toDigits_inj {base : Nat} (hbase : 1 < base) (hletters : base ≤ 16) {m n : Nat}
    (h : Nat.toDigits base m = Nat.toDigits base n) : m = n := by
  induction m using Nat.strongRecOn generalizing n with
  | ind m ih =>
      have hsize : m < base ↔ n < base := by
        rw [← Nat.pow_one base, ← Nat.length_toDigits_le_iff hbase Nat.one_pos,
          ← Nat.length_toDigits_le_iff hbase Nat.one_pos, h]
      by_cases hm : m < base
      · rw [Nat.toDigits_of_lt_base hm, Nat.toDigits_of_lt_base (hsize.mp hm)] at h
        exact digitChar_inj (by omega) (by omega) (List.singleton_inj.mp h)
      · have hn : base ≤ n := by omega
        rw [Nat.toDigits_of_base_le hbase (by omega), Nat.toDigits_of_base_le hbase hn] at h
        obtain ⟨hinit, hlast⟩ := List.append_inj' h rfl
        have hrem : m % base = n % base := by
          have hm' := Nat.mod_lt m (show 0 < base by omega)
          have hn' := Nat.mod_lt n (show 0 < base by omega)
          exact digitChar_inj (by omega) (by omega) (List.singleton_inj.mp hlast)
        have hquot : m / base = n / base := ih (m / base) (Nat.div_lt_self (by omega) hbase) hinit
        rw [← Nat.div_add_mod m base, ← Nat.div_add_mod n base, hquot, hrem]

/-! ## Strings -/

namespace Text

/-- The character that a short escape with the given letter stands for. -/
def escapedBy : Char → Char
  | 'n' => '\n'
  | 'r' => '\r'
  | 't' => '\t'
  | '0' => '\x00'
  | letter => letter

/-- The ways to write a character between quotes: as it is, by a short escape, or by its number. It does not matter
here which characters are visible, only that the quote and the backslash never stand for themselves. -/
inductive QuotedAs : Char → List Char → Prop where
  | plain {c : Char} (hquote : c ≠ '"') (hescape : c ≠ '\\') : QuotedAs c [c]
  | short {c letter : Char} (hletter : letter ≠ 'u') (h : c = escapedBy letter) : QuotedAs c ['\\', letter]
  | number (c : Char) : QuotedAs c ('\\' :: 'u' :: '\x7b' :: (Nat.toDigits 16 c.toNat ++ ['\x7d']))

/-- Every character is written in one of the three ways. -/
theorem quotedAs_quotedChar (c : Char) : QuotedAs c (quotedChar c) := by
  fun_cases quotedChar c
  case case1 h | case2 h | case3 h | case4 h | case5 h => exact .short (by decide) h
  case case6 hzero => exact .short (by decide) (Char.toNat_inj.mp hzero : c = '\x00')
  case case7 hquote hescape _ _ _ _ _ => exact .plain hquote hescape
  case case8 => exact .number c

namespace QuotedAs

variable {c d : Char} {x y r s : List Char}

/-- No written form begins with a quote, so that the second quote is the end of the string. -/
theorem exists_eq_cons (h : QuotedAs c x) : ∃ first rest, x = first :: rest ∧ first ≠ '"' := by
  cases h with
  | plain hquote _ => exact ⟨c, [], rfl, hquote⟩
  | short => exact ⟨'\\', _, rfl, by decide⟩
  | number => exact ⟨'\\', _, rfl, by decide⟩

/-- The letter behind a backslash tells the escape, and a number ends at its brace. -/
theorem append_inj (hx : QuotedAs c x) (hy : QuotedAs d y) (h : x ++ r = y ++ s) : c = d ∧ r = s := by
  cases hx with
  | plain _ hescape =>
      cases hy with
      | plain => exact List.cons.inj h
      | short => exact absurd (List.cons.inj h).1 hescape
      | number => exact absurd (List.cons.inj h).1 hescape
  | short hletter hc =>
      cases hy with
      | plain _ hescape => exact absurd (List.cons.inj h).1.symm hescape
      | short _ hd =>
          obtain ⟨rfl, hrest⟩ := List.cons.inj (List.cons.inj h).2
          -- a short escape is known by its letter
          exact ⟨hc.trans hd.symm, hrest⟩
      | number => exact absurd (List.cons.inj (List.cons.inj h).2).1 hletter
  | number =>
      cases hy with
      | plain _ hescape => exact absurd (List.cons.inj h).1.symm hescape
      | short hletter => exact absurd (List.cons.inj (List.cons.inj h).2).1.symm hletter
      | number =>
          -- a brace is no digit, so that both numbers end at their first one
          have hbrace : ∀ n, ∀ a ∈ Nat.toDigits 16 n, a ≠ '\x7d' := by
            rintro n _ ha rfl
            exact notMem_toDigits (fun _ => Nat.digitChar_ne '\x7d' rfl) (by decide) n ha
          simp only [List.cons_append, List.append_assoc, List.cons.injEq, true_and] at h
          obtain ⟨hdigits, hrest⟩ := append_inj_of_run (hbrace c.toNat) (hbrace d.toNat)
            (by simp) (by simp) h
          have hsame : c = d := Char.toNat_inj.mp (toDigits_inj (by decide) (by decide) hdigits)
          exact ⟨hsame, (List.cons.inj hrest).2⟩

end QuotedAs

theorem toList_quoted (s : String) : (quoted s).toList = '"' :: (s.toList.flatMap quotedChar ++ ['"']) := by
  simp [quoted]

/-- A string in quotes ends at the second quote, whatever follows. -/
theorem delimited_quoted (s : String) :
    Delimited (fun s => (quoted s).toList) (fun _ => True) (fun _ => True) s := by
  intro t r r' _ _ _ h
  have hchar : ∀ c, Delimited quotedChar (fun _ => True) (fun _ => True) c := fun c d _ _ _ _ _ h =>
    (quotedAs_quotedChar c).append_inj (quotedAs_quotedChar d) h
  have hfirst : ∀ c, True → ∃ first rest, quotedChar c = first :: rest ∧ True ∧ ¬ some first = some '"' := by
    intro c _
    obtain ⟨first, rest, hquoted, hne⟩ := (quotedAs_quotedChar c).exists_eq_cons
    exact ⟨first, rest, hquoted, trivial, fun heq => hne (Option.some.inj heq)⟩
  have hchars : Delimited (List.flatMap quotedChar) (fun m => ∀ c ∈ m, True) (· = some '"') s.toList :=
    .flatMap (fun _ _ => trivial) hfirst (fun _ _ => trivial) fun c _ => hchar c
  simp only [toList_quoted] at h
  obtain ⟨hletters, hrest⟩ :=
    hchars.closed.preceded ['"'] t.toList r r' (fun _ _ => trivial) trivial trivial h
  exact ⟨String.toList_inj.mp hletters, hrest⟩

end Text

/-! ## Values -/

namespace Tree

/-- The value is plain data in which every number is an integer: there are no binary64 numbers and no rules in it,
at any depth. -/
inductive Integral : Value → Prop where
  | null : Integral .null
  | bool (b : Bool) : Integral (.bool b)
  | int (i : Int) : Integral (.int i)
  | string (s : String) : Integral (.string s)
  | array {items : List Value} (h : ∀ v ∈ items, Integral v) : Integral (.array items)
  | document {entries : List (String × Value)} (h : ∀ entry ∈ entries, Integral entry.2) :
      Integral (.document entries)

/-- The kind of a value whose text begins with the letter. -/
def kindAt : Char → String
  | 'n' => "null"
  | 't' | 'f' => "bool"
  | '"' => "string"
  | '[' => "array"
  | '\x7b' => "document"
  | _ => "int"

theorem kindAt_of_integerLetter {c : Char} (h : IntegerLetter c) : kindAt c = "int" := by
  rcases h with rfl | hdigit
  · rfl
  · fun_cases kindAt c
    all_goals first | rfl | cases hdigit

theorem toList_display_array (items : List Value) :
    (Tree.array items : Value).display.toList = '[' :: ((displayItems items).toList ++ [']']) := by
  simp [display]

theorem toList_display_document (entries : List (String × Value)) :
    (Tree.document entries : Value).display.toList = '\x7b' :: ((displayEntries entries).toList ++ ['\x7d']) := by
  simp [display]

def entryDisplay (entry : String × Value) : String := Text.quoted entry.1 ++ ": " ++ entry.2.display

namespace Integral

variable {v w : Value} {r s : List Char}

/-- The first letter of a text tells the kind of the value, and is no closing bracket. -/
theorem exists_display_eq_cons (h : v.Integral) :
    ∃ c rest, v.display.toList = c :: rest ∧ kindAt c = v.kind ∧ c ≠ ']' := by
  cases h with
  | null => exact ⟨'n', _, rfl, rfl, by decide⟩
  | bool b =>
      cases b
      · exact ⟨'f', _, rfl, rfl, by decide⟩
      · exact ⟨'t', _, rfl, rfl, by decide⟩
  | int i =>
      obtain ⟨c, rest, hrepr, hc⟩ := exists_repr_eq_cons i
      refine ⟨c, rest, hrepr, kindAt_of_integerLetter hc, ?_⟩
      rintro rfl
      exact absurd hc (by decide)
  | string s => exact ⟨'"', _, Text.toList_quoted s, rfl, by decide⟩
  | @array items _ => exact ⟨'[', _, toList_display_array items, rfl, by decide⟩
  | @document entries _ => exact ⟨'\x7b', _, toList_display_document entries, rfl, by decide⟩

/-- Texts that begin alike are texts of one kind. -/
theorem kind_eq (hv : v.Integral) (hw : w.Integral) (h : v.display.toList ++ r = w.display.toList ++ s) :
    v.kind = w.kind := by
  obtain ⟨c, x, hdisplay, hkind, -⟩ := hv.exists_display_eq_cons
  obtain ⟨d, y, hdisplay', hkind', -⟩ := hw.exists_display_eq_cons
  rw [hdisplay, hdisplay'] at h
  rw [← hkind, ← hkind', (List.cons.inj h).1]

/-- In an entry the key ends at its second quote. -/
theorem delimited_entryDisplay {entry : String × Value}
    (h : Delimited (fun v => v.display.toList) Integral AfterInteger entry.2) :
    Delimited (fun e => (entryDisplay e).toList) (fun e => e.2.Integral) AfterInteger entry := by
  intro other r s hother hr hs heq
  simp only [entryDisplay, String.toList_append, List.append_assoc] at heq
  obtain ⟨hkey, hrest⟩ := Text.delimited_quoted entry.1 other.1 _ _ trivial trivial trivial heq
  obtain ⟨hvalue, hend⟩ := h other.2 r s hother hr hs (List.append_cancel_left hrest)
  exact ⟨Prod.ext hkey hvalue, hend⟩

/-- An array ends at its bracket, since none of its elements begins with one. -/
theorem delimited_array {items : List Value} (hitems : ∀ v ∈ items, Integral v)
    (h : ∀ v ∈ items, Delimited (fun v => v.display.toList) Integral AfterInteger v)
    {others : List Value} (hothers : ∀ v ∈ others, Integral v)
    (heq : (Tree.array items).display.toList ++ r = (Tree.array others).display.toList ++ s) :
    items = others ∧ r = s := by
  have hfirst : ∀ v : Value, v.Integral → ∃ c rest, v.display.toList = c :: rest ∧ c ≠ ']' := by
    intro v hv
    obtain ⟨c, rest, hdisplay, -, hne⟩ := hv.exists_display_eq_cons
    exact ⟨c, rest, hdisplay, hne⟩
  have hall := Delimited.separated (f := displayItems) (g := display) (s := ", ") rfl (fun _ => rfl)
    (fun _ _ _ => rfl) rfl hfirst (afterInteger_some (by decide)) (afterInteger_some (by decide)) (by decide)
    hitems h
  rw [toList_display_array, toList_display_array] at heq
  exact hall.closed.preceded ['['] others r s hothers trivial trivial heq

/-- A document ends at its brace, since its entries begin with a quote. -/
theorem delimited_document {entries : List (String × Value)} (hentries : ∀ e ∈ entries, e.2.Integral)
    (h : ∀ e ∈ entries, Delimited (fun v => v.display.toList) Integral AfterInteger e.2)
    {others : List (String × Value)} (hothers : ∀ e ∈ others, e.2.Integral)
    (heq : (Tree.document entries).display.toList ++ r = (Tree.document others).display.toList ++ s) :
    entries = others ∧ r = s := by
  have hfirst : ∀ e : String × Value, e.2.Integral →
      ∃ c rest, (entryDisplay e).toList = c :: rest ∧ c ≠ '\x7d' := by
    intro e _
    have htext : (entryDisplay e).toList = (Text.quoted e.1).toList ++ (": " ++ e.2.display).toList := by
      simp [entryDisplay]
    rw [Text.toList_quoted] at htext
    exact ⟨'"', _, htext, by decide⟩
  have hall := Delimited.separated (f := displayEntries) (g := entryDisplay) (s := ", ") rfl (fun _ => rfl)
    (fun _ _ _ => rfl) rfl hfirst (afterInteger_some (by decide)) (afterInteger_some (by decide)) (by decide)
    hentries fun e he => delimited_entryDisplay (h e he)
  rw [toList_display_document, toList_display_document] at heq
  exact hall.closed.preceded ['\x7b'] others r s hothers trivial trivial heq

/-- The text of a value shows where it ends, if no letter of an integer follows. -/
theorem delimited (h : v.Integral) : Delimited (fun v => v.display.toList) Integral AfterInteger v := by
  -- the other value `w` has the same kind, by the first letter, so that one constructor is left for it
  induction h with
  | null =>
      intro w r s hw _ _ heq
      have hkind := kind_eq .null hw heq
      cases hw with
      | null => exact ⟨rfl, List.append_cancel_left heq⟩
      | _ => simp [kind] at hkind
  | bool b =>
      intro w r s hw _ _ heq
      have hkind := kind_eq (.bool b) hw heq
      cases hw with
      | bool other => cases b <;> cases other <;> simp_all [display, boolText]
      | _ => simp [kind] at hkind
  | int i =>
      intro w r s hw hr hs heq
      have hkind := kind_eq (.int i) hw heq
      cases hw with
      | int j =>
          obtain ⟨hrepr, hrest⟩ :=
            append_inj_of_run integerLetter_of_mem_repr integerLetter_of_mem_repr hr hs heq
          have hsame : i = j := Int.repr_inj.mp (String.toList_inj.mp hrepr)
          exact ⟨congrArg Tree.int hsame, hrest⟩
      | _ => simp [kind] at hkind
  | string text =>
      intro w r s hw _ _ heq
      have hkind := kind_eq (.string text) hw heq
      cases hw with
      | string other =>
          obtain ⟨hsame, hrest⟩ := Text.delimited_quoted text other r s trivial trivial trivial heq
          exact ⟨congrArg Tree.string hsame, hrest⟩
      | _ => simp [kind] at hkind
  | array hitems ih =>
      intro w r s hw _ _ heq
      have hkind := kind_eq (.array hitems) hw heq
      cases hw with
      | array hothers =>
          obtain ⟨hsame, hrest⟩ := delimited_array hitems ih hothers heq
          exact ⟨congrArg Tree.array hsame, hrest⟩
      | _ => simp [kind] at hkind
  | document hentries ih =>
      intro w r s hw _ _ heq
      have hkind := kind_eq (.document hentries) hw heq
      cases hw with
      | document hothers =>
          obtain ⟨hsame, hrest⟩ := delimited_document hentries ih hothers heq
          exact ⟨congrArg Tree.document hsame, hrest⟩
      | _ => simp [kind] at hkind

end Integral

/-- The text of a value ends where the value does, and with nothing behind it the text is the value's own. -/
theorem display_inj {v w : Value} (hv : v.Integral) (hw : w.Integral) : v.display = w.display ↔ v = w := by
  constructor
  · intro h
    have hlist : v.display.toList ++ [] = w.display.toList ++ [] := by rw [h]
    exact (hv.delimited w [] [] hw nofun nofun hlist).1
  · rintro rfl
    rfl

/-- Beside another value, a value other than `null` is shown with its kind in front. -/
theorem toList_describe {v : Value} (h : v ≠ .null) :
    v.describe.toList = v.kind.toList ++ ' ' :: v.display.toList := by
  unfold describe
  split
  · exact absurd rfl h
  · simp

theorem blank_notMem_kind (v : Value) : ∀ c ∈ v.kind.toList, c ≠ ' ' := by
  cases v <;> simp [kind]

theorem describe_eq_null_iff {v : Value} : v.describe = "null" ↔ v = .null := by
  constructor
  · intro h
    by_contra hnull
    have hblank : ' ' ∈ "null".toList := by
      rw [← h, toList_describe hnull]
      exact List.mem_append_right _ List.mem_cons_self
    simp at hblank
  · rintro rfl
    rfl

/-- The kind stands in front, up to the first blank; only null is shown without one. -/
theorem describe_inj {v w : Value} (hv : v.Integral) (hw : w.Integral) : v.describe = w.describe ↔ v = w := by
  constructor
  · intro h
    by_cases hnull : v = .null
    · rw [describe_eq_null_iff.mpr hnull, eq_comm, describe_eq_null_iff] at h
      rw [hnull, h]
    · have hnull' : w ≠ .null := fun hw => hnull (describe_eq_null_iff.mp (h.trans (describe_eq_null_iff.mpr hw)))
      rw [← String.toList_inj, toList_describe hnull, toList_describe hnull'] at h
      -- the kinds end at the first blank
      obtain ⟨-, hrest⟩ := append_inj_of_run (blank_notMem_kind v) (blank_notMem_kind w) (by simp) (by simp) h
      exact (display_inj hv hw).mp (String.toList_inj.mp (List.cons.inj hrest).2)
  · rintro rfl
    rfl

end Tree

/-- **Values are known by their texts**, if their only numbers are integers and they hold no rules: both by the text
alone and with the kind in front of it, as messages show values. -/
theorem values_known_by_text {v w : Value} (hv : v.Integral) (hw : w.Integral) :
    (v.display = w.display ↔ v = w) ∧ (v.describe = w.describe ↔ v = w) :=
  ⟨Tree.display_inj hv hw, Tree.describe_inj hv hw⟩

/-- A string that looks like two, and one that looks like an escape. -/
theorem values_known_by_text_lookalikes :
    let v : Value := .document [("k", .array [.string "a\", \"b"]), ("k", .int (-1))]
    let w : Value := .document [("k", .array [.string "a", .string "b"]), ("k", .int (-1))]
    let escape : Value := .string "\\u\x7b1\x7d"
    let control : Value := .string "\x01"
    v.Integral ∧ w.Integral ∧ v.display ≠ w.display ∧ control.display = "\"\\u\x7b1\x7d\"" ∧
      escape.display ≠ control.display ∧ escape.describe ≠ control.describe := by
  intro v w escape control
  have hcontrol : control.display = "\"\\u\x7b1\x7d\"" := rfl
  have hdocument : ∀ items : List Value, (∀ x ∈ items, x.Integral) →
      (Tree.document [("k", .array items), ("k", .int (-1))] : Value).Integral := by
    intro items hitems
    refine .document fun entry hmem => ?_
    simp only [List.mem_cons, List.not_mem_nil, or_false] at hmem
    rcases hmem with rfl | rfl
    · exact .array hitems
    · exact .int (-1)
  have hv : v.Integral := hdocument _ (by simp [Tree.Integral.string])
  have hw : w.Integral := hdocument _ (by simp [Tree.Integral.string])
  obtain ⟨hdisplay, hdescribe⟩ := values_known_by_text (Tree.Integral.string "\\u\x7b1\x7d")
    (Tree.Integral.string "\x01")
  exact ⟨hv, hw, mt (values_known_by_text hv hw).1.mp (by simp [v, w]), hcontrol,
    mt hdisplay.mp (by simp), mt hdescribe.mp (by simp)⟩

/-- An integer looks like the binary64 number that it is equal to, and a rule like whatever it is shown as. -/
example : (Tree.int 5 : Value).display = (Tree.float (.ofInt 5) : Value).display ∧
    (Tree.rule [0] "null" : Value).display = (Tree.null : Value).display := by decide +kernel

end Conformance
