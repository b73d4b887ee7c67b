import Conformance.Proofs.Decoding

/-!
# What holds of every value that is read

A property of JSON values holds of everything that is read from texts if it holds of the literals, and if arrays
and objects have it as soon as their parts do. `Json.Hereditary P Q` says so of the property `P`; the members of
an object are read one by one into a list, and `Q` is what holds of that list on the way. The readers are gone
through once, from numbers up to nested values (`Hereditary.of_read`).
-/

set_option autoImplicit false

namespace Conformance

namespace Json

/-- The property `P` of values holds of all literals, and is handed on from the parts to the whole. The members
of an object have the property `Q` all the time while they are read. -/
structure Hereditary (P : Json → Prop) (Q : List (String × Json) → Prop) : Prop where
  null : P .null
  bool : ∀ b, P (.bool b)
  /-- The digits of an integer literal make up a word. -/
  integer : ∀ negative n, n ≤ greatestWord → P (integerLiteral negative n)
  decimal : ∀ negative digits exponent x, Binary64.ofDecimal? negative digits exponent = some x → P (.float x)
  zero : ∀ negative, P (.float (.zero negative))
  string : ∀ s, P (.string s)
  array : ∀ items, (∀ x ∈ items, P x) → P (.array items)
  noMembers : Q []
  putMember : ∀ name value members, P value → Q members → Q (putMember name value members)
  object : ∀ members, Q members → P (.object members)

/-- What holds of the members and of a value holds once the value is put among them. -/
theorem forall_mem_putMember {P : Json → Prop} {name : String} {value : Json}
    {members : List (String × Json)} (hvalue : P value) (hmembers : ∀ m ∈ members, P m.2) :
    ∀ m ∈ putMember name value members, P m.2 := by
  induction members with
  | nil => exact List.forall_mem_cons.mpr ⟨hvalue, nofun⟩
  | cons m rest ih =>
      obtain ⟨hm, hrest⟩ := List.forall_mem_cons.mp hmembers
      rw [putMember]
      split
      · exact List.forall_mem_cons.mpr ⟨hvalue, hrest⟩
      · exact List.forall_mem_cons.mpr ⟨hm, ih hrest⟩

/-- If something was read, then it has the property. -/
def Yields {α : Type} (P : α → Prop) (result : Except ReadError (α × Cursor)) : Prop :=
  ∀ a after, result = .ok (a, after) → P a

namespace Yields

variable {α β : Type} {P : α → Prop} {Q : β → Prop}

theorem ok {a : α} (h : P a) (after : Cursor) : Yields P (.ok (a, after)) := by
  intro a' after' heq
  cases heq
  exact h

theorem error (e : ReadError) : Yields P (.error e) := nofun

theorem failNext (problem : Problem) (c : Cursor) : Yields P (c.failNext problem) := by
  unfold Cursor.failNext
  split
  · exact .error _
  · exact .error _

/-- What is read first may be anything that the continuation can make use of. -/
theorem bind {x : Except ReadError (α × Cursor)} {f : α × Cursor → Except ReadError (β × Cursor)}
    (hx : Yields P x) (hf : ∀ a after, P a → Yields Q (f (a, after))) : Yields Q (x >>= f) := by
  cases x with
  | error e => exact .error e
  | ok read => exact hf read.1 read.2 (hx read.1 read.2 rfl)

/-- The same for a part of which nothing has to be known. -/
theorem after {γ : Type} {x : Except ReadError γ} {f : γ → Except ReadError (β × Cursor)}
    (hf : ∀ a, Yields Q (f a)) : Yields Q (x >>= f) := by
  cases x with
  | error e => exact .error e
  | ok a => exact hf a

end Yields

/-- Digits are gathered only as long as their number stays below the limit. -/
theorem gather_le (limit : Nat) {n : Nat} (ds : List Char) (hn : n ≤ limit) :
    (gather limit n ds).1 ≤ limit := by
  induction ds generalizing n with
  | nil => exact hn
  | cons d rest ih =>
      rw [gather]
      split
      · rename_i hfits
        exact ih hfits
      · exact hn

namespace Hereditary

variable {P : Json → Prop} {Q : List (String × Json) → Prop} (hP : Hereditary P Q)

include hP

/-! ## Numbers -/

theorem yields_scaledNumber (negative : Bool) (digits : Nat) (exponent : Int) (c : Cursor) :
    Yields P (scaledNumber negative digits exponent c) := by
  unfold scaledNumber
  split
  · rename_i x hx
    exact .ok (hP.decimal negative digits exponent x hx) _
  · exact .error _

theorem yields_readExponent (negative : Bool) (digits : Nat) (start : Int) (c : Cursor) :
    Yields P (readExponent negative digits start c) := by
  unfold readExponent
  dsimp only
  generalize (if c.rest.head? = some '-' || c.rest.head? = some '+' then c.next else c) = behind
  split
  · exact .error _
  · split
    · exact .failNext _ _
    · split
      · exact hP.yields_scaledNumber _ _ _ _
      · split
        · exact .ok (hP.zero negative) _
        · exact .error _

theorem yields_readScale (negative : Bool) (digits : Nat) (exponent : Int) (c : Cursor) :
    Yields P (readScale negative digits exponent c) := by
  unfold readScale
  split
  · exact hP.yields_readExponent _ _ _ _
  · exact hP.yields_readExponent _ _ _ _
  · exact hP.yields_scaledNumber _ _ _ _

theorem yields_readFraction (negative : Bool) (digits : Nat) (exponent : Int) (c : Cursor) :
    Yields P (readFraction negative digits exponent c) := by
  unfold readFraction
  dsimp only
  split
  · split
    · exact .error _
    · exact .failNext _ _
  · exact hP.yields_readScale _ _ _ _

/-- Only digits that make up a word are an integer; all others are binary64. -/
theorem yields_readUnsigned (negative : Bool) (c : Cursor) : Yields P (readUnsigned negative c) := by
  unfold readUnsigned
  split
  · exact .error _
  · rename_i first _ _
    split
    · exact .failNext _ _
    · generalize (if first = '0' then (['0'], c.next) else c.span Char.isDigit) = taken
      obtain ⟨ds, after⟩ := taken
      dsimp only
      split
      · exact .failNext _ _
      · split
        · exact hP.yields_readFraction _ _ _ _
        · exact hP.yields_readExponent _ _ _ _
        · exact hP.yields_readExponent _ _ _ _
        · split
          · exact .ok (hP.integer negative _ (gather_le greatestWord ds (Nat.zero_le _))) _
          · exact hP.yields_scaledNumber _ _ _ _

theorem yields_readNumber (c : Cursor) : Yields P (readNumber c) := by
  unfold readNumber
  split
  · exact hP.yields_readUnsigned _ _
  · exact hP.yields_readUnsigned _ _

/-! ## Values -/

omit hP in
theorem yields_readItems {item : Scan Json} (hitem : ∀ c, Yields P (item c)) (room : Nat) (first : Bool)
    (c : Cursor) : Yields (fun items => ∀ x ∈ items, P x) (readItems item room first c) := by
  induction room generalizing first c with
  | zero => exact .error _
  | succ room ih =>
      refine .after fun (more, start) => ?_
      cases more with
      | false => exact .ok nofun _
      | true =>
          refine .bind (hitem start) fun x behind hx => ?_
          refine .bind (ih false behind) fun rest _ hrest => ?_
          exact .ok (List.forall_mem_cons.mpr ⟨hx, hrest⟩) _

/-- The members read so far keep `Q` with each one that is put among them. -/
theorem yields_readMembers {item : Scan Json} (hitem : ∀ c, Yields P (item c)) (room : Nat) (first : Bool)
    {members : List (String × Json)} (hmembers : Q members) (c : Cursor) :
    Yields Q (readMembers item room first members c) := by
  induction room generalizing first members c with
  | zero => exact .error _
  | succ room ih =>
      refine .after fun (more, start) => ?_
      cases more with
      | false => exact .ok hmembers _
      | true =>
          refine .after fun (name, behind) => ?_
          refine .after fun colon => ?_
          refine .bind (hitem colon) fun x rest hx => ?_
          exact ih false (hP.putMember name x members hx hmembers) rest

omit hP in
theorem yields_readWord (word : String) {value : Json} (h : P value) (c : Cursor) :
    Yields P (readWord word value c) :=
  .after fun _ => .ok h _

theorem yields_readShallow {item : Option (Scan Json)}
    (hitem : ∀ scan, item = some scan → ∀ c, Yields P (scan c)) (c : Cursor) :
    Yields P (readShallow item c) := by
  unfold readShallow
  dsimp only
  split
  · exact .error _
  · exact yields_readWord _ hP.null _
  · exact yields_readWord _ (hP.bool true) _
  · exact yields_readWord _ (hP.bool false) _
  · exact .after fun _ => .ok (hP.string _) _
  · split
    · exact .failNext _ _
    · rename_i scan
      exact .bind (yields_readItems (hitem scan rfl) _ _ _) fun items _ h => .ok (hP.array items h) _
  · split
    · exact .failNext _ _
    · rename_i scan
      exact .bind (hP.yields_readMembers (hitem scan rfl) _ _ hP.noMembers _)
        fun members _ h => .ok (hP.object members h) _
  · split
    · exact hP.yields_readNumber _
    · exact .failNext _ _

/-- By induction on the depth that is left: the readers of values call each other one level further down. -/
theorem yields_readNested (depth : Nat) (c : Cursor) : Yields P (readNested depth c) := by
  induction depth generalizing c with
  | zero =>
      refine hP.yields_readShallow ?_ c
      intro scan hnone
      cases hnone
  | succ depth ih =>
      refine hP.yields_readShallow ?_ c
      intro scan hscan
      cases hscan
      exact ih

/-- What is hereditary holds of every value that is read. -/
theorem of_read {text : String} {j : Json} (h : read text = .ok j) : P j := by
  obtain ⟨⟨value, after⟩, hread, hrest⟩ := bind_eq_ok_iff.mp h
  obtain ⟨_, -, hj⟩ := bind_eq_ok_iff.mp hrest
  have hvalue : P value := hP.yields_readNested greatestDepth _ value after hread
  cases hj
  exact hvalue

end Hereditary

end Json

end Conformance
