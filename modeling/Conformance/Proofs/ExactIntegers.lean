import Conformance.Number
import Mathlib.Algebra.Order.Ring.Int

/-!
# Integers that binary64 keeps apart

Integers are rounded when they are compared with binary64 numbers. Up to `2 ^ 53` on either side of zero nothing
is lost: magnitude words grow strictly there (`wordOfNat_lt_wordOfNat`), so that it makes no difference whether
two such integers are compared exactly or as binary64 numbers (`Number.compare_of_exact`). Then all numbers are
compared by their places on one line, and numbers that are equal compare alike with every other one.
-/

set_option autoImplicit false

namespace Conformance

/-- The integer lies in the range in which binary64 has all integers. -/
def ExactInt (i : Int) : Prop := -2 ^ 53 ≤ i ∧ i ≤ 2 ^ 53

namespace Binary64

/-! ## Magnitude words of exact integers -/

/-- With few enough bits a number is shifted into place, and no bit is lost. -/
theorem wordOfNat_of_log2_le {n : Nat} (hpos : n ≠ 0) (hlog : n.log2 ≤ 52) :
    wordOfNat n = (n.log2 + 1022) * normalWord + n * 2 ^ (52 - n.log2) := by
  unfold wordOfNat
  rw [if_neg hpos]
  dsimp only
  rw [if_pos hlog]
  rfl

/-- The words of the numbers with one logarithm are those from one normal word to the next. -/
theorem wordOfNat_bounds {n : Nat} (hpos : n ≠ 0) (hlog : n.log2 ≤ 52) :
    (n.log2 + 1023) * normalWord ≤ wordOfNat n ∧ wordOfNat n < (n.log2 + 1024) * normalWord := by
  have hsplit : 2 ^ n.log2 * 2 ^ (52 - n.log2) = normalWord := by
    rw [← Nat.pow_add, Nat.add_sub_cancel' hlog]
    rfl
  have hlow : normalWord ≤ n * 2 ^ (52 - n.log2) :=
    calc normalWord = 2 ^ n.log2 * 2 ^ (52 - n.log2) := hsplit.symm
      _ ≤ n * 2 ^ (52 - n.log2) := Nat.mul_le_mul_right _ (Nat.log2_self_le hpos)
  have hhigh : n * 2 ^ (52 - n.log2) < normalWord * 2 :=
    calc n * 2 ^ (52 - n.log2) < 2 ^ (n.log2 + 1) * 2 ^ (52 - n.log2) :=
          Nat.mul_lt_mul_of_pos_right Nat.lt_log2_self (Nat.two_pow_pos _)
      _ = normalWord * 2 := by rw [Nat.pow_succ, Nat.mul_right_comm, hsplit]
  rw [wordOfNat_of_log2_le hpos hlog]
  simp only [Nat.add_mul] at hlow hhigh ⊢
  omega

theorem log2_le_of_lt {n : Nat} (hpos : n ≠ 0) (h : n < 2 ^ 53) : n.log2 ≤ 52 := by
  have hlog : n.log2 < 53 := (Nat.log2_lt hpos).mpr h
  omega

theorem log2_mono {m n : Nat} (hm : m ≠ 0) (h : m ≤ n) : m.log2 ≤ n.log2 := by
  have hn : n ≠ 0 := by omega
  rw [Nat.le_log2 hn]
  exact Nat.le_trans (Nat.log2_self_le hm) h

/-- A greater number has a greater word, as long as no number is rounded. -/
theorem wordOfNat_lt_wordOfNat {m n : Nat} (hlt : m < n) (hn : n ≤ 2 ^ 53) : wordOfNat m < wordOfNat n := by
  have hn0 : n ≠ 0 := by omega
  have hm : m < 2 ^ 53 := by omega
  -- the greatest of the integers is the one whose word is computed
  have hlow : (n.log2 + 1023) * normalWord ≤ wordOfNat n := by
    rcases Nat.lt_or_eq_of_le hn with hsmall | rfl
    · exact (wordOfNat_bounds hn0 (log2_le_of_lt hn0 hsmall)).1
    · decide
  rcases Nat.eq_zero_or_pos m with rfl | hm0
  · have hzero : wordOfNat 0 = 0 := rfl
    have hnormal : 0 < normalWord := by decide
    have hpos : 0 < (n.log2 + 1023) * normalWord := Nat.mul_pos (by omega) hnormal
    omega
  · have hm0 : m ≠ 0 := by omega
    have hmlog := log2_le_of_lt hm0 hm
    rcases Nat.lt_or_eq_of_le (log2_mono hm0 (Nat.le_of_lt hlt)) with hless | heq
    · have hhigh := (wordOfNat_bounds hm0 hmlog).2
      have hstep : (m.log2 + 1024) * normalWord ≤ (n.log2 + 1023) * normalWord :=
        Nat.mul_le_mul_right _ (by omega)
      omega
    · -- with the same logarithm, both are shifted by the same number of bits
      have hscaled : m * 2 ^ (52 - n.log2) < n * 2 ^ (52 - n.log2) :=
        Nat.mul_lt_mul_of_pos_right hlt (Nat.two_pow_pos _)
      rw [wordOfNat_of_log2_le hm0 hmlog, wordOfNat_of_log2_le hn0 (heq ▸ hmlog), heq]
      omega

/-- The word of an exact integer is that of a finite number, so that nothing is clamped. -/
theorem wordOfNat_le_infinityWord {n : Nat} (h : n ≤ 2 ^ 53) : wordOfNat n ≤ infinityWord := by
  have hgreatest : wordOfNat (2 ^ 53) ≤ infinityWord := by decide
  rcases Nat.lt_or_eq_of_le h with hlt | rfl
  · exact Nat.le_trans (Nat.le_of_lt (wordOfNat_lt_wordOfNat hlt (Nat.le_refl _))) hgreatest
  · exact hgreatest

/-! ## Places on the line -/

/-- The place of an exact integer: its word, on the side of zero where it is. -/
def exactPlace (i : Int) : Int := if i < 0 then -(wordOfNat i.natAbs : Int) else wordOfNat i.natAbs

theorem rank_ofInt {i : Int} (h : ExactInt i) : (ofInt i).rank = some (exactPlace i) := by
  have hle : wordOfNat i.natAbs ≤ infinityWord := wordOfNat_le_infinityWord (by
    obtain ⟨hlow, hhigh⟩ := h
    omega)
  have hclamp : ((clampWord (wordOfNat i.natAbs)).val : Int) = wordOfNat i.natAbs := by
    exact congrArg Int.ofNat (Nat.min_eq_left hle)
  rw [ofInt, rank, hclamp, exactPlace]
  by_cases hneg : i < 0
  · simp [hneg]
  · simp [hneg]

theorem exactPlace_lt_exactPlace {i j : Int} (hi : ExactInt i) (hj : ExactInt j) (hlt : i < j) :
    exactPlace i < exactPlace j := by
  obtain ⟨hilow, hihigh⟩ := hi
  obtain ⟨hjlow, hjhigh⟩ := hj
  unfold exactPlace
  by_cases hj0 : j < 0
  · have hi0 : i < 0 := by omega
    have hwords : wordOfNat j.natAbs < wordOfNat i.natAbs := wordOfNat_lt_wordOfNat (by omega) (by omega)
    rw [if_pos hi0, if_pos hj0]
    omega
  · by_cases hi0 : i < 0
    · have hwords : wordOfNat 0 < wordOfNat i.natAbs := wordOfNat_lt_wordOfNat (by omega) (by omega)
      rw [if_pos hi0, if_neg hj0]
      omega
    · have hwords : wordOfNat i.natAbs < wordOfNat j.natAbs := wordOfNat_lt_wordOfNat (by omega) (by omega)
      rw [if_neg hi0, if_neg hj0]
      omega

/-- Two exact integers compare as binary64 numbers as they do by themselves. -/
theorem compare_ofInt {i j : Int} (hi : ExactInt i) (hj : ExactInt j) :
    (ofInt i).compare (ofInt j) = some (Ord.compare i j) := by
  have hplaces : Ord.compare (exactPlace i) (exactPlace j) = Ord.compare i j := by
    rcases Int.lt_trichotomy i j with hlt | rfl | hgt
    · rw [Int.compare_eq_lt.mpr hlt, Int.compare_eq_lt.mpr (exactPlace_lt_exactPlace hi hj hlt)]
    · rw [Int.compare_eq_eq.mpr rfl, Int.compare_eq_eq.mpr rfl]
    · rw [Int.compare_eq_gt.mpr hgt, Int.compare_eq_gt.mpr (exactPlace_lt_exactPlace hj hi hgt)]
  rw [compare, rank_ofInt hi, rank_ofInt hj]
  exact congrArg some hplaces

/-- Two numbers are equal if they are at one place, so that neither is undefined. -/
theorem compare_eq_some_eq_iff {x y : Binary64} :
    x.compare y = some .eq ↔ ∃ place, x.rank = some place ∧ y.rank = some place := by
  rw [compare]
  cases hx : x.rank with
  | none => simp
  | some p =>
      cases hy : y.rank with
      | none => simp
      | some q => simp [eq_comm (a := q)]

theorem compare_swap (x y : Binary64) : y.compare x = (x.compare y).map Ordering.swap := by
  rw [compare, compare]
  cases x.rank with
  | none => cases y.rank <;> rfl
  | some p =>
      cases y.rank with
      | none => rfl
      | some q => exact congrArg some Std.OrientedOrd.eq_swap

end Binary64

namespace Number

/-! ## Numbers -/

def IntWith (P : Int → Prop) : Number → Prop
  | .int i => P i
  | .float _ => True

theorem compare_swap (m n : Number) : n.compare m = (m.compare n).map Ordering.swap := by
  cases m with
  | int i =>
      cases n with
      | int j => exact congrArg some Std.OrientedOrd.eq_swap
      | float y => exact Binary64.compare_swap _ _
  | float x =>
      cases n with
      | int j => exact Binary64.compare_swap _ _
      | float y => exact Binary64.compare_swap _ _

/-- The result is turned around with the two numbers. -/
theorem compare_eq_swap_iff {m n : Number} (order : Ordering) :
    n.compare m = some order.swap ↔ m.compare n = some order := by
  rw [compare_swap m n]
  cases m.compare n with
  | none => simp
  | some result => simp [Ordering.swap_inj]

/-- Nothing is lost by comparing exact integers as binary64 numbers. -/
theorem compare_of_exact {m n : Number} (hm : m.IntWith ExactInt) (hn : n.IntWith ExactInt) :
    m.compare n = m.toBinary64.compare n.toBinary64 := by
  cases m with
  | int i =>
      cases n with
      | int j => exact (Binary64.compare_ofInt hm hn).symm
      | float y => rfl
  | float x => rfl

theorem equals_iff {m n : Number} : m.equals n = true ↔ m.compare n = some .eq := beq_iff_eq

/-- Equal numbers compare alike with every other one. -/
theorem compare_eq_of_equals {m n : Number} (hm : m.IntWith ExactInt) (hn : n.IntWith ExactInt)
    (heq : m.equals n = true) {other : Number} (hother : other.IntWith ExactInt) :
    m.compare other = n.compare other := by
  rw [equals_iff, compare_of_exact hm hn, Binary64.compare_eq_some_eq_iff] at heq
  obtain ⟨place, hmplace, hnplace⟩ := heq
  rw [compare_of_exact hm hother, compare_of_exact hn hother, Binary64.compare, Binary64.compare,
    hmplace, hnplace]

end Number

end Conformance
