import Conformance.Proofs.ExactIntegers

/-!
# Rounding keeps the order

Beyond `2 ^ 53` an integer may be rounded when it is compared with a binary64 number, and several integers
become one. They never change places, though. A quotient is rounded to a number that is not below the one to
which a lesser quotient is rounded (`divideToEven_mono`). So words of magnitudes are in the order of the
magnitudes, where rounding up to the next power of two ends at its word and not beyond (`wordOfNat_range`); and
with the signs the places of all integers are in the order of the integers (`roundedPlace_mono`).
-/

set_option autoImplicit false

namespace Conformance

namespace Binary64

/-! ## Quotients -/

theorem div_le_divideToEven (n d : Nat) : n / d ≤ divideToEven n d := by
  unfold divideToEven
  dsimp only
  split <;> omega

theorem divideToEven_le_div (n d : Nat) : divideToEven n d ≤ n / d + 1 := by
  unfold divideToEven
  dsimp only
  split <;> omega

/-- A greater number is not rounded to a lesser quotient. -/
theorem divideToEven_mono {m n : Nat} (d : Nat) (h : m ≤ n) : divideToEven m d ≤ divideToEven n d := by
  rcases Nat.lt_or_eq_of_le (Nat.div_le_div_right (c := d) h) with hlt | heq
  · calc divideToEven m d ≤ m / d + 1 := divideToEven_le_div m d
      _ ≤ n / d := hlt
      _ ≤ divideToEven n d := div_le_divideToEven n d
  · -- between two neighbours the greater remainder is rounded up if the lesser one is
    have hremainder : m % d ≤ n % d := by
      have hm := Nat.div_add_mod m d
      have hn := Nat.div_add_mod n d
      rw [heq] at hm
      omega
    unfold divideToEven
    dsimp only
    rw [heq]
    split <;> split <;> omega

/-! ## Words of magnitudes -/

theorem wordOfNat_of_lt_log2 {n : Nat} (hlog : 52 < n.log2) :
    wordOfNat n = (n.log2 + 1022) * normalWord + divideToEven n (2 ^ (n.log2 - 52)) := by
  have hpos : n ≠ 0 := by
    rintro rfl
    exact absurd hlog (by decide)
  unfold wordOfNat
  rw [if_neg hpos]
  dsimp only
  rw [if_neg (Nat.not_le.mpr hlog)]
  rfl

/-- The words of the numbers with one logarithm are those from one normal word to the next. A number that is
rounded may be rounded to the latter. -/
theorem wordOfNat_range {n : Nat} (hpos : n ≠ 0) :
    (n.log2 + 1023) * normalWord ≤ wordOfNat n ∧ wordOfNat n ≤ (n.log2 + 1024) * normalWord := by
  rcases Nat.lt_or_ge 52 n.log2 with hlog | hlog
  · have hsplit : normalWord * 2 ^ (n.log2 - 52) = 2 ^ n.log2 :=
      calc normalWord * 2 ^ (n.log2 - 52) = 2 ^ (52 + (n.log2 - 52)) := (Nat.pow_add 2 52 _).symm
        _ = 2 ^ n.log2 := by rw [Nat.add_sub_cancel' (Nat.le_of_lt hlog)]
    have hlow : normalWord ≤ n / 2 ^ (n.log2 - 52) := by
      rw [Nat.le_div_iff_mul_le (Nat.two_pow_pos _), hsplit]
      exact Nat.log2_self_le hpos
    have hhigh : n / 2 ^ (n.log2 - 52) < 2 * normalWord := by
      rw [Nat.div_lt_iff_lt_mul (Nat.two_pow_pos _), Nat.mul_assoc, hsplit, Nat.mul_comm, ← Nat.pow_succ]
      exact Nat.lt_log2_self
    have hfloor := div_le_divideToEven n (2 ^ (n.log2 - 52))
    have hceil := divideToEven_le_div n (2 ^ (n.log2 - 52))
    rw [wordOfNat_of_lt_log2 hlog]
    simp only [Nat.add_mul]
    omega
  · obtain ⟨hlow, hhigh⟩ := wordOfNat_bounds hpos hlog
    exact ⟨hlow, Nat.le_of_lt hhigh⟩

/-- A greater number does not have a lesser word, rounded or not. -/
theorem wordOfNat_mono {m n : Nat} (h : m ≤ n) : wordOfNat m ≤ wordOfNat n := by
  by_cases hm : m = 0
  · subst hm
    exact Nat.zero_le _
  have hn : n ≠ 0 := by omega
  rcases Nat.lt_or_eq_of_le (log2_mono hm h) with hless | heq
  · calc wordOfNat m ≤ (m.log2 + 1024) * normalWord := (wordOfNat_range hm).2
      _ ≤ (n.log2 + 1023) * normalWord := Nat.mul_le_mul_right _ (by omega)
      _ ≤ wordOfNat n := (wordOfNat_range hn).1
  · -- with the same logarithm, both are scaled alike
    rcases Nat.lt_or_ge 52 n.log2 with hround | hexact
    · rw [wordOfNat_of_lt_log2 hround, wordOfNat_of_lt_log2 (heq ▸ hround), heq]
      exact Nat.add_le_add_left (divideToEven_mono _ h) _
    · rw [wordOfNat_of_log2_le hn hexact, wordOfNat_of_log2_le hm (heq ▸ hexact), heq]
      exact Nat.add_le_add_left (Nat.mul_le_mul_right _ h) _

/-! ## Places on the line -/

/-- The place of the number to which an integer is rounded. -/
def roundedPlace (i : Int) : Int :=
  if i < 0 then -((clampWord (wordOfNat i.natAbs)).val : Int) else (clampWord (wordOfNat i.natAbs)).val

theorem rank_ofInt_eq_roundedPlace (i : Int) : (ofInt i).rank = some (roundedPlace i) := by
  rw [ofInt, rank, roundedPlace]
  simp only [decide_eq_true_eq]

theorem clampWord_mono {v w : Nat} (h : v ≤ w) : (clampWord v).val ≤ (clampWord w).val :=
  Nat.le_min.mpr ⟨Nat.le_trans (Nat.min_le_left _ _) h, Nat.min_le_right _ _⟩

/-- On the negative side a greater integer has a lesser magnitude. -/
theorem roundedPlace_mono {i j : Int} (h : i ≤ j) : roundedPlace i ≤ roundedPlace j := by
  unfold roundedPlace
  by_cases hj : j < 0
  · have hi : i < 0 := Int.lt_of_le_of_lt h hj
    have hwords := clampWord_mono (wordOfNat_mono (show j.natAbs ≤ i.natAbs by omega))
    rw [if_pos hi, if_pos hj]
    omega
  · by_cases hi : i < 0
    · rw [if_pos hi, if_neg hj]
      omega
    · have hwords := clampWord_mono (wordOfNat_mono (show i.natAbs ≤ j.natAbs by omega))
      rw [if_neg hi, if_neg hj]
      omega

end Binary64

end Conformance
