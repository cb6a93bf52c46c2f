import Mathlib.Algebra.Ring.Nat
import Mathlib.Tactic.Lemma
import PageConfig.Decimal.Binary64

/-!
# Whole numbers as doubles

A natural number below `2 ^ 53` is a double as it stands: moved up until its
mantissa is full, it is not rounded, and moved back it is the same number.
-/

namespace PageConfig.Decimal

lemma pow2_eq (n : Nat) : pow2 n = 2 ^ n := rfl

lemma pow10_eq (n : Nat) : pow10 n = 10 ^ n := rfl

namespace Binary64

/-- A division by one needs no rounding. -/
lemma divNearest_one (n : Nat) : divNearest n 1 = n := by
  unfold divNearest
  rw [Nat.div_one, Nat.mod_one]
  rfl

/-- How far a number is from a full mantissa. -/
def shift (n : Nat) : Nat := 52 - n.log2

/-- The highest bit of a number below `2 ^ 53` is at most the one of weight `2 ^ 52`. -/
lemma log2_le_of_lt {n : Nat} (h : n < 2 ^ 53) : n.log2 ≤ 52 := by
  by_cases hzero : n = 0
  · simp [hzero]
  · have hlt : n.log2 < 53 := (Nat.log2_lt hzero).mpr h
    omega

/-- Moved up by its shift, a number has a full mantissa. -/
lemma full_shift {n : Nat} (hpos : n ≠ 0) (h : n < 2 ^ 53) :
    2 ^ 52 ≤ n * 2 ^ shift n ∧ n * 2 ^ shift n < 2 ^ 53 := by
  have hlog := log2_le_of_lt h
  have hlower : 2 ^ n.log2 ≤ n := Nat.log2_self_le hpos
  have hupper : n < 2 ^ (n.log2 + 1) := Nat.lt_log2_self
  unfold shift
  constructor
  · calc 2 ^ 52 = 2 ^ n.log2 * 2 ^ (52 - n.log2) := by rw [← Nat.pow_add]; congr 1; omega
      _ ≤ n * 2 ^ (52 - n.log2) := Nat.mul_le_mul_right _ hlower
  · calc n * 2 ^ (52 - n.log2) < 2 ^ (n.log2 + 1) * 2 ^ (52 - n.log2) :=
          Nat.mul_lt_mul_of_pos_right hupper (Nat.two_pow_pos _)
      _ = 2 ^ 53 := by rw [← Nat.pow_add]; congr 1; omega

/-- The exponent of a natural number below `2 ^ 53`. -/
lemma exponentFor_eq {n : Nat} (hpos : n ≠ 0) (h : n < 2 ^ 53) :
    exponentFor n 1 = -(shift n : Int) := by
  have hlog := log2_le_of_lt h
  obtain ⟨hfull, -⟩ := full_shift hpos h
  have hguess : (n.log2 : Int) - (Nat.log2 1 : Nat) - (precision - 1 : Nat) = -(shift n : Int) := by
    have hone : Nat.log2 1 = 0 := by decide
    simp only [hone, precision, shift]
    omega
  have hfits : (if -(shift n : Int) < 0 then
        1 * pow2 (precision - 1) ≤ n * pow2 (- -(shift n : Int)).toNat
      else 1 * pow2 (precision - 1) * pow2 (-(shift n : Int)).toNat ≤ n) := by
    simp only [pow2_eq, precision, Int.neg_neg, Int.toNat_natCast, Nat.one_mul]
    split
    · exact hfull
    · have hzero : shift n = 0 := by omega
      simpa [hzero] using hfull
  unfold exponentFor
  simp only [hguess]
  rw [if_pos hfits]
  unfold minExponent shift
  omega

/-- A natural number below `2 ^ 53` is a double, moved up by its shift. -/
lemma ofRatio_eq {n : Nat} (hpos : n ≠ 0) (h : n < 2 ^ 53) (negative : Bool) :
    ofRatio negative n 1 = finite negative (n * 2 ^ shift n) (-(shift n : Int)) := by
  obtain ⟨hfull, hbound⟩ := full_shift hpos h
  have hscaled : scaled n 1 (-(shift n : Int)) = n * 2 ^ shift n := by
    unfold scaled
    split
    · rw [Int.neg_neg, Int.toNat_natCast, divNearest_one, pow2_eq]
    · have hzero : shift n = 0 := by omega
      simp [hzero, pow2_eq, divNearest_one]
  have hne : n * 2 ^ shift n ≠ pow2 precision := by
    rw [pow2_eq, precision]
    omega
  have hexponent : ¬ -(shift n : Int) > maxExponent := by
    unfold maxExponent
    omega
  rw [ofRatio, if_neg hpos, exponentFor_eq hpos h]
  simp only [hscaled, pack]
  rw [if_neg (by omega), if_neg hne]
  simp only [if_neg hexponent]

/-- The value of a number moved up by its shift is the number. -/
lemma toInt?_shift (n : Nat) (negative : Bool) :
    toInt? (finite negative (n * 2 ^ shift n) (-(shift n : Int)))
      = some (if negative then -(n : Int) else n) := by
  have hpow : 0 < 2 ^ shift n := Nat.two_pow_pos _
  unfold toInt? ratio
  by_cases hneg : -(shift n : Int) < 0
  · simp only [if_pos hneg, Int.neg_neg, Int.toNat_natCast, pow2_eq]
    rw [if_pos (Nat.mul_mod_left n _), Nat.mul_div_cancel n hpow]
  · have hzero : shift n = 0 := by omega
    simp [hzero, pow2_eq, Nat.mod_one]

/-- Digits that make a number below `2 ^ 53` are read as that number, with either sign. -/
theorem toSafeInt?_ofDecimal {n : Nat} (h : n < 2 ^ 53) :
    (ofDecimal false n 0).toSafeInt? = some (n : Int) ∧
      (ofDecimal false n 0).neg.toSafeInt? = some (-(n : Int)) := by
  have hsafe : ∀ k : Int, k.natAbs = n → (some k).filter (fun m => m.natAbs < exactBound.natAbs)
      = some k := by
    intro k hk
    have hlt : k.natAbs < exactBound.natAbs := by
      rw [hk]
      exact h
    simp [hlt]
  by_cases hzero : n = 0
  · subst hzero
    constructor <;> decide +kernel
  · have hvalue : ofDecimal false n 0 = finite false (n * 2 ^ shift n) (-(shift n : Int)) := by
      have hlow : ¬ (0 : Int) < -(400 + (Nat.log2 n : Int)) := by omega
      rw [← ofRatio_eq hzero h, ofDecimal, if_neg hzero, if_neg (by decide), if_neg hlow,
        if_neg (by decide), Int.toNat_zero, pow10_eq, Nat.pow_zero, Nat.mul_one]
    rw [hvalue]
    constructor
    · rw [toSafeInt?, toInt?_shift]
      exact hsafe _ (Int.natAbs_natCast n)
    · rw [toSafeInt?, neg, toInt?_shift]
      exact hsafe _ (by simp)

end Binary64

end PageConfig.Decimal
