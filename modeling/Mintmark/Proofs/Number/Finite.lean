import Mathlib.Algebra.Group.Nat.Defs
import Mintmark.Number.Binary64

/-!
# Whole numbers within the range of the format

A number of 64 bits is far below the greatest number of the format: neither rounding it nor scaling
it by one gives an infinity.
-/

namespace Mintmark.Number

theorem nearestEven_le (num den : Nat) : nearestEven num den ≤ num / den + 1 := by
  unfold nearestEven
  dsimp only
  split
  · exact Nat.le_succ _
  · split <;> omega

theorem nearestEven_one (num : Nat) : nearestEven num 1 = num := by
  simp [nearestEven, Nat.mod_one]

namespace Binary64

theorem lastBit_le (num den : Nat) :
    lastBit num den ≤ max minExponent ((num.log2 : Int) - den.log2 - 52) := by
  simp only [lastBit]
  split <;> omega

/-- What a fraction is rounded to, unless it is zero: the mantissa is the nearest one or just got one
bit too long. -/
theorem ofRatio_cases (negative : Bool) (num den : Nat) (some : num ≠ 0)
    (small : lastBit num den < maxExponent) :
    ∃ mantissa exponent, ofRatio negative num den = finite negative mantissa exponent ∧
      (exponent = lastBit num den ∧
        mantissa = nearestEven (shifted num den exponent).1 (shifted num den exponent).2 ∨
      exponent = lastBit num den + 1 ∧ mantissa = leastFull) := by
  simp only [ofRatio, if_neg some]
  split
  · next long =>
    refine ⟨leastFull, lastBit num den + 1, ?_, .inr ⟨rfl, rfl⟩⟩
    simp only [if_neg (show ¬ maxExponent < lastBit num den + 1 by omega)]
  · refine ⟨_, lastBit num den, ?_, .inl ⟨rfl, rfl⟩⟩
    simp only [if_neg (show ¬ maxExponent < lastBit num den by omega)]

theorem log2_le {num den k : Nat} (some : num ≠ 0) (lt : num < 2 ^ k * den) :
    num.log2 ≤ den.log2 + k := by
  have below : num < 2 ^ (den.log2 + 1 + k) := by
    apply Nat.lt_of_lt_of_le lt
    rw [Nat.pow_add, Nat.mul_comm]
    exact Nat.mul_le_mul_right _ (Nat.le_of_lt Nat.lt_log2_self)
  have := (Nat.log2_lt some).mpr below
  omega

theorem isInfinite_ofRatio (negative : Bool) {num den : Nat} (lt : num < 2 ^ 200 * den) :
    (ofRatio negative num den).isInfinite = false := by
  by_cases zero : num = 0
  · simp [ofRatio, zero, Binary64.zero, isInfinite]
  · have bit := lastBit_le num den
    have log := log2_le zero lt
    simp only [minExponent] at bit
    obtain ⟨mantissa, exponent, eq, -⟩ :=
      ofRatio_cases negative num den zero (by simp only [maxExponent]; omega)
    rw [eq]
    rfl

/-- A number of 64 bits is kept with a mantissa and an exponent that come to about as many. -/
theorem ofNat_bound {n : Nat} (some : n ≠ 0) (lt : n < bound64) :
    ∃ mantissa exponent, ofNat n = finite false mantissa exponent ∧
      mantissa * 2 ^ exponent.toNat < 2 ^ 100 * 2 ^ (-exponent).toNat := by
  have log : n.log2 < 64 := (Nat.log2_lt some).mpr lt
  have bit := lastBit_le n 1
  have one : Nat.log2 1 = 0 := by decide
  simp only [minExponent, one] at bit
  have twelve : lastBit n 1 < 12 := by omega
  obtain ⟨mantissa, exponent, eq, shape⟩ :=
    ofRatio_cases false n 1 some (by simp only [maxExponent]; omega)
  refine ⟨mantissa, exponent, eq, ?_⟩
  have power : 2 ^ exponent.toNat ≤ 2 ^ 13 := Nat.pow_le_pow_right (by decide) (by omega)
  have small (short : mantissa ≤ 2 ^ 64) :
      mantissa * 2 ^ exponent.toNat < 2 ^ 100 * 2 ^ (-exponent).toNat := by
    calc mantissa * 2 ^ exponent.toNat ≤ 2 ^ 64 * 2 ^ 13 := Nat.mul_le_mul short power
      _ < 2 ^ 100 * 1 := by decide
      _ ≤ 2 ^ 100 * 2 ^ (-exponent).toNat := Nat.mul_le_mul_left _ (Nat.two_pow_pos _)
  rcases shape with ⟨-, rfl⟩ | ⟨-, rfl⟩
  · rcases Int.le_total 0 exponent with up | down
    · apply small
      have near := nearestEven_le (shifted n 1 exponent).1 (shifted n 1 exponent).2
      have rest := Nat.div_le_self (shifted n 1 exponent).1 (shifted n 1 exponent).2
      have whole : (shifted n 1 exponent).1 = n := by
        simp only [shifted, show (-exponent).toNat = 0 by omega, Nat.shiftLeft_zero]
      have fits : n < 2 ^ 64 := lt
      omega
    · have exact : nearestEven (shifted n 1 exponent).1 (shifted n 1 exponent).2 =
          n * 2 ^ (-exponent).toNat := by
        simp only [shifted, show exponent.toNat = 0 by omega, Nat.shiftLeft_eq, Nat.pow_zero,
          Nat.one_mul, nearestEven_one]
      rw [exact, show exponent.toNat = 0 by omega, Nat.pow_zero, Nat.mul_one]
      exact Nat.mul_lt_mul_of_pos_right (Nat.lt_trans lt (by decide)) (Nat.two_pow_pos _)
  · exact small (by decide)

theorem scale_zero (x : Binary64) : x.scale 0 = if x.isZero then x else x.times (2 ^ 52) (2 ^ 52) := by
  have one : (powerOfTen (Int.toNat 0)).magnitude = (2 ^ 52, 2 ^ 52) := by decide
  rw [scale, one]
  rfl

/-- No number of 64 bits is out of range. -/
theorem isInfinite_scale_ofNat {n : Nat} (lt : n < bound64) :
    ((ofNat n).scale 0).isInfinite = false := by
  rw [scale_zero]
  by_cases zero : n = 0
  · rw [zero]
    decide
  · obtain ⟨mantissa, exponent, eq, bound⟩ := ofNat_bound zero lt
    rw [eq]
    split
    · rfl
    · apply isInfinite_ofRatio
      simp only [Nat.shiftLeft_eq]
      calc mantissa * 2 ^ 52 * 2 ^ exponent.toNat
          = 2 ^ 52 * (mantissa * 2 ^ exponent.toNat) := by rw [Nat.mul_comm mantissa, Nat.mul_assoc]
        _ < 2 ^ 52 * (2 ^ 100 * 2 ^ (-exponent).toNat) := Nat.mul_lt_mul_of_pos_left bound (by decide)
        _ = 2 ^ 100 * (2 ^ 52 * 2 ^ (-exponent).toNat) := Nat.mul_left_comm ..
        _ ≤ 2 ^ 200 * (2 ^ 52 * 2 ^ (-exponent).toNat) := Nat.mul_le_mul_right _ (by decide)

end Binary64
end Mintmark.Number
