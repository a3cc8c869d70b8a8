import Mathlib.Algebra.Order.Field.Basic
import Mathlib.Algebra.Order.Field.Power
import Mathlib.Algebra.Order.Field.Rat
import Mathlib.Tactic.FieldSimp
import Mathlib.Tactic.Linarith
import Mathlib.Tactic.Positivity
import Mathlib.Tactic.Ring
import TextMigration.NearMiss

/-!
Similarities as fractions. The two comparisons that are made on naturals are comparisons of the fractions
(`isNear_iff`, `below_iff`). Only the value that is written is rounded: a quotient is scaled so that it has 53 bits
before the point and rounded there, which is off by half of a bit at most (`nearest_error`), and that happens twice
(`value_error`).
-/

namespace TextMigration

namespace Binary64

def toRat (x : Binary64) : ℚ := x.significand * 2 ^ x.exponent

variable {num den : Nat}

theorem div_eq_floor_add (num : Nat) (positive : 0 < den) :
    (num : ℚ) / den = (num / den : ℕ) + ((num % den : ℕ) : ℚ) / den := by
  have nonzero : (den : ℚ) ≠ 0 := by exact_mod_cast positive.ne'
  have whole : (num : ℚ) = den * (num / den : ℕ) + (num % den : ℕ) := by exact_mod_cast (Nat.div_add_mod num den).symm
  field_simp
  exact whole

theorem roundEven_error (num : Nat) (positive : 0 < den) : |(roundEven num den : ℚ) - num / den| ≤ 1 / 2 := by
  have above : (0 : ℚ) < den := by exact_mod_cast positive
  have proper : ((num % den : ℕ) : ℚ) / den < 1 := by
    rw [div_lt_one above]
    exact_mod_cast Nat.mod_lt num positive
  have half (a b : Nat) (less : a * 2 ≤ b * den) : (a : ℚ) / den ≤ b / 2 := by
    rw [div_le_div_iff₀ above two_pos]
    exact_mod_cast less
  have other (a b : Nat) (more : b * den ≤ a * 2) : (b : ℚ) / 2 ≤ a / den := by
    rw [div_le_div_iff₀ two_pos above]
    exact_mod_cast more
  have low : (0 : ℚ) ≤ ((num % den : ℕ) : ℚ) / den := by positivity
  rw [div_eq_floor_add num positive, roundEven, abs_le]
  split
  · next below =>
    have := half (num % den) 1 (by omega)
    constructor <;> push_cast at * <;> linarith
  · next far =>
    have := other (num % den) 1 (by omega)
    split
    · next tie =>
      have := half (num % den) 1 (by omega)
      split <;> constructor <;> push_cast at * <;> linarith
    · constructor <;> push_cast at * <;> linarith

theorem roundEven_le (num den : Nat) : roundEven num den ≤ num / den + 1 := by
  rw [roundEven]
  split
  · omega
  · split
    · split <;> omega
    · omega

theorem scale_snd_pos (num : Nat) (positive : 0 < den) (exponent : Int) : 0 < (scale num den exponent).2 := by
  rw [scale]
  split
  · exact positive
  · exact Nat.mul_pos positive (Nat.pow_pos two_pos)

theorem scale_quotient (num den : Nat) (exponent : Int) :
    ((scale num den exponent).1 : ℚ) / (scale num den exponent).2 = num / den / 2 ^ exponent := by
  rw [scale]
  split
  · next down =>
    have flip : (2 : ℚ) ^ exponent = (2 ^ exponent.natAbs)⁻¹ := by
      rw [← zpow_natCast, Int.ofNat_natAbs_of_nonpos down.le, zpow_neg, inv_inv]
    rw [flip, div_inv_eq_mul, Nat.pow_eq]
    push_cast
    ring
  · next up =>
    have same : (2 : ℚ) ^ exponent = 2 ^ exponent.natAbs := by
      rw [← zpow_natCast, Int.natAbs_of_nonneg (not_lt.mp up)]
    rw [same, div_div, Nat.pow_eq]
    push_cast
    rfl

theorem rounded_error (num : Nat) (positive : 0 < den) (exponent : Int) :
    |(roundEven (scale num den exponent).1 (scale num den exponent).2 : ℚ) * 2 ^ exponent - num / den| ≤
      2 ^ exponent / 2 := by
  have power : (0 : ℚ) < 2 ^ exponent := zpow_pos two_pos exponent
  have error := roundEven_error (scale num den exponent).1 (scale_snd_pos num positive exponent)
  rw [scale_quotient] at error
  generalize (roundEven (scale num den exponent).1 (scale num den exponent).2 : ℚ) = rounded at error
  calc |rounded * 2 ^ exponent - num / den|
      = |rounded - num / den / 2 ^ exponent| * 2 ^ exponent := by
        rw [← abs_of_pos power, ← abs_mul, abs_of_pos power, sub_mul, div_mul_cancel₀ _ power.ne']
    _ ≤ 1 / 2 * 2 ^ exponent := mul_le_mul_of_nonneg_right error power.le
    _ = 2 ^ exponent / 2 := by ring

theorem scale_lt_limit (positive : 0 < den) (exponent : Int)
    (high : (num.log2 : Int) - den.log2 - 52 ≤ exponent) :
    (scale num den exponent).1 / (scale num den exponent).2 < significandLimit := by
  have below := scale_snd_pos num positive exponent
  have real : (0 : ℚ) < (scale num den exponent).2 := by exact_mod_cast below
  have power : (0 : ℚ) < 2 ^ exponent := zpow_pos two_pos exponent
  rw [Nat.div_lt_iff_lt_mul below]
  have upper : (num : ℚ) < 2 ^ (num.log2 + 1) := by exact_mod_cast Nat.lt_log2_self
  have lower : (2 : ℚ) ^ den.log2 ≤ den := by exact_mod_cast Nat.log2_self_le positive.ne'
  have small : ((scale num den exponent).1 : ℚ) / (scale num den exponent).2 < 2 ^ 53 := by
    rw [scale_quotient, div_lt_iff₀ power, div_lt_iff₀ (by exact_mod_cast positive)]
    calc (num : ℚ)
        < 2 ^ ((num.log2 : Int) + 1) := by exact_mod_cast upper
      _ ≤ 2 ^ ((53 : Int) + exponent + den.log2) := zpow_le_zpow_right₀ one_le_two (by omega)
      _ = 2 ^ 53 * 2 ^ exponent * 2 ^ den.log2 := by
        rw [zpow_add₀ two_ne_zero, zpow_add₀ two_ne_zero, zpow_natCast, zpow_ofNat]
      _ ≤ 2 ^ 53 * 2 ^ exponent * den := mul_le_mul_of_nonneg_left lower (by positivity)
  rw [div_lt_iff₀ real] at small
  rw [significandLimit, Nat.pow_eq]
  exact_mod_cast small

/-- The nearest number is the quotient, scaled and rounded to a natural; should that need one bit more, then it is a
power of two, and half of it is exact. -/
theorem nearest_spec (positive : 0 < den) (nonzero : num ≠ 0) : ∃ exponent : Int,
    exponent ≤ max ((num.log2 : Int) - den.log2 - 52) leastExponent ∧
      (nearest num den).toRat = roundEven (scale num den exponent).1 (scale num den exponent).2 * 2 ^ exponent := by
  let guess : Int := (num.log2 : Int) - (den.log2 : Int) - 53
  obtain ⟨exponent, chosen⟩ : ∃ exponent, exponent =
      max (if (scale num den guess).1 / (scale num den guess).2 < significandLimit then guess else guess + 1)
        leastExponent := ⟨_, rfl⟩
  have made : nearest num den =
      if roundEven (scale num den exponent).1 (scale num den exponent).2 < significandLimit then
        ⟨roundEven (scale num den exponent).1 (scale num den exponent).2, exponent⟩
      else ⟨roundEven (scale num den exponent).1 (scale num den exponent).2 / 2, exponent + 1⟩ := by
    rw [nearest, if_neg nonzero, chosen]
  refine ⟨exponent, by split at chosen <;> omega, ?_⟩
  -- At the guess this is what was tested; above it, it follows from the lengths of the two numbers.
  have fits : (scale num den exponent).1 / (scale num den exponent).2 < significandLimit := by
    by_cases least : exponent = guess
    · split at chosen
      · next low => rwa [least]
      · omega
    · exact scale_lt_limit positive exponent (by split at chosen <;> omega)
  have most := roundEven_le (scale num den exponent).1 (scale num den exponent).2
  rw [made]
  split
  · rfl
  · next beyond =>
    have limit : roundEven (scale num den exponent).1 (scale num den exponent).2 = 2 ^ 53 := by
      rw [significandLimit, Nat.pow_eq] at *
      omega
    have double : (2 : ℚ) ^ (exponent + 1) = 2 ^ exponent * 2 := zpow_add_one₀ two_ne_zero exponent
    rw [toRat, limit, double]
    norm_num
    ring

theorem log2_le_log2 (small : num ≤ den) : num.log2 ≤ den.log2 := by
  by_cases zero : num = 0
  · simp [zero]
  · exact (Nat.le_log2 (by omega)).mpr (Nat.le_trans (Nat.log2_self_le zero) small)

/-- Up to one, the nearest number is off by half of a 53rd bit at most. -/
theorem nearest_error (positive : 0 < den) (small : num ≤ den) :
    |(nearest num den).toRat - num / den| ≤ 1 / 2 ^ 53 := by
  by_cases zero : num = 0
  · simp [nearest, zero, toRat]
  · obtain ⟨exponent, bound, made⟩ := nearest_spec positive zero
    have low : exponent ≤ -52 := by
      have := log2_le_log2 small
      rw [leastExponent] at bound
      omega
    rw [made]
    calc _ ≤ (2 : ℚ) ^ exponent / 2 := rounded_error num positive exponent
      _ ≤ 2 ^ (-52 : Int) / 2 := div_le_div_of_nonneg_right (zpow_le_zpow_right₀ one_le_two low) two_pos.le
      _ = 1 / 2 ^ 53 := by norm_num

theorem quotient_eq (x : Binary64) : (x.quotient.1 : ℚ) / x.quotient.2 = x.toRat := by
  rw [quotient, scale_quotient, toRat, zpow_neg, div_inv_eq_mul]
  simp

theorem complement_error (x : Binary64) (small : x.toRat ≤ 1) : |x.complement.toRat - (1 - x.toRat)| ≤ 1 / 2 ^ 53 := by
  have positive : 0 < x.quotient.2 := scale_snd_pos _ one_pos _
  have real : (0 : ℚ) < x.quotient.2 := by exact_mod_cast positive
  have whole : x.quotient.1 ≤ x.quotient.2 := by
    rw [← quotient_eq, div_le_one real] at small
    exact_mod_cast small
  have error := nearest_error positive (Nat.sub_le x.quotient.2 x.quotient.1)
  have rest : ((x.quotient.2 - x.quotient.1 : ℕ) : ℚ) / x.quotient.2 = 1 - x.toRat := by
    rw [Nat.cast_sub whole, sub_div, div_self real.ne', quotient_eq]
  rw [rest] at error
  exact error

end Binary64

/-- How alike two texts are: all of the characters of the longer one but the edits between the two. -/
def Text.likeness (left right : Text) : ℚ := 1 - (editDistance left right : ℚ) / (max left.length right.length : ℕ)

namespace Similarity

def ratio (s : Similarity) : ℚ := 1 - (s.edits : ℚ) / s.length

theorem ratio_between (left right : Text) : (between left right).ratio = left.likeness right := rfl

variable {s t : Similarity}

theorem isNear_iff (some : 0 < s.length) : s.isNear = true ↔ 3 / 4 ≤ s.ratio := by
  have positive : (0 : ℚ) < s.length := by exact_mod_cast some
  have quarter : (1 : ℚ) - 3 / 4 = 1 / 4 := by norm_num
  rw [isNear, decide_eq_true_iff, ratio, le_sub_comm, quarter, div_le_div_iff₀ positive four_pos, one_mul, mul_comm 4]
  exact_mod_cast Iff.rfl

theorem below_iff (some : 0 < s.length) (also : 0 < t.length) : s.below t = true ↔ s.ratio < t.ratio := by
  have positive : (0 : ℚ) < s.length := by exact_mod_cast some
  have other : (0 : ℚ) < t.length := by exact_mod_cast also
  rw [below, decide_eq_true_iff, ratio, ratio, sub_lt_sub_iff_left, div_lt_div_iff₀ other positive]
  exact_mod_cast Iff.rfl

theorem value_error (some : 0 < s.length) (near : 3 / 4 ≤ s.ratio) : |s.value.toRat - s.ratio| ≤ 1 / 2 ^ 52 := by
  have positive : (0 : ℚ) < s.length := by exact_mod_cast some
  have proper : s.edits ≤ s.length := by
    have within : 4 * s.edits ≤ s.length := by simpa [isNear] using (isNear_iff some).mpr near
    omega
  have first := Binary64.nearest_error some proper
  have small : (Binary64.nearest s.edits s.length).toRat ≤ 1 := by
    rw [ratio] at near
    rw [abs_le] at first
    linarith
  have second := Binary64.complement_error _ small
  rw [value, if_neg some.ne', ratio]
  calc _ ≤ _ + _ := abs_sub_le _ (1 - (Binary64.nearest s.edits s.length).toRat) _
    _ ≤ 1 / 2 ^ 53 + 1 / 2 ^ 53 := by
      refine add_le_add second ?_
      rw [sub_sub_sub_cancel_left, abs_sub_comm]
      exact first
    _ = 1 / 2 ^ 52 := by norm_num

end Similarity

end TextMigration
