import Mathlib
import FillFeed.Numeric.Decimal

/-!
# Products of decimals

A product of decimals is out of range exactly when it reaches the midpoint above the largest
mantissa, `2 ^ 96 - 1 / 2` (`mul?_eq_none_iff`). Rounding a long product tries one number of
fraction digits after the other; since the rounded mantissa only shrinks as more digits go, all
attempts fail exactly when the last one does, which keeps no fraction digit.
-/

namespace FillFeed

/-- A quotient is rounded down or up to the next number. -/
lemma Rounding.halfEven_cases (num den : Nat) :
    halfEven num den = num / den ∨ halfEven num den = num / den + 1 := by
  unfold halfEven
  dsimp only
  split_ifs <;> simp

/-- A quotient is rounded to an even bound or more exactly when it reaches the midpoint below. -/
lemma Rounding.le_halfEven_iff {bound num den : Nat} (even : bound % 2 = 0) (positive : 0 < bound)
    (den_pos : 0 < den) : bound ≤ halfEven num den ↔ (2 * bound - 1) * den ≤ 2 * num := by
  have parts : den * (num / den) + num % den = num := Nat.div_add_mod num den
  have small : num % den < den := Nat.mod_lt num den_pos
  obtain below | last | above :
      num / den + 1 < bound ∨ num / den + 1 = bound ∨ bound ≤ num / den := by
    omega
  · have rounded : halfEven num den < bound := by
      obtain e | e := halfEven_cases num den <;> omega
    have far : 2 * num < (2 * bound - 1) * den :=
      calc 2 * num < 2 * (den * (num / den)) + 3 * den := by omega
        _ = (2 * (num / den) + 3) * den := by ring
        _ ≤ (2 * bound - 1) * den := Nat.mul_le_mul_right den (by omega)
    exact iff_of_false (Nat.not_le.2 rounded) (Nat.not_le.2 far)
  -- the quotient is odd, so that a half rounds up to the bound
  · have midpoint : (2 * bound - 1) * den = 2 * (den * (num / den)) + den := by
      rw [show 2 * bound - 1 = 2 * (num / den) + 1 by omega]
      ring
    rw [midpoint]
    unfold halfEven
    dsimp only
    split_ifs <;> omega
  · have rounded : bound ≤ halfEven num den := by
      obtain e | e := halfEven_cases num den <;> omega
    have near : (2 * bound - 1) * den ≤ 2 * num :=
      calc (2 * bound - 1) * den ≤ 2 * (num / den) * den := Nat.mul_le_mul_right den (by omega)
        _ = 2 * (den * (num / den)) := by ring
        _ ≤ 2 * num := by omega
    exact iff_of_true rounded near

namespace Decimal

/-- A power of ten is positive. -/
lemma tenPow_pos (n : Nat) : 0 < tenPow n := Nat.pow_pos (by decide)

/-- A number whose fraction digits fit is no decimal if and only if its mantissa is too large. -/
lemma signed?_eq_none_iff {negative : Bool} {mantissa scale : Nat} (fits : scale ≤ maxScale) :
    signed? negative mantissa scale = none ↔ mantissaBound ≤ mantissa := by
  unfold signed?
  split
  · rename_i inRange
    simp [inRange.1]
  · rename_i outOfRange
    simp only [true_iff]
    exact Nat.le_of_not_lt fun inRange => outOfRange ⟨inRange, fits⟩

/-- A quotient is rounded to a mantissa that is too large from half a unit below the bound on. -/
lemma mantissaBound_le_halfEven_iff {num den : Nat} (den_pos : 0 < den) :
    mantissaBound ≤ Rounding.halfEven num den ↔ (2 * mantissaBound - 1) * den ≤ 2 * num :=
  Rounding.le_halfEven_iff (by decide) (by decide) den_pos

/-- No number of fraction digits fits exactly when none at all does not fit. -/
lemma shorten_eq_none_iff {negative : Bool} {mantissa scale : Nat} (extra : Nat) :
    shorten negative mantissa scale extra = none ↔
      (2 * mantissaBound - 1) * tenPow scale ≤ 2 * mantissa := by
  induction extra with
  | zero =>
    rw [shorten, signed?_eq_none_iff (Nat.zero_le _), mantissaBound_le_halfEven_iff (tenPow_pos _)]
  | succ extra ih =>
    rw [shorten]
    split
    · rename_i d kept
      simp only [reduceCtorEq, false_iff]
      intro tooLong
      -- fewer digits are dropped here, so that the mantissa is longer still
      have fewer : tenPow (scale - (extra + 1)) ≤ tenPow scale :=
        Nat.pow_le_pow_right (by decide) (Nat.sub_le _ _)
      have longer := mantissaBound_le_halfEven_iff (tenPow_pos (scale - (extra + 1))) |>.2
        ((Nat.mul_le_mul_left _ fewer).trans tooLong)
      rw [signed?, dif_neg (fun inRange => absurd inRange.1 (Nat.not_lt.2 longer))] at kept
      cases kept
    · exact ih

/-- The number without its sign. -/
def magnitude (d : Decimal) : ℚ := d.mantissa / 10 ^ d.scale

/-- A product reaches half a unit below the bound if its mantissas do when they are multiplied. -/
lemma midpoint_le_iff (a b : Decimal) :
    (2 ^ 96 - 1 / 2 ≤ a.magnitude * b.magnitude) ↔
      (2 * mantissaBound - 1) * tenPow (a.scale + b.scale) ≤ 2 * (a.mantissa * b.mantissa) := by
  have product : a.magnitude * b.magnitude =
      (a.mantissa * b.mantissa : ℚ) / 10 ^ (a.scale + b.scale) := by
    rw [magnitude, magnitude, div_mul_div_comm, pow_add]
  have ten : (0 : ℚ) < 10 ^ (a.scale + b.scale) := by positivity
  rw [product, le_div_iff₀ ten, ← Nat.cast_le (α := ℚ)]
  have double : ((2 * mantissaBound - 1 : ℕ) : ℚ) = 2 * (2 ^ 96 - 1 / 2) := by
    norm_num [mantissaBound, twoPow]
  have power : (tenPow (a.scale + b.scale) : ℚ) = 10 ^ (a.scale + b.scale) := by
    simp [tenPow]
  rw [Nat.cast_mul, double, power]
  push_cast
  constructor <;> intro h <;> linarith

/-- A product is out of range exactly when it reaches the midpoint above the largest mantissa. -/
theorem mul?_eq_none_iff (a b : Decimal) :
    a.mul? b = none ↔ 2 ^ 96 - 1 / 2 ≤ a.magnitude * b.magnitude := by
  rw [midpoint_le_iff]
  have unit : 1 ≤ tenPow (a.scale + b.scale) := tenPow_pos _
  have bound : 2 * mantissaBound - 1 ≤ (2 * mantissaBound - 1) * tenPow (a.scale + b.scale) :=
    Nat.le_mul_of_pos_right _ unit
  unfold mul?
  dsimp only
  split
  · rename_i zero
    have product : a.mantissa * b.mantissa = 0 := Nat.mul_eq_zero.2 zero
    have positive : 0 < 2 * mantissaBound - 1 := by decide
    simp only [reduceCtorEq, false_iff]
    omega
  split
  · rename_i short
    have product : a.mantissa * b.mantissa < shortBound * shortBound :=
      Nat.mul_lt_mul'' short.1 short.2
    have room : 2 * (shortBound * shortBound) ≤ 2 * mantissaBound - 1 := by decide
    have inRange : ¬(2 * mantissaBound - 1) * tenPow (a.scale + b.scale) ≤
        2 * (a.mantissa * b.mantissa) := by omega
    split
    · simpa using inRange
    · rw [Option.map_eq_none_iff, shorten_eq_none_iff]
  · exact shorten_eq_none_iff _

end Decimal

end FillFeed
