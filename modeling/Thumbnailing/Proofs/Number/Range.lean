import Mathlib.Algebra.Order.Field.Power
import Mathlib.Algebra.Order.Field.Rat
import Mathlib.Data.Rat.Cast.Order
import Mathlib.Tactic.Linarith
import Mathlib.Tactic.NormNum
import Mathlib.Tactic.Positivity
import Mathlib.Tactic.Ring
import Thumbnailing.Number.Binary64

set_option autoImplicit false

namespace Thumbnailing.Binary64

/-- The least magnitude that rounds beyond the greatest finite number: `2 ^ 1024 - 2 ^ 970`. -/
@[irreducible] def bound : Nat := (2 ^ 54 - 1) * 2 ^ 970

def greatestUnit : ℚ := 2 ^ greatestExponent

theorem greatestUnit_pos : 0 < greatestUnit := zpow_pos (by norm_num) _

theorem below_greatestUnit {exponent : Int} (less : exponent < greatestExponent) :
    2 ^ exponent * 2 ≤ greatestUnit := by
  rw [greatestUnit, ← zpow_add_one₀ (by norm_num)]
  exact zpow_le_zpow_right₀ (by norm_num) (by omega)

theorem above_greatestUnit {exponent : Int} (more : greatestExponent < exponent) :
    greatestUnit * 2 ≤ 2 ^ exponent := by
  rw [greatestUnit, ← zpow_add_one₀ (by norm_num)]
  exact zpow_le_zpow_right₀ (by norm_num) (by omega)

theorem cast_bound : (bound : ℚ) = greatestUnit * (2 ^ 53 - 1 / 2) := by
  have unit : greatestUnit = 2 * 2 ^ 970 := by
    rw [← pow_succ', greatestUnit, ← zpow_natCast]
    rfl
  unfold bound
  rw [unit, Nat.cast_mul, Nat.cast_pow, Nat.cast_ofNat]
  generalize (2 : ℚ) ^ 970 = half
  push_cast
  ring

theorem bound_pos : (0 : ℚ) < bound := by
  rw [cast_bound]
  exact mul_pos greatestUnit_pos (by norm_num)

theorem cast_powerOfTwo (exponent : Nat) : ((powerOfTwo exponent : ℕ) : ℚ) = 2 ^ exponent := by
  simp [powerOfTwo]

theorem scaleDown_quotient (numerator : Nat) {denominator : Nat} (positive : 0 < denominator)
    (exponent : Int) :
    0 < (scaleDown numerator denominator exponent).2 ∧
      ((scaleDown numerator denominator exponent).1 : ℚ) /
        (scaleDown numerator denominator exponent).2 = numerator / denominator / 2 ^ exponent := by
  unfold scaleDown
  split
  · rename_i upward
    obtain ⟨k, rfl⟩ := Int.eq_ofNat_of_zero_le upward
    refine ⟨Nat.mul_pos positive (powerOfTwo_pos _), ?_⟩
    simp only [Int.toNat_natCast, Nat.cast_mul, cast_powerOfTwo, zpow_natCast]
    rw [div_div]
  · rename_i downward
    obtain ⟨k, same⟩ := Int.eq_ofNat_of_zero_le (show 0 ≤ -exponent by omega)
    refine ⟨positive, ?_⟩
    rw [show exponent = -(k : ℤ) by omega]
    simp only [neg_neg, Int.toNat_natCast, Nat.cast_mul, cast_powerOfTwo, zpow_neg, zpow_natCast]
    rw [div_inv_eq_mul, mul_div_right_comm]

theorem quotient_log2 {numerator denominator : Nat} (filled : 0 < numerator)
    (positive : 0 < denominator) :
    (2 : ℚ) ^ ((numerator.log2 : ℤ) - denominator.log2 - 1) < numerator / denominator ∧
      (numerator : ℚ) / denominator < 2 ^ ((numerator.log2 : ℤ) - denominator.log2 + 1) := by
  have low : ((2 : ℚ) ^ numerator.log2) ≤ numerator := by
    exact_mod_cast Nat.log2_self_le (by omega)
  have high : (numerator : ℚ) < 2 ^ (numerator.log2 + 1) := by
    exact_mod_cast Nat.lt_log2_self
  have least : ((2 : ℚ) ^ denominator.log2) ≤ denominator := by
    exact_mod_cast Nat.log2_self_le (by omega)
  have most : (denominator : ℚ) < 2 ^ (denominator.log2 + 1) := by
    exact_mod_cast Nat.lt_log2_self
  have above : (0 : ℚ) < denominator := by exact_mod_cast positive
  constructor
  · rw [lt_div_iff₀ above]
    calc (2 : ℚ) ^ ((numerator.log2 : ℤ) - denominator.log2 - 1) * denominator
        < 2 ^ ((numerator.log2 : ℤ) - denominator.log2 - 1) * 2 ^ (denominator.log2 + 1) :=
          mul_lt_mul_of_pos_left most (zpow_pos (by norm_num) _)
      _ = 2 ^ numerator.log2 := by
          rw [← zpow_natCast, ← zpow_add₀ (by norm_num), ← zpow_natCast]
          congr 1
          push_cast
          ring
      _ ≤ numerator := low
  · rw [div_lt_iff₀ above]
    calc (numerator : ℚ) < 2 ^ (numerator.log2 + 1) := high
      _ = 2 ^ ((numerator.log2 : ℤ) - denominator.log2 + 1) * 2 ^ denominator.log2 := by
          rw [← zpow_natCast, ← zpow_natCast, ← zpow_add₀ (by norm_num)]
          congr 1
          push_cast
          ring
      _ ≤ 2 ^ ((numerator.log2 : ℤ) - denominator.log2 + 1) * denominator :=
          mul_le_mul_of_nonneg_left least (zpow_nonneg (by norm_num) _)

theorem quotientLog2_bounds {numerator denominator : Nat} (filled : 0 < numerator)
    (positive : 0 < denominator) :
    (2 : ℚ) ^ quotientLog2 numerator denominator ≤ numerator / denominator ∧
      (numerator : ℚ) / denominator < 2 ^ (quotientLog2 numerator denominator + 1) := by
  obtain ⟨low, high⟩ := quotient_log2 filled positive
  obtain ⟨above, scaled⟩ := scaleDown_quotient numerator positive
    ((numerator.log2 : ℤ) - denominator.log2)
  have unit : (0 : ℚ) < 2 ^ ((numerator.log2 : ℤ) - denominator.log2) := zpow_pos (by norm_num) _
  -- The comparison that corrects the estimate is one of the quotient with a power of two.
  have compared : ((scaleDown numerator denominator ((numerator.log2 : ℤ) - denominator.log2)).1 <
      (scaleDown numerator denominator ((numerator.log2 : ℤ) - denominator.log2)).2) ↔
      (numerator : ℚ) / denominator < 2 ^ ((numerator.log2 : ℤ) - denominator.log2) := by
    rw [← div_lt_one unit, ← scaled, div_lt_one (by exact_mod_cast above), Nat.cast_lt]
  unfold quotientLog2
  simp only
  split
  · rename_i below
    exact ⟨low.le, by simpa using compared.mp below⟩
  · rename_i within
    exact ⟨not_lt.mp fun below => within (compared.mpr below), high⟩

theorem nearestEven_le {numerator denominator limit : Nat} (positive : 0 < denominator)
    (below : numerator < limit * denominator) : nearestEven numerator denominator ≤ limit := by
  have whole : numerator / denominator < limit := (Nat.div_lt_iff_lt_mul positive).mpr below
  unfold nearestEven
  simp only
  split <;> omega

theorem le_nearestEven_iff {numerator denominator limit : Nat} (positive : 0 < denominator)
    (even : limit % 2 = 0) :
    limit ≤ nearestEven numerator denominator ↔
      2 * (limit * denominator) ≤ 2 * numerator + denominator := by
  have whole := Nat.div_add_mod numerator denominator
  have rest := Nat.mod_lt numerator positive
  unfold nearestEven
  simp only
  generalize numerator / denominator = quotient at *
  generalize numerator % denominator = remainder at *
  subst whole
  have reached : quotient + 1 ≤ limit → denominator * quotient + denominator ≤ limit * denominator := by
    intro more
    calc denominator * quotient + denominator = (quotient + 1) * denominator := by ring
      _ ≤ limit * denominator := Nat.mul_le_mul_right _ more
  have missed : limit ≤ quotient → limit * denominator ≤ denominator * quotient := by
    intro less
    calc limit * denominator ≤ quotient * denominator := Nat.mul_le_mul_right _ less
      _ = denominator * quotient := Nat.mul_comm _ _
  have further : quotient + 2 ≤ limit →
      denominator * quotient + 2 * denominator ≤ limit * denominator := by
    intro more
    calc denominator * quotient + 2 * denominator = (quotient + 2) * denominator := by ring
      _ ≤ limit * denominator := Nat.mul_le_mul_right _ more
  have next : limit = quotient + 1 → limit * denominator = denominator * quotient + denominator := by
    rintro rfl
    ring
  split
  · rename_i down
    constructor
    · intro less
      have := missed less
      omega
    · intro enough
      by_contra more
      rcases Nat.lt_or_ge limit (quotient + 2) with same | far
      · have exact := next (by omega)
        omega
      · have := further far
        omega
  · rename_i up
    constructor
    · intro less
      rcases Nat.lt_or_ge quotient limit with same | far
      · have exact := next (by omega)
        omega
      · have := missed far
        omega
    · intro enough
      by_contra more
      have := further (by omega)
      omega

def IsOrdinary : Binary64 → Prop
  | .finite _ significand exponent => significand < 2 * hiddenBit ∧ exponent ≤ greatestExponent
  | _ => False

theorem cast_hiddenBit : (hiddenBit : ℚ) = 2 ^ 52 := cast_powerOfTwo 52

theorem hiddenBit_pos : 0 < hiddenBit := powerOfTwo_pos 52

theorem carried_infinite (negative : Bool) {significand : Nat} {exponent : Int}
    (beyond : greatestExponent < exponent ∨
      (exponent = greatestExponent ∧ significand = 2 * hiddenBit)) :
    carried negative significand exponent = .infinite negative := by
  unfold carried
  simp only
  split <;> rw [if_pos (by omega)]

theorem carried_ordinary (negative : Bool) {significand : Nat} {exponent : Int}
    (within : significand ≤ 2 * hiddenBit)
    (inRange : exponent < greatestExponent ∨
      (exponent = greatestExponent ∧ significand ≠ 2 * hiddenBit)) :
    (carried negative significand exponent).IsOrdinary := by
  have filled := hiddenBit_pos
  unfold carried
  simp only
  split <;> rw [if_neg (by omega)] <;> exact ⟨by omega, by omega⟩

theorem carried_cases (negative : Bool) {numerator denominator : Nat} {exponent : Int}
    (positive : 0 < denominator) (narrow : (numerator : ℚ) / denominator < 2 ^ 53)
    (full : greatestExponent < exponent → (2 : ℚ) ^ 52 ≤ numerator / denominator) :
    ((bound : ℚ) ≤ numerator / denominator * 2 ^ exponent ∧
        carried negative (nearestEven numerator denominator) exponent = .infinite negative) ∨
      ((numerator : ℚ) / denominator * 2 ^ exponent < bound ∧
        (carried negative (nearestEven numerator denominator) exponent).IsOrdinary) := by
  have greatest := greatestUnit_pos
  have cast : (0 : ℚ) < denominator := by exact_mod_cast positive
  have below : numerator < 2 * hiddenBit * denominator := by
    have fewer := (div_lt_iff₀ cast).mp narrow
    rw [show (2 : ℚ) ^ 53 = ((2 * hiddenBit : ℕ) : ℚ) by
      rw [Nat.cast_mul, cast_hiddenBit]; norm_num] at fewer
    exact_mod_cast fewer
  have within : nearestEven numerator denominator ≤ 2 * hiddenBit := nearestEven_le positive below
  rcases lt_trichotomy exponent greatestExponent with less | rfl | more
  · refine .inr ⟨?_, carried_ordinary negative within (.inl less)⟩
    have unit := below_greatestUnit less
    calc (numerator : ℚ) / denominator * 2 ^ exponent
        < 2 ^ 53 * 2 ^ exponent := mul_lt_mul_of_pos_right narrow (zpow_pos (by norm_num) _)
      _ ≤ bound := by
        rw [cast_bound]
        linarith
  · -- The significand carries exactly if the quotient reaches the last half unit.
    have reached : 2 * hiddenBit ≤ nearestEven numerator denominator ↔
        (bound : ℚ) ≤ numerator / denominator * greatestUnit := by
      rw [le_nearestEven_iff positive (by omega), cast_bound, mul_comm greatestUnit,
        mul_le_mul_iff_left₀ greatest, le_div_iff₀ cast, ← Nat.cast_le (α := ℚ)]
      push_cast
      rw [cast_hiddenBit]
      constructor <;> intro enough <;> linarith
    by_cases carries : 2 * hiddenBit ≤ nearestEven numerator denominator
    · exact .inl ⟨reached.mp carries,
        carried_infinite negative (.inr ⟨rfl, Nat.le_antisymm within carries⟩)⟩
    · refine .inr ⟨not_le.mp fun enough => carries (reached.mpr enough),
        carried_ordinary negative within (.inr ⟨rfl, fun same => carries (by omega)⟩)⟩
  · refine .inl ⟨?_, carried_infinite negative (.inl more)⟩
    have unit := above_greatestUnit more
    calc (bound : ℚ) ≤ 2 ^ 52 * 2 ^ exponent := by
          rw [cast_bound]
          linarith
      _ ≤ numerator / denominator * 2 ^ exponent :=
        mul_le_mul_of_nonneg_right (full more) (zpow_nonneg (by norm_num) _)

theorem zero_ordinary (negative : Bool) : (zero negative).IsOrdinary :=
  ⟨Nat.mul_pos (by decide) hiddenBit_pos, by decide⟩

theorem ofQuotient_cases (negative : Bool) (numerator : Nat) {denominator : Nat}
    (positive : 0 < denominator) :
    ((bound : ℚ) ≤ numerator / denominator ∧
        ofQuotient negative numerator denominator = .infinite negative) ∨
      ((numerator : ℚ) / denominator < bound ∧
        (ofQuotient negative numerator denominator).IsOrdinary) := by
  by_cases nothing : numerator = 0
  · refine .inr ⟨by simpa [nothing] using bound_pos, ?_⟩
    rw [ofQuotient, if_pos nothing]
    exact zero_ordinary negative
  · obtain ⟨low, high⟩ := quotientLog2_bounds (Nat.pos_of_ne_zero nothing) positive
    simp only [ofQuotient, if_neg nothing]
    generalize quotientLog2 numerator denominator = log at low high ⊢
    generalize chosen : max (log - 52) leastExponent = exponent
    have least : leastExponent ≤ greatestExponent := by decide
    obtain ⟨above, scaled⟩ := scaleDown_quotient numerator positive exponent
    have unit : (0 : ℚ) < 2 ^ exponent := zpow_pos (by norm_num) _
    have whole : (numerator : ℚ) / denominator =
        (scaleDown numerator denominator exponent).1 /
          (scaleDown numerator denominator exponent).2 * 2 ^ exponent := by
      rw [scaled, div_mul_cancel₀ _ unit.ne']
    rw [whole]
    refine carried_cases negative above ?_ fun far => ?_
    · rw [scaled, div_lt_iff₀ unit, ← zpow_natCast, ← zpow_add₀ (by norm_num)]
      exact high.trans_le (zpow_le_zpow_right₀ (by norm_num) (by omega))
    · rw [scaled, le_div_iff₀ unit, ← zpow_natCast, ← zpow_add₀ (by norm_num)]
      exact (zpow_le_zpow_right₀ (by norm_num) (by omega)).trans low

end Thumbnailing.Binary64
