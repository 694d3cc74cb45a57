import Thumbnailing.Proofs.Number.Range

set_option autoImplicit false

namespace Thumbnailing.Binary64

variable {x y : Binary64}

def magnitude : Binary64 → ℚ
  | .finite _ significand exponent => significand * 2 ^ exponent
  | _ => 0

theorem magnitude_nonneg (x : Binary64) : 0 ≤ x.magnitude := by
  cases x with
  | finite _ significand exponent => exact mul_nonneg (Nat.cast_nonneg _) (zpow_nonneg (by norm_num) _)
  | _ => exact le_rfl

theorem one_lt_greatestUnit : 1 < greatestUnit :=
  one_lt_zpow₀ (by norm_num) (by decide)

theorem magnitude_add_half_lt (ordinary : x.IsOrdinary) : x.magnitude + 1 / 2 < bound := by
  cases x with
  | finite negative significand exponent =>
    obtain ⟨narrow, small⟩ := ordinary
    have units : (significand : ℚ) ≤ 2 ^ 53 - 1 := by
      have fewer : (significand : ℚ) + 1 ≤ 2 * hiddenBit := by exact_mod_cast narrow
      rw [cast_hiddenBit] at fewer
      linarith
    have unit : (2 : ℚ) ^ exponent ≤ greatestUnit := zpow_le_zpow_right₀ (by norm_num) small
    have first : (significand : ℚ) * 2 ^ exponent ≤ (2 ^ 53 - 1) * greatestUnit :=
      mul_le_mul units unit (zpow_nonneg (by norm_num) _) (by norm_num)
    have least := one_lt_greatestUnit
    rw [magnitude, cast_bound]
    linarith
  | _ => exact ordinary.elim

theorem magnitude_lt (ordinary : x.IsOrdinary) : x.magnitude < bound :=
  (lt_add_of_pos_right _ (by norm_num)).trans (magnitude_add_half_lt ordinary)

theorem ofScaled_cases (negative : Bool) (significand : Nat) (exponent : Int) :
    ((bound : ℚ) ≤ significand * 2 ^ exponent ∧
        ofScaled negative significand exponent = .infinite negative) ∨
      ((significand : ℚ) * 2 ^ exponent < bound ∧
        (ofScaled negative significand exponent).IsOrdinary) := by
  obtain ⟨above, scaled⟩ := scaleDown_quotient significand Nat.one_pos (-exponent)
  have exact : (significand : ℚ) * 2 ^ exponent =
      (scaleDown significand 1 (-exponent)).1 / (scaleDown significand 1 (-exponent)).2 := by
    rw [scaled, Nat.cast_one, div_one, zpow_neg, div_inv_eq_mul]
  rw [exact]
  exact ofQuotient_cases negative _ above

theorem ofInt_cases (n : Int) :
    ((bound : Int) ≤ |n| ∧ ofInt n = .error .integerTooLarge) ∨
      (|n| < (bound : Int) ∧ ∃ x, ofInt n = .ok x ∧ x.IsOrdinary) := by
  have same : ((n.natAbs : ℚ) / (1 : ℕ)) = ((|n| : ℤ) : ℚ) := by
    rw [Nat.cast_one, div_one, ← Int.natCast_natAbs, Int.cast_natCast]
  have integral : ((bound : ℚ) ≤ (|n| : ℤ)) ↔ (bound : Int) ≤ |n| := by
    exact_mod_cast Iff.rfl
  rcases ofQuotient_cases (decide (n < 0)) n.natAbs Nat.one_pos with
    ⟨reached, built⟩ | ⟨below, ordinary⟩
  · rw [same] at reached
    exact .inl ⟨integral.mp reached, by simp only [ofInt, built]⟩
  · rw [same] at below
    refine .inr ⟨not_le.mp fun reached => not_le.mpr below (integral.mpr reached), _, ?_, ordinary⟩
    unfold ofInt
    split
    · rename_i built
      rw [built] at ordinary
      exact ordinary.elim
    · rfl

theorem ofQuotient_isNegative (negative : Bool) (numerator denominator : Nat) :
    (ofQuotient negative numerator denominator).isNegative = negative := by
  unfold ofQuotient
  split
  · rfl
  · simp only [carried]
    split <;> split <;> rfl

theorem ofInt_natural {n : Int} {x : Binary64} (natural : 0 ≤ n) (converted : ofInt n = .ok x) :
    x.isNegative = false := by
  unfold ofInt at converted
  split at converted
  · cases converted
  · cases converted
    rw [ofQuotient_isNegative, decide_eq_false (Int.not_lt.mpr natural)]

theorem ratio_cases {n d : Int} (natural : 0 ≤ n) (positive : 0 < d) :
    (bound * d ≤ n ∧ ratio n d = .error .quotientTooLarge) ∨
      (n < bound * d ∧ ∃ x, ratio n d = .ok x ∧ x.IsOrdinary ∧ x.isNegative = false) := by
  obtain ⟨a, rfl⟩ := Int.eq_ofNat_of_zero_le natural
  obtain ⟨b, rfl⟩ := Int.eq_ofNat_of_zero_le positive.le
  have above : 0 < b := by exact_mod_cast positive
  have integral : ((bound : ℚ) ≤ a / b) ↔ (bound : Int) * b ≤ a := by
    rw [le_div_iff₀ (by exact_mod_cast above)]
    exact_mod_cast Iff.rfl
  have positives : ofQuotient (decide ((a : Int) < 0) != decide ((b : Int) < 0)) (a : Int).natAbs
      (b : Int).natAbs = ofQuotient false a b := by
    simp only [Int.not_lt.mpr natural, Int.not_lt.mpr positive.le, Int.natAbs_natCast, decide_false,
      bne_self_eq_false]
  rcases ofQuotient_cases false a above with ⟨reached, built⟩ | ⟨below, ordinary⟩
  · refine .inl ⟨integral.mp reached, ?_⟩
    simp only [ratio, if_neg positive.ne', positives, built]
  · refine .inr ⟨not_le.mp fun reached => not_le.mpr below (integral.mpr reached), _, ?_, ordinary,
      ofQuotient_isNegative false a b⟩
    unfold ratio
    rw [if_neg positive.ne', positives]
    split
    · rename_i built
      rw [built] at ordinary
      exact ordinary.elim
    · rfl

theorem mul_cases (first : x.IsOrdinary) (second : y.IsOrdinary) :
    ((bound : ℚ) ≤ x.magnitude * y.magnitude ∧ ∃ negative, x.mul y = .infinite negative) ∨
      (x.magnitude * y.magnitude < bound ∧ (x.mul y).IsOrdinary) := by
  cases x with
  | finite n₁ s₁ e₁ =>
    cases y with
    | finite n₂ s₂ e₂ =>
      have product : magnitude (.finite n₁ s₁ e₁) * magnitude (.finite n₂ s₂ e₂) =
          ((s₁ * s₂ : ℕ) : ℚ) * 2 ^ (e₁ + e₂) := by
        simp only [magnitude]
        rw [zpow_add₀ (by norm_num), Nat.cast_mul]
        ring
      rw [product]
      rcases ofScaled_cases (n₁ != n₂) (s₁ * s₂) (e₁ + e₂) with ⟨reached, built⟩ | within
      · exact .inl ⟨reached, _, built⟩
      · exact .inr within
    | _ => exact second.elim
  | _ => exact first.elim

theorem mul_isNegative (first : x.IsOrdinary) (second : y.IsOrdinary) :
    (x.mul y).isNegative = (x.isNegative != y.isNegative) := by
  cases x with
  | finite n₁ s₁ e₁ =>
    cases y with
    | finite n₂ s₂ e₂ => exact ofQuotient_isNegative _ _ _
    | _ => exact second.elim
  | _ => exact first.elim

theorem neg_ordinary (ordinary : x.IsOrdinary) : x.neg.IsOrdinary := by
  cases x with
  | finite => exact ordinary
  | _ => exact ordinary.elim

theorem half_eq : half = .finite false hiddenBit (-53) := by decide +kernel

theorem natAbs_inUnits (unit : Int) (negative : Bool) (significand : Nat) {exponent : Int}
    (finer : unit ≤ exponent) :
    ((inUnits unit negative significand exponent).natAbs : ℚ) * 2 ^ unit =
      significand * 2 ^ exponent := by
  have same : (inUnits unit negative significand exponent).natAbs =
      significand * powerOfTwo (exponent - unit).toNat := by
    unfold inUnits signed
    split <;> omega
  rw [same, Nat.cast_mul, cast_powerOfTwo, mul_assoc, ← zpow_natCast, ← zpow_add₀ (by norm_num)]
  congr 2
  omega

theorem add_ordinary {n₁ n₂ : Bool} {s₁ s₂ : Nat} {e₁ e₂ : Int}
    (within : ((inUnits (min e₁ e₂) n₁ s₁ e₁ + inUnits (min e₁ e₂) n₂ s₂ e₂).natAbs : ℚ) *
      2 ^ min e₁ e₂ < bound) : ((finite n₁ s₁ e₁).add (.finite n₂ s₂ e₂)).IsOrdinary := by
  simp only [add]
  split
  · exact zero_ordinary _
  · rcases ofScaled_cases _ _ _ with ⟨reached, -⟩ | ⟨-, result⟩
    · exact absurd reached (not_le.mpr within)
    · exact result

theorem add_half_ordinary (ordinary : x.IsOrdinary) : (x.add half).IsOrdinary := by
  cases x with
  | finite negative significand exponent =>
    have within := magnitude_add_half_lt ordinary
    rw [half_eq]
    have unit : (0 : ℚ) < 2 ^ min exponent (-53) := zpow_pos (by norm_num) _
    have first := natAbs_inUnits (min exponent (-53)) negative significand (min_le_left _ _)
    have second := natAbs_inUnits (min exponent (-53)) false hiddenBit (min_le_right exponent (-53))
    have width : (hiddenBit : ℚ) * 2 ^ (-53 : ℤ) = 1 / 2 := by
      rw [cast_hiddenBit]
      norm_num
    -- The sum in units is no larger than the two magnitudes together.
    have sum := Int.natAbs_add_le (inUnits (min exponent (-53)) negative significand exponent)
      (inUnits (min exponent (-53)) false hiddenBit (-53))
    have small := mul_le_mul_of_nonneg_right (Nat.cast_le (α := ℚ).mpr sum) unit.le
    rw [Nat.cast_add, add_mul, first, second, width] at small
    exact add_ordinary (small.trans_lt within)
  | _ => exact ordinary.elim

theorem sub_ordinary (first : x.IsOrdinary) (second : y.IsOrdinary)
    (natural : x.isNegative = false) (also : y.isNegative = false) : (x.sub y).IsOrdinary := by
  cases x with
  | finite n₁ s₁ e₁ =>
    cases y with
    | finite n₂ s₂ e₂ =>
      obtain rfl : n₁ = false := natural
      obtain rfl : n₂ = false := also
      have unit : (0 : ℚ) ≤ 2 ^ min e₁ e₂ := zpow_nonneg (by norm_num) _
      have small : (s₁ : ℚ) * 2 ^ e₁ < bound := magnitude_lt first
      have smallToo : (s₂ : ℚ) * 2 ^ e₂ < bound := magnitude_lt second
      rw [← natAbs_inUnits (min e₁ e₂) false s₁ (min_le_left _ _)] at small
      rw [← natAbs_inUnits (min e₁ e₂) true s₂ (min_le_right _ _)] at smallToo
      have above : 0 ≤ inUnits (min e₁ e₂) false s₁ e₁ := Int.natCast_nonneg _
      have below : inUnits (min e₁ e₂) true s₂ e₂ ≤ 0 :=
        Int.neg_nonpos_of_nonneg (Int.natCast_nonneg _)
      refine add_ordinary ?_
      rw [Bool.not_false]
      generalize inUnits (min e₁ e₂) false s₁ e₁ = a at *
      generalize inUnits (min e₁ e₂) true s₂ e₂ = b at *
      rcases le_total a.natAbs b.natAbs with fewer | fewer
      · have within : (a + b).natAbs ≤ b.natAbs := by omega
        exact (mul_le_mul_of_nonneg_right (Nat.cast_le.mpr within) unit).trans_lt smallToo
      · have within : (a + b).natAbs ≤ a.natAbs := by omega
        exact (mul_le_mul_of_nonneg_right (Nat.cast_le.mpr within) unit).trans_lt small
    | _ => exact second.elim
  | _ => exact first.elim

theorem divNat_ordinary (ordinary : x.IsOrdinary) {divisor : Nat} (positive : 0 < divisor) :
    (x.divNat divisor).IsOrdinary := by
  cases x with
  | finite negative significand exponent =>
    obtain ⟨above, scaled⟩ := scaleDown_quotient significand positive (-exponent)
    have within := magnitude_add_half_lt ordinary
    have smaller : (significand : ℚ) / divisor / 2 ^ (-exponent) < bound := by
      have least : (1 : ℚ) ≤ divisor := by exact_mod_cast positive
      have whole := magnitude_nonneg (.finite negative significand exponent)
      rw [zpow_neg, div_inv_eq_mul, div_mul_eq_mul_div]
      simp only [magnitude] at within whole
      linarith [div_le_self whole least]
    rcases ofQuotient_cases negative _ above with ⟨reached, -⟩ | ⟨-, result⟩
    · exact absurd (scaled ▸ reached) (not_le.mpr smaller)
    · exact result
  | _ => exact ordinary.elim

theorem squareRootFuel_lt (fuel n : Nat) : squareRootFuel fuel n < 2 ^ fuel := by
  induction fuel generalizing n with
  | zero => exact Nat.one_pos
  | succ fuel ih =>
    have quarter := ih (n / 4)
    rw [Nat.pow_succ]
    simp only [squareRootFuel]
    split
    · omega
    · split <;> omega

theorem sqrtScaled_ordinary {significand : Nat} {exponent : Int}
    (ordinary : (Binary64.finite false significand exponent).IsOrdinary)
    (filled : significand ≠ 0) : (sqrtScaled significand exponent).IsOrdinary := by
  obtain ⟨narrow, small⟩ := ordinary
  have greatest : greatestExponent = 971 := rfl
  -- The root has at most 82 bits and is scaled by less than `2 ^ 431`.
  have narrowed : significand * powerOfTwo (110 + (exponent - 110) % 2).toNat < 2 ^ 164 := by
    have widened : (110 + (exponent - 110) % 2).toNat ≤ 111 := by omega
    calc significand * powerOfTwo (110 + (exponent - 110) % 2).toNat
        < 2 * hiddenBit * powerOfTwo (110 + (exponent - 110) % 2).toNat :=
          Nat.mul_lt_mul_of_pos_right narrow (powerOfTwo_pos _)
      _ ≤ 2 * hiddenBit * 2 ^ 111 :=
          Nat.mul_le_mul_left _ (Nat.pow_le_pow_right (by decide) widened)
      _ = 2 ^ 164 := by decide
  have positive : significand * powerOfTwo (110 + (exponent - 110) % 2).toNat ≠ 0 :=
    (Nat.mul_pos (Nat.pos_of_ne_zero filled) (powerOfTwo_pos _)).ne'
  unfold sqrtScaled
  simp only
  generalize significand * powerOfTwo (110 + (exponent - 110) % 2).toNat = radicand at *
  have short : squareRoot radicand < 2 ^ 82 := by
    have bits : radicand.log2 < 164 := (Nat.log2_lt positive).mpr narrowed
    exact (squareRootFuel_lt _ _).trans_le (Nat.pow_le_pow_right (by decide) (by omega))
  generalize squareRoot radicand = root at *
  have width : (if root * root = radicand then 2 * root else 2 * root + 1) < 2 ^ 83 := by
    split <;> omega
  generalize (if root * root = radicand then 2 * root else 2 * root + 1) = sticky at *
  rcases ofScaled_cases false sticky ((exponent - (110 + (exponent - 110) % 2)) / 2 - 1) with
    ⟨reached, -⟩ | ⟨-, result⟩
  · refine absurd reached (not_le.mpr ?_)
    calc (sticky : ℚ) * 2 ^ ((exponent - (110 + (exponent - 110) % 2)) / 2 - 1)
        < 2 ^ (83 : ℤ) * 2 ^ ((exponent - (110 + (exponent - 110) % 2)) / 2 - 1) :=
          mul_lt_mul_of_pos_right (by exact_mod_cast width) (zpow_pos (by norm_num) _)
      _ = 2 ^ (83 + ((exponent - (110 + (exponent - 110) % 2)) / 2 - 1)) :=
          (zpow_add₀ (by norm_num) _ _).symm
      _ ≤ greatestUnit := zpow_le_zpow_right₀ (by norm_num) (by omega)
      _ ≤ bound := by
          have positive := greatestUnit_pos
          rw [cast_bound]
          linarith
  · exact result

theorem sqrt_ordinary (ordinary : x.IsOrdinary) (natural : x.isNegative = false) :
    ∃ root, x.sqrt = .ok root ∧ root.IsOrdinary := by
  cases x with
  | finite negative significand exponent =>
    obtain rfl : negative = false := natural
    unfold sqrt
    simp only
    split
    · exact ⟨_, rfl, ordinary⟩
    · rename_i filled
      exact ⟨_, rfl, sqrtScaled_ordinary ordinary filled⟩
  | _ => exact ordinary.elim

theorem toIntegerBy_ordinary (rule : Bool → Nat → Nat → Int) (ordinary : x.IsOrdinary) :
    ∃ n, toIntegerBy rule x = .ok n := by
  cases x with
  | finite => exact ⟨_, rfl⟩
  | _ => exact ordinary.elim

theorem roundHalfUp_ordinary (ordinary : x.IsOrdinary) : ∃ n, x.roundHalfUp = .ok n := by
  unfold roundHalfUp
  split
  · obtain ⟨n, floored⟩ := toIntegerBy_ordinary _ (add_half_ordinary (neg_ordinary ordinary))
    exact ⟨-n, by rw [floor, floored]; rfl⟩
  · exact toIntegerBy_ordinary _ (add_half_ordinary ordinary)

theorem roundHalfUp_infinite (negative : Bool) :
    (infinite negative).roundHalfUp = .error .infinityToInteger := by
  cases negative <;> rfl

end Thumbnailing.Binary64
