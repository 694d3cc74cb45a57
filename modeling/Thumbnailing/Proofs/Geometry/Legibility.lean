import Thumbnailing.Proofs.Geometry.Feasibility

set_option autoImplicit false

namespace Thumbnailing

namespace Binary64

def mostBits : Nat := 53 + 971

variable {x : Binary64} {n : Int}

theorem scaleDown_lt {significand bits units : Nat} {exponent : Int}
    (narrow : significand < 2 ^ bits) (small : exponent ≤ units) :
    (scaleDown significand 1 (-exponent)).1 < 2 ^ (bits + units) := by
  unfold scaleDown
  split
  · exact narrow.trans_le (Nat.pow_le_pow_right (by decide) (Nat.le_add_right bits units))
  · have unit : powerOfTwo (- -exponent).toNat ≤ 2 ^ units :=
      Nat.pow_le_pow_right (by decide) (by omega)
    calc significand * powerOfTwo (- -exponent).toNat
        < 2 ^ bits * powerOfTwo (- -exponent).toNat :=
          Nat.mul_lt_mul_of_pos_right narrow (powerOfTwo_pos _)
      _ ≤ 2 ^ bits * 2 ^ units := Nat.mul_le_mul_left _ unit
      _ = 2 ^ (bits + units) := (pow_add 2 bits units).symm

theorem floor_short (ordinary : x.IsOrdinary) (floored : x.floor = .ok n) :
    n.natAbs < 2 ^ mostBits := by
  cases x with
  | finite negative significand exponent =>
    cases floored
    have whole : (scaleDown significand 1 (-exponent)).1 < 2 ^ mostBits := by
      unfold mostBits
      exact scaleDown_lt (ordinary.1.trans_eq (by decide)) ordinary.2
    have least := Int.natAbs_fdiv_le_natAbs
      (signed negative (scaleDown significand 1 (-exponent)).1)
      (scaleDown significand 1 (-exponent)).2
    have same : (signed negative (scaleDown significand 1 (-exponent)).1).natAbs =
        (scaleDown significand 1 (-exponent)).1 := by
      unfold signed
      split <;> omega
    exact (same ▸ least).trans_lt whole
  | _ => exact ordinary.elim

theorem roundHalfUp_short (ordinary : x.IsOrdinary) (rounded : x.roundHalfUp = .ok n) :
    n.natAbs < 2 ^ mostBits := by
  unfold roundHalfUp at rounded
  split at rounded
  · obtain ⟨below, floored, same⟩ := Task.ok_of_bind rounded
    cases same
    rw [Int.natAbs_neg]
    exact floor_short (add_half_ordinary (neg_ordinary ordinary)) floored
  · exact floor_short (add_half_ordinary ordinary) rounded

end Binary64

namespace Resize

open Binary64 TargetGeometry

def IsShort (resize : Resize) : Prop :=
  ∀ side, resize.width? = some side ∨ resize.height? = some side →
    (natChars side.natAbs).length ≤ digitLimit

variable {current : CurrentGeometry} {target : TargetGeometry} {resize : Resize}

theorem short_of_bits {side : Int} (bits : side.natAbs < 2 ^ mostBits) :
    (natChars side.natAbs).length ≤ digitLimit := by
  refine length_natChars_le (by decide) (bits.trans_le ?_)
  calc 2 ^ mostBits ≤ 10 ^ mostBits := Nat.pow_le_pow_left (by decide) _
    _ ≤ 10 ^ digitLimit := Nat.pow_le_pow_right (by decide) (by decide)

theorem isShort_sides {width height : Int} (wide : (natChars width.natAbs).length ≤ digitLimit)
    (high : (natChars height.natAbs).length ≤ digitLimit) :
    (fit (some width) (some height)).IsShort := by
  rintro side (given | given) <;> cases given
  · exact wide
  · exact high

theorem isShort_target (canonical : target.IsCanonical) (wide : resize.width? = target.width)
    (high : resize.height? = target.height) : resize.IsShort := by
  rintro side (given | given)
  · exact (canonical.width side (wide.symm.trans given)).2
  · exact (canonical.height side (high.symm.trans given)).2

theorem orElseDimension_mem {first second : Option Int} {n : Int}
    (given : orElseDimension first second = some n) : first = some n ∨ second = some n := by
  unfold orElseDimension nonzero? at given
  split at given
  · rename_i found
    cases given
    split at found
    · cases found
    · exact .inl found
  · exact .inr given

theorem isShort_identity : identity.IsShort := by
  simp [IsShort, width?, height?]

theorem scaledSide_short {side n : Int} {scale : Binary64} (ordinary : scale.IsOrdinary)
    (scaled : scaledSide side scale = .ok n) : n.natAbs < 2 ^ mostBits := by
  obtain ⟨product, multiplied, rounded⟩ := Task.ok_of_bind scaled
  obtain ⟨x, converted, same⟩ := Task.ok_of_bind multiplied
  cases same
  rcases mul_cases (ofInt_ordinary converted) ordinary with ⟨-, negative, beyond⟩ | ⟨-, within⟩
  · rw [beyond, roundHalfUp_infinite] at rounded
    cases rounded
  · exact roundHalfUp_short within rounded

theorem fitScaled_isShort {scale : Binary64} (ordinary : scale.IsOrdinary)
    (scaled : fitScaled current scale = .ok resize) : resize.IsShort := by
  obtain ⟨width, wide, rest⟩ := Task.ok_of_bind scaled
  obtain ⟨height, high, last⟩ := Task.ok_of_bind rest
  have first := scaledSide_short ordinary wide
  have second := scaledSide_short ordinary high
  have most {n : Int} (bits : n.natAbs < 2 ^ mostBits) :
      (natChars (max 1 n).natAbs).length ≤ digitLimit := by
    refine short_of_bits ?_
    rcases max_choice 1 n with same | same <;> rw [same]
    · exact Nat.one_lt_two_pow (by decide)
    · exact bits
  simp only at last
  split at last
  · cases last
    exact isShort_identity
  · cases last
    exact isShort_sides (most first) (most second)

theorem covering_isShort (source : current.IsPositive) (canonical : target.IsCanonical)
    (covered : covering current target.width target.height = .ok resize) : resize.IsShort := by
  have positive := canonical.isPositive
  unfold covering at covered
  rw [nonzero?_of_pos positive.width, nonzero?_of_pos positive.height] at covered
  split at covered
  · rename_i width height wide high
    obtain ⟨xScale, across, covered⟩ := Task.ok_of_bind covered
    obtain ⟨yScale, down, covered⟩ := Task.ok_of_bind covered
    have ordinary := larger_ordinary
      (ratio_ordinary (positive.width width wide).le source.width across).1
      (ratio_ordinary (positive.height height high).le source.height down).1
    obtain ⟨first, scaled, covered⟩ := Task.ok_of_bind covered
    obtain ⟨second, scaledToo, covered⟩ := Task.ok_of_bind covered
    cases covered
    exact isShort_sides (short_of_bits (scaledSide_short ordinary scaled))
      (short_of_bits (scaledSide_short ordinary scaledToo))
  · cases covered
    exact isShort_target canonical rfl rfl

theorem forced_isShort {engine : EngineKind} (canonical : target.IsCanonical)
    (stretched : forced current engine target.width target.height = .ok resize) :
    resize.IsShort := by
  have positive := canonical.isPositive
  unfold forced at stretched
  rw [nonzero?_of_pos positive.width, nonzero?_of_pos positive.height] at stretched
  split at stretched
  · rename_i width height wide high
    cases engine with
    | imageMagick =>
      cases stretched
      exact isShort_target canonical wide.symm high.symm
    | vips =>
      obtain ⟨xScale, -, stretched⟩ := Task.ok_of_bind stretched
      obtain ⟨yScale, -, stretched⟩ := Task.ok_of_bind stretched
      cases stretched
      exact isShort_target canonical wide.symm high.symm
  · cases stretched
    exact isShort_identity

theorem toArea_isShort {area : Int} {shrinkOnly : Bool} (natural : 0 ≤ area)
    (source : current.IsPositive) (scaled : toArea current area shrinkOnly = .ok resize) :
    resize.IsShort := by
  unfold toArea at scaled
  split at scaled
  · cases scaled
    exact isShort_identity
  · have positive : 0 < current.area := mul_pos source.width source.height
    obtain ⟨quotient, divided, scaled⟩ := Task.ok_of_bind scaled
    obtain ⟨ordinary, unsigned⟩ := ratio_ordinary natural positive divided
    obtain ⟨root, rooted, scaled⟩ := Task.ok_of_bind scaled
    obtain ⟨other, found, inRange⟩ := sqrt_ordinary ordinary unsigned
    cases found.symm.trans rooted
    exact fitScaled_isShort inRange scaled

theorem resolve_isShort {engine : EngineKind} (source : current.IsPositive)
    (canonical : target.IsCanonical) (resolved : resolve current target engine = .ok resize) :
    resize.IsShort := by
  unfold resolve at resolved
  simp only at resolved
  split at resolved
  · cases resolved
    exact isShort_identity
  · rename_i scalar given
    have above := scalar_pos canonical.isPositive given
    split at resolved
    · cases resolved
      exact isShort_target canonical rfl rfl
    · cases resolved
      have short {side : Int} (given : target.width = some side ∨ target.height = some side) :
          (natChars side.natAbs).length ≤ digitLimit :=
        given.elim (fun same => (canonical.width side same).2)
          fun same => (canonical.height side same).2
      rintro side (given | given)
      · exact short (orElseDimension_mem given)
      · exact short (orElseDimension_mem given).symm
    · cases resolved
      split
      · exact isShort_identity
      · exact isShort_target canonical rfl rfl
    · cases resolved
      split
      · exact isShort_target canonical rfl rfl
      · exact isShort_identity
    · exact forced_isShort canonical resolved
    · exact covering_isShort source canonical resolved
    · obtain ⟨percent, converted, scaled⟩ := Task.ok_of_bind resolved
      exact fitScaled_isShort (divNat_ordinary (ofInt_ordinary converted) (by decide)) scaled
    · exact toArea_isShort above.le source resolved
    · exact toArea_isShort above.le source resolved

end Resize

end Thumbnailing
