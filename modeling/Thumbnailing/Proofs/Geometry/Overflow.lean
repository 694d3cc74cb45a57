import Thumbnailing.Geometry.Resize
import Thumbnailing.Proofs.Geometry.Parsing
import Thumbnailing.Proofs.Number.Overflow

set_option autoImplicit false

namespace Thumbnailing

open Binary64

def Fails {Result : Type} (calculation : Except ArithmeticFault Result) : Prop :=
  ∃ fault, calculation = .error fault

section

variable {First Result : Type}

@[simp] theorem fails_error (fault : ArithmeticFault) :
    Fails (.error fault : Except ArithmeticFault Result) := ⟨fault, rfl⟩

@[simp] theorem not_fails_ok (result : Result) : ¬ Fails (.ok result) := nofun

@[simp] theorem not_fails_pure (result : Result) :
    ¬ Fails (pure result : Except ArithmeticFault Result) := nofun

theorem fails_bind {first : Except ArithmeticFault First}
    {next : First → Except ArithmeticFault Result} :
    Fails (first >>= next) ↔ Fails first ∨ ∃ between, first = .ok between ∧ Fails (next between) := by
  cases first with
  | error fault =>
    change Fails (.error fault) ↔ _
    simp
  | ok between =>
    change Fails (next between) ↔ _
    simp

theorem fails_bind_of_total {first : Except ArithmeticFault First}
    {next : First → Except ArithmeticFault Result} (total : ∀ between, ¬ Fails (next between)) :
    Fails (first >>= next) ↔ Fails first := by
  simp [fails_bind, total]

end

namespace Binary64

theorem ofInt_ordinary {n : Int} {x : Binary64} (converted : ofInt n = .ok x) : x.IsOrdinary := by
  rcases ofInt_cases n with ⟨-, failed⟩ | ⟨-, other, found, ordinary⟩
  · cases failed.symm.trans converted
  · cases found.symm.trans converted
    exact ordinary

theorem fails_ofInt {n : Int} (natural : 0 ≤ n) : Fails (ofInt n) ↔ (bound : Int) ≤ n := by
  rcases ofInt_cases n with ⟨reached, failed⟩ | ⟨below, x, found, -⟩
  · rw [abs_of_nonneg natural] at reached
    simp [failed, reached]
  · rw [abs_of_nonneg natural] at below
    simp [found, below]

theorem fails_ratio {n d : Int} (natural : 0 ≤ n) (positive : 0 < d) :
    Fails (ratio n d) ↔ bound * d ≤ n := by
  rcases ratio_cases natural positive with ⟨reached, failed⟩ | ⟨below, x, found, -⟩
  · simp [failed, reached]
  · simp [found, below]

theorem ratio_ordinary {n d : Int} {x : Binary64} (natural : 0 ≤ n) (positive : 0 < d)
    (divided : ratio n d = .ok x) : x.IsOrdinary ∧ x.isNegative = false := by
  rcases ratio_cases natural positive with ⟨-, failed⟩ | ⟨-, other, found, ordinary⟩
  · cases failed.symm.trans divided
  · cases found.symm.trans divided
    exact ordinary

theorem larger_ordinary {x y : Binary64} (first : x.IsOrdinary) (second : y.IsOrdinary) :
    (x.larger y).IsOrdinary := by
  unfold larger
  split
  · exact second
  · exact first

end Binary64

namespace Resize

def LeavesRange (side : Int) (scale : Binary64) : Prop :=
  (bound : Int) ≤ side ∨ ∃ x, ofInt side = .ok x ∧ (bound : ℚ) ≤ x.magnitude * scale.magnitude

theorem fails_scaledSide {side : Int} {scale : Binary64} (natural : 0 ≤ side)
    (ordinary : scale.IsOrdinary) : Fails (scaledSide side scale) ↔ LeavesRange side scale := by
  unfold scaledSide scaleInteger
  rw [fails_bind, fails_bind_of_total fun _ => not_fails_pure _, fails_ofInt natural, LeavesRange]
  refine or_congr_right ⟨?_, ?_⟩
  · rintro ⟨_, scaled, failed⟩
    obtain ⟨x, converted, same⟩ := Task.ok_of_bind scaled
    cases same
    refine ⟨x, converted, ?_⟩
    rcases mul_cases (ofInt_ordinary converted) ordinary with ⟨reached, -⟩ | ⟨-, within⟩
    · exact reached
    · obtain ⟨n, rounded⟩ := roundHalfUp_ordinary within
      rw [rounded] at failed
      exact absurd failed (not_fails_ok n)
  · rintro ⟨x, converted, reached⟩
    refine ⟨x.mul scale, by rw [converted]; rfl, ?_⟩
    rcases mul_cases (ofInt_ordinary converted) ordinary with ⟨-, negative, beyond⟩ | ⟨below, -⟩
    · rw [beyond, roundHalfUp_infinite]
      exact fails_error _
    · exact absurd reached (not_le.mpr below)

def ScalesBeyond (current : CurrentGeometry) (scale : Binary64) : Prop :=
  LeavesRange current.width scale ∨ LeavesRange current.height scale

section

variable {current : CurrentGeometry} {scale : Binary64}

theorem fails_bothSides {Result : Type} (wide : 0 ≤ current.width) (high : 0 ≤ current.height)
    (ordinary : scale.IsOrdinary) {next : Int → Int → Except ArithmeticFault Result}
    (total : ∀ width height, ¬ Fails (next width height)) :
    Fails (do
      let width ← scaledSide current.width scale
      let height ← scaledSide current.height scale
      next width height) ↔ ScalesBeyond current scale := by
  rw [fails_bind, fails_scaledSide wide ordinary, ScalesBeyond]
  simp only [fails_bind_of_total (total _), fails_scaledSide high ordinary]
  constructor
  · rintro (first | ⟨-, -, second⟩)
    · exact .inl first
    · exact .inr second
  · rintro (first | second)
    · exact .inl first
    · cases scaled : scaledSide current.width scale with
      | error fault => exact .inl ((fails_scaledSide wide ordinary).mp ⟨fault, scaled⟩)
      | ok width => exact .inr ⟨width, rfl, second⟩

theorem fails_fitScaled (wide : 0 ≤ current.width) (high : 0 ≤ current.height)
    (ordinary : scale.IsOrdinary) :
    Fails (fitScaled current scale) ↔ ScalesBeyond current scale := by
  refine fails_bothSides wide high ordinary fun width height => ?_
  simp only
  split <;> exact not_fails_pure _

end

def CoversBeyond (current : CurrentGeometry) (width height : Int) : Prop :=
  bound * current.width ≤ width ∨ bound * current.height ≤ height ∨
    ∃ x y, ratio width current.width = .ok x ∧ ratio height current.height = .ok y ∧
      ScalesBeyond current (x.larger y)

def GrowsBeyond (current : CurrentGeometry) (area : Int) : Prop :=
  bound * current.area ≤ area ∨
    ∃ x root, ratio area current.area = .ok x ∧ x.sqrt = .ok root ∧ ScalesBeyond current root

/-- A resize to the target cannot be calculated: a division, a conversion or a scaled side leaves
the range of numbers. Only forced, covering, relative and area targets calculate at all. -/
def Exceeds (current : CurrentGeometry) (target : TargetGeometry) (engine : EngineKind) : Prop :=
  match target.modifier with
  | .plain | .crop | .shrinkOnly | .enlargeOnly => False
  | .force => engine = .vips ∧ ∃ width height, target.width = some width ∧
      target.height = some height ∧
      (bound * current.width ≤ width ∨ bound * current.height ≤ height)
  | .fill => ∃ width height, target.width = some width ∧ target.height = some height ∧
      CoversBeyond current width height
  | .percent => ∃ percent, target.scalar = some percent ∧ ((bound : Int) ≤ percent ∨
      ∃ x, ofInt percent = .ok x ∧ ScalesBeyond current (x.divNat 100))
  | .area => ∃ area, target.scalar = some area ∧ area ≠ current.area ∧ GrowsBeyond current area
  | .areaShrinkOnly => ∃ area, target.scalar = some area ∧ area < current.area ∧
      GrowsBeyond current area

variable {current : CurrentGeometry} {target : TargetGeometry}

theorem fails_forced {engine : EngineKind} (positive : target.IsPositive)
    (wide : 0 < current.width) (high : 0 < current.height) :
    Fails (forced current engine target.width target.height) ↔
      engine = .vips ∧ ∃ width height, target.width = some width ∧ target.height = some height ∧
        (bound * current.width ≤ width ∨ bound * current.height ≤ height) := by
  obtain ⟨first, second⟩ := positive
  unfold forced
  rw [TargetGeometry.nonzero?_of_pos first, TargetGeometry.nonzero?_of_pos second]
  cases same : target.width with
  | none => simp
  | some width =>
    cases also : target.height with
    | none => simp
    | some height =>
      cases engine with
      | imageMagick => simp
      | vips =>
        have x := fails_ratio (first width same).le wide
        have y := fails_ratio (second height also).le high
        simp only [fails_bind, x, y, not_fails_pure, and_false, exists_false, or_false]
        rcases ratio_cases (first width same).le wide with ⟨reached, -⟩ | ⟨-, x, found, -⟩
        · simp [reached]
        · simp [found]

theorem fails_covering (positive : target.IsPositive) (wide : 0 < current.width)
    (high : 0 < current.height) :
    Fails (covering current target.width target.height) ↔
      ∃ width height, target.width = some width ∧ target.height = some height ∧
        CoversBeyond current width height := by
  obtain ⟨first, second⟩ := positive
  unfold covering
  rw [TargetGeometry.nonzero?_of_pos first, TargetGeometry.nonzero?_of_pos second]
  cases same : target.width with
  | none => simp
  | some width =>
    cases also : target.height with
    | none => simp
    | some height =>
      have natural := (first width same).le
      have level := (second height also).le
      have only : (∃ first second, some width = some first ∧ some height = some second ∧
          CoversBeyond current first second) ↔ CoversBeyond current width height := by simp
      have scaled {x y : Binary64} (across : ratio width current.width = .ok x)
          (down : ratio height current.height = .ok y) :=
        fails_bothSides wide.le high.le
          (larger_ordinary (ratio_ordinary natural wide across).1
            (ratio_ordinary level high down).1)
          fun width height => not_fails_pure (fit (some width) (some height))
      rw [only, CoversBeyond, fails_bind, fails_ratio natural wide]
      rcases ratio_cases natural wide with ⟨reached, -⟩ | ⟨-, x, across, -⟩
      · exact iff_of_true (.inl reached) (.inl reached)
      · simp only [across, Except.ok.injEq, exists_and_left, exists_eq_left']
        rw [fails_bind, fails_ratio level high]
        exact or_congr_right (or_congr_right (exists_congr fun y =>
          and_congr_right fun down => scaled across down))

theorem fails_percentage {percent : Int} (natural : 0 ≤ percent) (wide : 0 ≤ current.width)
    (high : 0 ≤ current.height) :
    Fails (percentage current percent) ↔ (bound : Int) ≤ percent ∨
      ∃ x, ofInt percent = .ok x ∧ ScalesBeyond current (x.divNat 100) := by
  unfold percentage
  rw [fails_bind, fails_ofInt natural]
  refine or_congr_right (exists_congr fun x => and_congr_right fun converted => ?_)
  exact fails_fitScaled wide high (divNat_ordinary (ofInt_ordinary converted) (by decide))

theorem fails_toArea {area : Int} (shrinkOnly : Bool) (natural : 0 ≤ area)
    (wide : 0 < current.width) (high : 0 < current.height) :
    Fails (toArea current area shrinkOnly) ↔
      ¬ (current.area = area ∨ (shrinkOnly = true ∧ current.area ≤ area)) ∧
        GrowsBeyond current area := by
  have positive : 0 < current.area := mul_pos wide high
  unfold toArea
  split
  · rename_i kept
    simp [kept]
  · rename_i scaled
    rw [fails_bind, fails_ratio natural positive]
    simp only [scaled, not_false_eq_true, true_and, GrowsBeyond]
    refine or_congr_right (exists_congr fun x => ?_)
    rw [exists_and_left]
    refine and_congr_right fun divided => ?_
    obtain ⟨ordinary, unsigned⟩ := ratio_ordinary natural positive divided
    obtain ⟨root, rooted, inRange⟩ := sqrt_ordinary ordinary unsigned
    rw [rooted]
    change Fails (fitScaled current root) ↔ _
    rw [fails_fitScaled wide.le high.le inRange]
    simp

theorem fails_resolve {engine : EngineKind} (positive : target.IsPositive)
    (wide : 0 < current.width) (high : 0 < current.height) :
    Fails (resolve current target engine) ↔ Exceeds current target engine := by
  unfold resolve Exceeds
  cases same : target.scalar with
  | none =>
    cases target.modifier <;> simp [TargetGeometry.scalar_eq_none same]
  | some scalar =>
    have above := TargetGeometry.scalar_pos positive same
    cases target.modifier with
    | plain | crop | shrinkOnly | enlargeOnly => exact iff_of_false (not_fails_ok _) not_false
    | force => exact fails_forced positive wide high
    | fill => exact fails_covering positive wide high
    | percent =>
      simpa using fails_percentage above.le wide.le high.le
    | area =>
      simpa [eq_comm] using fails_toArea false above.le wide high
    | areaShrinkOnly =>
      rw [fails_toArea true above.le wide high]
      simp only [Option.some.injEq, exists_eq_left', true_and]
      exact and_congr_left fun _ => by omega

end Resize

end Thumbnailing
