import Thumbnailing.Proofs.Geometry.Feasibility

set_option autoImplicit false

namespace Thumbnailing

open Binary64

namespace CurrentGeometry

variable {current : CurrentGeometry} {target : TargetGeometry}

theorem fails_cropOffset {side wanted : Int} {scale : Binary64} (natural : 0 ≤ side)
    (level : 0 ≤ wanted) (ordinary : scale.IsOrdinary) (unsigned : scale.isNegative = false) :
    Fails (cropOffset side scale wanted) ↔
      Resize.LeavesRange side scale ∨ (bound : Int) ≤ wanted := by
  unfold cropOffset scaleInteger Resize.LeavesRange
  rw [← fails_ofInt natural, ← fails_ofInt level]
  cases converted : ofInt side with
  | error fault => exact iff_of_true ⟨fault, rfl⟩ (.inl (.inl ⟨fault, rfl⟩))
  | ok x =>
    have first := ofInt_ordinary converted
    cases also : ofInt wanted with
    | error fault => exact iff_of_true ⟨fault, rfl⟩ (.inr ⟨fault, rfl⟩)
    | ok y =>
      have second := ofInt_ordinary also
      change Fails (((x.mul scale).sub y).divNat 2).truncate ↔ _
      rcases mul_cases first ordinary with ⟨reached, negative, beyond⟩ | ⟨below, within⟩
      · refine iff_of_true ?_ (.inl (.inr ⟨x, rfl, reached⟩))
        rw [beyond]
        cases y with
        | finite => exact ⟨.infinityToInteger, rfl⟩
        | _ => exact second.elim
      · have positive : (x.mul scale).isNegative = false := by
          rw [mul_isNegative first ordinary, ofInt_natural natural converted, unsigned]
          rfl
        -- Both terms are natural, so their difference stays in the range.
        have difference := sub_ordinary within second positive (ofInt_natural level also)
        obtain ⟨n, truncated⟩ := toIntegerBy_ordinary
          (fun negative numerator denominator => signed negative (numerator / denominator))
          (divNat_ordinary difference (show 0 < 2 by decide))
        refine iff_of_false ?_ ?_
        · rw [truncate, truncated]
          exact not_fails_ok n
        · simpa using below

theorem calculates_cropOffset (side wanted : Int) {scale : Binary64} (ordinary : scale.IsOrdinary) :
    Calculates (fun _ => True) (cropOffset side scale wanted) := by
  refine (calculates_scaleInteger side ordinary).bind fun scaled defined => ?_
  refine (calculates_ofInt wanted).bind fun x converted => ?_
  have difference := add_isDefined defined (neg_ordinary converted)
  exact calculates_toIntegerBy _ (divNat_isDefined difference 2)

def cutOut (current : CurrentGeometry) (width height : Int) :
    Except ArithmeticFault (String × Option String) := do
  let box := integerText width ++ "x" ++ integerText height
  let widthRatio ← Binary64.ratio width current.width
  let heightRatio ← Binary64.ratio height current.height
  if widthRatio.lt heightRatio then
    let offset ← cropOffset current.width heightRatio width
    return ("x" ++ integerText height, some (box ++ "+" ++ integerText offset ++ "+0"))
  else
    let offset ← cropOffset current.height widthRatio height
    return (integerText width ++ "x", some (box ++ "+0+" ++ integerText offset))

theorem transformationTo_crop {width height : Int}
    (wide : orElseDimension target.width target.height = some width)
    (high : orElseDimension target.height target.width = some height) :
    current.transformationTo target true = arithmetically (cutOut current width height) := by
  unfold transformationTo cutOut
  simp only [wide, high, sideRatio, Bool.not_true, Bool.false_eq_true, if_false]
  cases Binary64.ratio width current.width with
  | error fault => rfl
  | ok across =>
    cases Binary64.ratio height current.height with
    | error fault => rfl
    | ok down =>
      change (if across.lt down then _ else _) = arithmetically (if across.lt down then _ else _)
      split
      · cases cropOffset current.width down width <;> rfl
      · cases cropOffset current.height across height <;> rfl

def CutsBeyond (current : CurrentGeometry) (width height : Int) : Prop :=
  bound * current.width ≤ width ∨ bound * current.height ≤ height ∨
    ∃ x y, Binary64.ratio width current.width = .ok x ∧
      Binary64.ratio height current.height = .ok y ∧
      if x.lt y then Resize.LeavesRange current.width y ∨ (bound : Int) ≤ width
      else Resize.LeavesRange current.height x ∨ (bound : Int) ≤ height

theorem fails_cutOut {width height : Int} (source : current.IsPositive) (wide : 0 < width)
    (high : 0 < height) :
    Fails (cutOut current width height) ↔ CutsBeyond current width height := by
  unfold cutOut CutsBeyond
  rcases ratio_cases wide.le source.width with ⟨reached, failed⟩ | ⟨below, x, across, first⟩
  · rw [failed]
    exact iff_of_true (fails_error _) (.inl reached)
  · rcases ratio_cases high.le source.height with ⟨reached, failed⟩ | ⟨lower, y, down, second⟩
    · rw [across, failed]
      exact iff_of_true (fails_error _) (.inr (.inl reached))
    · simp only [across, down, not_le.mpr below, not_le.mpr lower, Except.ok.injEq, false_or,
        exists_and_left, exists_eq_left']
      change Fails (if x.lt y then _ else _) ↔ _
      split
      · rw [fails_bind_of_total fun _ => not_fails_pure _,
          fails_cropOffset source.width.le wide.le second.1 second.2]
      · rw [fails_bind_of_total fun _ => not_fails_pure _,
          fails_cropOffset source.height.le high.le first.1 first.2]

theorem calculates_cutOut {width height : Int} (source : current.IsPositive) (wide : 0 < width)
    (high : 0 < height) : Calculates (fun _ => True) (cutOut current width height) := by
  refine (calculates_ratio wide.le source.width).bind fun x across => ?_
  refine (calculates_ratio high.le source.height).bind fun y down => ?_
  split
  · exact (calculates_cropOffset current.width width down.1).bind fun _ _ => .ok trivial
  · exact (calculates_cropOffset current.height height across.1).bind fun _ _ => .ok trivial

def CropExceeds (current : CurrentGeometry) (target : TargetGeometry) : Prop :=
  target.modifier = .crop ∧ ∃ width height,
    orElseDimension target.width target.height = some width ∧
      orElseDimension target.height target.width = some height ∧ CutsBeyond current width height

theorem transformationTo_cases (source : current.IsPositive) (positive : target.IsPositive)
    (filled : target.isIdentity = false) :
    (∃ texts, current.transformationTo target target.isCrop = .ok texts) ∨
      (CropExceeds current target ∧ ∃ fault, ArithmeticFault.IsOverflow fault ∧
        current.transformationTo target target.isCrop = .error (.arithmetic fault)) := by
  cases cropped : target.isCrop with
  | false => exact .inl ⟨_, rfl⟩
  | true =>
    have given := TargetGeometry.isSome_of_filled filled
    obtain ⟨width, wide, first⟩ := orElseDimension_pos positive.width positive.height given
    obtain ⟨height, high, second⟩ := orElseDimension_pos positive.height positive.width given.symm
    rw [transformationTo_crop wide high]
    rcases calculates_cutOut source first second with ⟨texts, cut, -⟩ | ⟨fault, overflow, failed⟩
    · exact .inl ⟨texts, by rw [cut]; rfl⟩
    · have beyond := (fails_cutOut source first second).mp ⟨fault, failed⟩
      have modifier : target.modifier = .crop := by simpa [TargetGeometry.isCrop] using cropped
      refine .inr ⟨⟨modifier, width, height, wide, high, beyond⟩, fault, overflow, ?_⟩
      rw [failed]
      rfl

end CurrentGeometry

namespace Resize

variable {current measured : CurrentGeometry} {target : TargetGeometry}

theorem resolve_cases (engine : EngineKind) (source : current.IsPositive)
    (positive : target.IsPositive) (filled : target.isIdentity = false) :
    (∃ resize, resolve current target engine = .ok resize ∧ resize.IsComplete ∧
        (target.CoversBox ∨ resize.IsPositive) ∧ ∃ step, Primitive.ofResize resize = .ok step) ∨
      (Exceeds current target engine ∧ ∃ fault, ArithmeticFault.IsOverflow fault ∧
        resolve current target engine = .error fault) := by
  rcases calculates_resolve engine source positive filled with
    ⟨resize, resolved, complete, sized⟩ | ⟨fault, overflow, failed⟩
  · exact .inl ⟨resize, resolved, complete, sized, complete.runs⟩
  · have beyond := (fails_resolve positive source.width source.height).mp ⟨fault, failed⟩
    exact .inr ⟨beyond, fault, overflow, failed⟩

/-- For a source and a target that were read, the resize can be run and the texts to resize and to
crop with are there, unless a number becomes too large. -/
theorem reading_feasible {reading : List Char} {geometry : Option String} (engine : EngineKind)
    (read : CurrentGeometry.ofReading? reading = .ok (some measured))
    (oriented : current = measured ∨ current = measured.autoOrient)
    (parsed : TargetGeometry.parse geometry = .ok target) (filled : target.isIdentity = false) :
    ((∃ resize, resolve current target engine = .ok resize ∧ resize.IsComplete ∧
        (target.CoversBox ∨ resize.IsPositive) ∧ ∃ step, Primitive.ofResize resize = .ok step) ∨
      (Exceeds current target engine ∧ ∃ fault, ArithmeticFault.IsOverflow fault ∧
        resolve current target engine = .error fault)) ∧
    ((∃ texts, current.transformationTo target target.isCrop = .ok texts) ∨
      (CurrentGeometry.CropExceeds current target ∧ ∃ fault, ArithmeticFault.IsOverflow fault ∧
        current.transformationTo target target.isCrop = .error (.arithmetic fault))) := by
  have positive := (TargetGeometry.isCanonical_of_parse parsed).isPositive
  have source : current.IsPositive := by
    rcases oriented with rfl | rfl
    · exact CurrentGeometry.isPositive_of_reading read
    · exact (CurrentGeometry.isPositive_of_reading read).autoOrient
  exact ⟨resolve_cases engine source positive filled,
    CurrentGeometry.transformationTo_cases source positive filled⟩

theorem turnedSource_feasible :
    (∃ resize, resolve ⟨40, 30, 1⟩ ⟨some 20, none, .crop⟩ .vips = .ok resize ∧
      resize.IsFeasible) ∧
    ∃ texts, CurrentGeometry.transformationTo ⟨40, 30, 1⟩ ⟨some 20, none, .crop⟩ true =
      .ok texts := by
  have read : CurrentGeometry.ofReading? "30x40,6".toList = .ok (some ⟨30, 40, 6⟩) := rfl
  have parsed : TargetGeometry.parse (some "20#") = .ok ⟨some 20, none, .crop⟩ := rfl
  have box : (CurrentGeometry.transformationTo ⟨40, 30, 1⟩ ⟨some 20, none, .crop⟩ true).toOption =
    some ("x20", some "20x20+3+0") := by decide +kernel
  obtain ⟨resized, cut⟩ := reading_feasible .vips read (.inr rfl) parsed rfl
  constructor
  · rcases resized with ⟨resize, resolved, complete, covers | sized, -⟩ | ⟨beyond, -⟩
    · exact absurd covers.1 nofun
    · exact ⟨resize, resolved, complete, sized⟩
    · exact beyond.elim
  · rcases cut with ended | ⟨-, fault, -, failed⟩
    · exact ended
    · exact absurd (box.symm.trans (congrArg Except.toOption failed)) nofun

end Resize

end Thumbnailing
