import Thumbnailing.Engine.Primitive
import Thumbnailing.Proofs.Geometry.Overflow
import Thumbnailing.Proofs.Geometry.RoundTrip
import Thumbnailing.Proofs.Number.Calculation

set_option autoImplicit false

namespace Thumbnailing

namespace CurrentGeometry

structure IsPositive (current : CurrentGeometry) : Prop where
  width : 0 < current.width
  height : 0 < current.height

theorem IsPositive.autoOrient {current : CurrentGeometry} (positive : current.IsPositive) :
    current.autoOrient.IsPositive := by
  unfold CurrentGeometry.autoOrient
  split
  · exact ⟨positive.height, positive.width⟩
  · exact ⟨positive.width, positive.height⟩

theorem isPositive_of_reading {reading : List Char} {measured : CurrentGeometry}
    (read : ofReading? reading = .ok (some measured)) : measured.IsPositive := by
  unfold ofReading? at read
  split at read
  · cases read
  · obtain ⟨width, -, read⟩ := Task.ok_of_bind read
    obtain ⟨height, -, read⟩ := Task.ok_of_bind read
    split at read
    · cases read
    · rename_i filled
      have positive (orientation : Int) : IsPositive ⟨width, height, orientation⟩ :=
        ⟨by simp only; omega, by simp only; omega⟩
      split at read
      · cases read
        exact positive 1
      · obtain ⟨orientation, -, read⟩ := Task.ok_of_bind read
        cases read
        exact positive _

end CurrentGeometry

namespace TargetGeometry

theorem IsCanonical.isPositive {target : TargetGeometry} (canonical : target.IsCanonical) :
    target.IsPositive :=
  ⟨fun n same => (canonical.width n same).1, fun n same => (canonical.height n same).1⟩

theorem isSome_of_filled {target : TargetGeometry} (filled : target.isIdentity = false) :
    target.width.isSome = true ∨ target.height.isSome = true := by
  simpa [isIdentity, ← Option.isSome_iff_ne_none, imp_iff_not_or] using filled

/-- The target is a box to be covered, and both sides of the box are given. -/
def CoversBox (target : TargetGeometry) : Prop :=
  target.modifier = .fill ∧ target.width.isSome = true ∧ target.height.isSome = true

end TargetGeometry

theorem orElseDimension_pos {first second : Option Int} (positive : ∀ n, first = some n → 0 < n)
    (also : ∀ n, second = some n → 0 < n) (given : first.isSome = true ∨ second.isSome = true) :
    ∃ n, orElseDimension first second = some n ∧ 0 < n := by
  unfold orElseDimension
  rw [TargetGeometry.nonzero?_of_pos positive]
  cases first with
  | some n => exact ⟨n, rfl, positive n rfl⟩
  | none =>
    obtain ⟨n, rfl⟩ := Option.isSome_iff_exists.mp (given.resolve_left nofun)
    exact ⟨n, rfl, also n rfl⟩

namespace Resize

def IsComplete : Resize → Prop
  | .identity => True
  | .fit width height | .limit width height => width.isSome = true ∨ height.isSome = true
  | .fill width height _ | .exact width height => width.isSome = true ∧ height.isSome = true
  | .scale _ _ xScale yScale => xScale.isSome = true ∧ yScale.isSome = true
  | .unrecognised _ => False

def IsPositive (resize : Resize) : Prop :=
  ∀ side, resize.width? = some side ∨ resize.height? = some side → 1 ≤ side

def IsFeasible (resize : Resize) : Prop := resize.IsComplete ∧ resize.IsPositive

theorem IsComplete.runs {resize : Resize} (complete : resize.IsComplete) :
    ∃ step, Primitive.ofResize resize = .ok step := by
  cases resize with
  | unrecognised => exact complete.elim
  | _ => exact ⟨_, rfl⟩

theorem isFeasible_identity : identity.IsFeasible := by
  simp [IsFeasible, IsComplete, IsPositive, width?, height?]

variable {current : CurrentGeometry} {target : TargetGeometry}

theorem sides_isPositive {resize : Resize} (positive : target.IsPositive)
    (wide : resize.width? = target.width) (high : resize.height? = target.height) :
    resize.IsPositive := by
  rintro side (given | given)
  · exact positive.width side (wide.symm.trans given)
  · exact positive.height side (high.symm.trans given)

theorem calculates_scaledSide (side : Int) {scale : Binary64} (ordinary : scale.IsOrdinary) :
    Calculates (fun _ => True) (scaledSide side scale) :=
  (Binary64.calculates_scaleInteger side ordinary).bind fun _ => Binary64.calculates_roundHalfUp

theorem calculates_fitScaled (current : CurrentGeometry) {scale : Binary64}
    (ordinary : scale.IsOrdinary) : Calculates IsFeasible (fitScaled current scale) := by
  unfold fitScaled
  refine (calculates_scaledSide _ ordinary).bind fun width _ => ?_
  refine (calculates_scaledSide _ ordinary).bind fun height _ => ?_
  simp only
  split
  · exact .ok isFeasible_identity
  · refine .ok ⟨.inl rfl, ?_⟩
    rintro side (given | given) <;> cases given
    · exact le_max_left 1 width
    · exact le_max_left 1 height

theorem calculates_percentage (current : CurrentGeometry) (percent : Int) :
    Calculates IsFeasible (percentage current percent) :=
  (Binary64.calculates_ofInt percent).bind fun _ ordinary =>
    calculates_fitScaled current (Binary64.divNat_ordinary ordinary (by decide))

theorem calculates_toArea {area : Int} (shrinkOnly : Bool) (natural : 0 ≤ area)
    (source : current.IsPositive) : Calculates IsFeasible (toArea current area shrinkOnly) := by
  unfold toArea
  split
  · exact .ok isFeasible_identity
  · have positive : 0 < current.area := mul_pos source.width source.height
    refine (Binary64.calculates_ratio natural positive).bind fun quotient divided => ?_
    refine (Binary64.calculates_sqrt divided.1 divided.2).bind fun root ordinary => ?_
    exact calculates_fitScaled current ordinary

theorem calculates_forced {engine : EngineKind} (source : current.IsPositive)
    (positive : target.IsPositive) :
    Calculates IsFeasible (forced current engine target.width target.height) := by
  unfold forced
  rw [TargetGeometry.nonzero?_of_pos positive.width, TargetGeometry.nonzero?_of_pos positive.height]
  split
  · rename_i width height wide high
    have first := positive.width width wide
    have second := positive.height height high
    cases engine with
    | imageMagick => exact .ok ⟨⟨rfl, rfl⟩, sides_isPositive positive wide.symm high.symm⟩
    | vips =>
      refine (Binary64.calculates_ratio first.le source.width).bind fun xScale _ => ?_
      refine (Binary64.calculates_ratio second.le source.height).bind fun yScale _ => ?_
      exact .ok ⟨⟨rfl, rfl⟩, sides_isPositive positive wide.symm high.symm⟩
  · exact .ok isFeasible_identity

theorem calculates_covering (source : current.IsPositive) (positive : target.IsPositive)
    (filled : target.isIdentity = false) (modifier : target.modifier = .fill) :
    Calculates (fun resize => resize.IsComplete ∧ (target.CoversBox ∨ resize.IsPositive))
      (covering current target.width target.height) := by
  unfold covering
  rw [TargetGeometry.nonzero?_of_pos positive.width, TargetGeometry.nonzero?_of_pos positive.height]
  split
  · rename_i width height wide high
    have first := positive.width width wide
    have second := positive.height height high
    have covers : target.CoversBox := ⟨modifier, by rw [wide]; rfl, by rw [high]; rfl⟩
    refine (Binary64.calculates_ratio first.le source.width).bind fun xScale across => ?_
    refine (Binary64.calculates_ratio second.le source.height).bind fun yScale down => ?_
    have ordinary := Binary64.larger_ordinary across.1 down.1
    refine (calculates_scaledSide _ ordinary).bind fun width _ => ?_
    refine (calculates_scaledSide _ ordinary).bind fun height _ => ?_
    exact .ok ⟨.inl rfl, .inl covers⟩
  · exact .ok ⟨TargetGeometry.isSome_of_filled filled, .inr (sides_isPositive positive rfl rfl)⟩

theorem calculates_resolve (engine : EngineKind) (source : current.IsPositive)
    (positive : target.IsPositive) (filled : target.isIdentity = false) :
    Calculates (fun resize => resize.IsComplete ∧ (target.CoversBox ∨ resize.IsPositive))
      (resolve current target engine) := by
  have given := TargetGeometry.isSome_of_filled filled
  -- Only a box that is covered may come to a side of zero; whatever else is resolved is feasible.
  have feasible {calculation : Except ArithmeticFault Resize}
      (calculates : Calculates IsFeasible calculation) :=
    calculates.imp fun resize (holds : resize.IsFeasible) =>
      (⟨holds.1, .inr holds.2⟩ : resize.IsComplete ∧ (target.CoversBox ∨ resize.IsPositive))
  unfold resolve
  cases same : target.scalar with
  | none => exact feasible (.ok isFeasible_identity)
  | some scalar =>
    have above := TargetGeometry.scalar_pos positive same
    cases modifier : target.modifier with
    | plain => exact feasible (.ok ⟨given, sides_isPositive positive rfl rfl⟩)
    | crop =>
      obtain ⟨width, wide, first⟩ := orElseDimension_pos positive.width positive.height given
      obtain ⟨height, high, second⟩ := orElseDimension_pos positive.height positive.width given.symm
      simp only [wide, high]
      refine feasible (.ok ⟨⟨rfl, rfl⟩, ?_⟩)
      rintro side (given | given) <;> cases given
      · exact first
      · exact second
    | shrinkOnly =>
      refine feasible (.ok ?_)
      split
      · exact isFeasible_identity
      · exact ⟨given, sides_isPositive positive rfl rfl⟩
    | enlargeOnly =>
      refine feasible (.ok ?_)
      split
      · exact ⟨given, sides_isPositive positive rfl rfl⟩
      · exact isFeasible_identity
    | force => exact feasible (calculates_forced source positive)
    | fill => exact calculates_covering source positive filled modifier
    | percent => exact feasible (calculates_percentage current scalar)
    | area => exact feasible (calculates_toArea false above.le source)
    | areaShrinkOnly => exact feasible (calculates_toArea true above.le source)

end Resize

end Thumbnailing
