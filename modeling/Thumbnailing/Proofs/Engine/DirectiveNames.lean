import Thumbnailing.Engine.Directives

set_option autoImplicit false

namespace Thumbnailing

namespace Primitive

def directiveNames : Primitive → List String
  | .strip => ["strip"]
  | .setQuality _ => ["quality"]
  | .rotate _ => ["rotate"]
  | .flip => ["flip"]
  | .flop => ["flop"]
  | .gaussianBlur _ => ["blur", "gaussian_blur"]
  | .sharpen => ["sharpen"]
  | .setColourSpace _ => ["colorspace"]
  | .flatten _ => ["flatten"]
  | .negate => ["negate", "invert"]
  | .autoOrient => ["auto_orient"]
  | .interlace _ => ["interlace"]
  | _ => []

def isForSaving : Primitive → Bool
  | .strip | .setQuality _ | .interlace _ => true
  | _ => false

end Primitive

namespace Directive

def savingNames : List String := ["strip", "quality", "interlace"]

def isForSaving (directive : Directive) : Bool := savingNames.contains directive.key

end Directive

namespace Engine

def IsNamed (name : String) (step : DirectiveStep) : Prop :=
  ∀ value primitive, step value = .ok (some primitive) → name ∈ primitive.directiveNames

namespace IsNamed

variable {name : String}

theorem plain {primitive : Primitive} (named : name ∈ primitive.directiveNames) :
    IsNamed name (plainStep primitive) := by
  intro _ _ asked
  cases asked
  exact named

theorem quality : IsNamed "quality" qualityStep := by
  intro value primitive asked
  unfold qualityStep at asked
  split at asked
  · cases asked
  · rename_i number _
    cases read : arithmetically number.truncate with
    | error failure => simp [read, Except.map] at asked
    | ok quality =>
      rw [read] at asked
      cases asked
      simp [Primitive.directiveNames]

theorem rotate : IsNamed "rotate" fun value =>
    .ok ((Argument.number? value).map fun x => .rotate (.real x)) := by
  intro value primitive asked
  obtain ⟨x, -, rfl⟩ := Option.map_eq_some_iff.mp (Except.ok.inj asked)
  simp [Primitive.directiveNames]

theorem blur (named : name = "blur" ∨ name = "gaussian_blur") :
    IsNamed name fun value => .ok (blurStep value) := by
  intro value primitive asked
  simp only [blurStep, Except.ok.injEq] at asked
  split at asked
  · cases asked
  · split at asked <;> cases asked
    simpa [Primitive.directiveNames] using named

theorem colourSpace : IsNamed "colorspace" fun value => .ok (colourSpaceStep value) := by
  intro value primitive asked
  simp only [colourSpaceStep, Except.ok.injEq] at asked
  split at asked
  · cases asked
  · split at asked <;> cases asked
    simp [Primitive.directiveNames]

theorem interlace : IsNamed "interlace" fun value =>
    .ok (some (.interlace (isInterlaced value))) := by
  intro _ _ asked
  cases asked
  simp [Primitive.directiveNames]

theorem listed : ∀ entry ∈ directiveSteps, IsNamed entry.1 entry.2 := by
  have named {name : String} {primitive : Primitive}
      (member : primitive.directiveNames.contains name = true) :
      IsNamed name (plainStep primitive) := plain (List.contains_iff_mem.mp member)
  simp only [directiveSteps, List.forall_mem_cons]
  exact ⟨named rfl, quality, rotate, named rfl, named rfl, blur (.inl rfl), blur (.inr rfl),
    named rfl, colourSpace, named rfl, named rfl, named rfl, named rfl, interlace, nofun⟩

end IsNamed

theorem mem_directiveNames {key : String} {step : DirectiveStep} {value : Option String}
    {primitive : Primitive} (found : directiveSteps.lookup key = some step)
    (asked : step value = .ok (some primitive)) : key ∈ primitive.directiveNames := by
  obtain ⟨_, _, whole, -⟩ := List.lookup_eq_some_iff.mp found
  have member : (key, step) ∈ directiveSteps := by simp [whole]
  exact IsNamed.listed _ member value primitive asked

theorem isForSaving_of_named {directive : Directive} {primitive : Primitive}
    (named : directive.key ∈ primitive.directiveNames) :
    directive.isForSaving = primitive.isForSaving := by
  cases primitive <;>
    simp_all [Primitive.directiveNames, Primitive.isForSaving, Directive.isForSaving,
      Directive.savingNames]
  all_goals rcases named with same | same <;> simp [same]

end Engine

end Thumbnailing
