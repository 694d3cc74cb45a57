import Thumbnailing.Proofs.Engine.Steps
import Thumbnailing.Proofs.World.Looking

set_option autoImplicit false

namespace Thumbnailing

namespace Vips

variable {Result : Type}

def JobLooks (before after : World × VipsJob) : Prop := Looks before.1 after.1

namespace JobLooks

theorem history : Task.IsHistory JobLooks := Looks.history.along Prod.fst

theorem onWorld {task : Task World Result} (looks : Task.Keeps Looks task) :
    Task.Keeps JobLooks (onWorld task) := .onPart looks fun _ _ seen => seen

theorem stepClass : IsStepClass (fun task => Task.Keeps Looks task)
    (fun task => Task.Keeps JobLooks task) where
  worlds := .keeps Looks.history
  jobs := .keeps history
  onWorld := onWorld
  job := .bind history (.read history) fun _ => .succeed history _
  changeJob _ state := Looks.history.refl state.1
  load := Looks.indifferent.load
  ask := Looks.indifferent.ask
  openPicture := .openPicture
  transform _ _ := Looks.indifferent.transform fun _ => .recordCall rfl
  setMetadata _ _ _ := Looks.indifferent.setMetadata (.recordCall rfl)

end JobLooks

theorem probe_looks (settings : Settings) (path : Path) :
    Task.Keeps Looks (probe settings path) := by
  refine .bind Looks.history Looks.indifferent.load fun _ => .rescue Looks.history ?_ fun _ => .fail Looks.history _
  refine .bind Looks.history (.openPicture _ _) fun picture => ?_
  refine .bind Looks.history ?_ fun _ => .succeed Looks.history _
  exact JobLooks.stepClass.orientationOf settings picture

theorem countFrames_looks (path : Option Path) : Task.Keeps Looks (countFrames path) := by
  refine .bind Looks.history Looks.indifferent.load fun _ => .rescue Looks.history ?_ fun failure => ?_
  · exact JobLooks.stepClass.pagesOf path
  · split <;> exact .fail Looks.history _

end Vips

def SessionLooks (before after : Session) : Prop := Looks before.world after.world

namespace SessionLooks

theorem history : Task.IsHistory SessionLooks := Looks.history.along Session.world

theorem onJob {Result : Type} {magick : MagickCommand → Task Session Result}
    {vips : Vips.JobTask Result} (adds : ∀ command, Task.Keeps SessionLooks (magick command))
    (works : Task.Keeps Vips.JobLooks vips) :
    Task.Keeps SessionLooks (Engine.onJob magick vips) := by
  rintro ⟨world, job⟩
  cases job with
  | none => exact history.refl _
  | some job =>
    cases job with
    | magick command => exact adds command ⟨world, some (.magick command)⟩
    | vips job => exact works (world, job)

theorem stepClass : Engine.IsStepClass (fun task => Task.Keeps Looks task)
    (fun task => Task.Keeps Vips.JobLooks task) (fun task => Task.Keeps SessionLooks task) where
  toIsStepClass := Vips.JobLooks.stepClass
  sessions := .keeps history
  inSession looks := .onPart looks fun _ _ seen => seen
  onJob := onJob
  setJob _ session := Looks.history.refl session.world
  logAll := .logAll

theorem step {operation : Operation} (engine : Engine)
    (other : ∀ destination, operation ≠ .save destination) :
    Task.Keeps SessionLooks (Pipeline.step engine operation) :=
  .rescue history (stepClass.execute engine fun destination same => absurd same (other destination))
    fun _ => .fail history _

theorem steps {operations : List Operation} (engine : Engine)
    (others : ∀ destination, .save destination ∉ operations) :
    Task.Keeps SessionLooks (Task.forAll (Pipeline.step engine) operations) := by
  refine stepClass.sessions.forAll fun operation member => step engine fun destination same => ?_
  exact others destination (same ▸ member)

end SessionLooks

end Thumbnailing
