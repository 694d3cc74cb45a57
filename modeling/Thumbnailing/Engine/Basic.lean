import Thumbnailing.Engine.Vips

set_option autoImplicit false

namespace Thumbnailing

inductive Job where
  | magick (command : MagickCommand)
  | vips (job : VipsJob)

structure Session where
  world : World
  job : Option Job

structure Engine where
  kind : EngineKind
  settings : Settings

namespace Engine

def onWorld {Result : Type} (task : Task World Result) : Task Session Result :=
  task.onPart (·.world) fun session world => { session with world }

def passesOptions (engine : Engine) : Bool := engine.kind == .imageMagick

def optimizesFrames (engine : Engine) : Bool := engine.kind == .imageMagick

def probe (engine : Engine) (path : Path) : Task World CurrentGeometry :=
  match engine.kind with
  | .imageMagick => Magick.probe engine.settings path
  | .vips => Vips.probe engine.settings path

def countFrames (engine : Engine) (path : Option Path) : Task World Int :=
  match engine.kind with
  | .imageMagick => Magick.countFrames engine.settings path
  | .vips => Vips.countFrames path

def blankSource : Failure :=
  .ofKind .unreadableSource "Cannot find the geometry of a file with a blank name" []

def detectGeometry (engine : Engine) (source : Option String) : Task World CurrentGeometry :=
  match source with
  | none => .fail blankSource
  | some source =>
    if Text.isAllBlank source then .fail blankSource else engine.probe (.ofText source)

def loadJob (engine : Engine) (source : Option Path) (options : Entries) : Task World Job :=
  match engine.kind with
  | .imageMagick => do
    logAll (Magick.loaderWarnings options)
    return .magick (Magick.load source options)
  | .vips => do return .vips (← Vips.load source options)

def load (engine : Engine) (source : Option Path) (options : Entries) : Task Session Unit := do
  let job ← onWorld (engine.loadJob source options)
  .modify fun session => { session with job := some job }

def onJob {Result : Type} (magick : MagickCommand → Task Session Result)
    (vips : Vips.JobTask Result) : Task Session Result :=
  ⟨fun session =>
    match session.job with
    | none => (.error .absentHandle, session)
    | some (.magick command) => (magick command).run session
    | some (.vips job) =>
      let (outcome, world, job) := vips.run (session.world, job)
      (outcome, ⟨world, some (.vips job)⟩)⟩

def applyToCommand (primitive : Primitive) (command : MagickCommand) : Task Session Unit := do
  let command ← .ofOutcome (Magick.apply command primitive)
  .modify fun session => { session with job := some (.magick command) }

def apply (engine : Engine) (primitive : Primitive) : Task Session Unit :=
  match engine.kind, primitive with
  | .vips, .optimizeFrames => pure ()
  | _, primitive => onJob (applyToCommand primitive) (Vips.apply primitive)

def applyResize (engine : Engine) (resize : Resize) : Task Session Unit := do
  match ← .ofOutcome (Primitive.ofResize resize) with
  | none => return
  | some primitive => engine.apply primitive

def save (engine : Engine) (destination : Path) : Task Session Unit :=
  onJob (fun command => onWorld (Magick.save engine.settings command destination))
    (Vips.save destination)

def translated (engine : Engine) (failure : Failure) : Failure :=
  match engine.kind with
  | .imageMagick => failure
  | .vips => Vips.translated failure

end Engine

end Thumbnailing
