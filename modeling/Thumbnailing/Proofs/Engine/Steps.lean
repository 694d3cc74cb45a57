import Thumbnailing.Pipeline
import Thumbnailing.Proofs.Engine.PixelWork

set_option autoImplicit false

/-!
# What all steps share

The steps of an engine are put together from few parts: looks at the job under way, changes to it,
lines of the log, and calls of the library. A property that holds of these parts and goes over to
tasks in a row holds of every operation but the last one, which saves the result.
-/

namespace Thumbnailing

namespace Vips

/-- A property of tasks on the world, and one of tasks on a job, that hold of all parts of which the
steps of the library are made. -/
structure IsStepClass (onWorlds : ∀ {Result : Type}, Task World Result → Prop)
    (onJobs : ∀ {Result : Type}, JobTask Result → Prop) : Prop where
  worlds : Task.IsClosed @onWorlds
  jobs : Task.IsClosed @onJobs
  onWorld : ∀ {Result : Type} {task : Task World Result}, onWorlds task → onJobs (onWorld task)
  job : onJobs job
  changeJob : ∀ change, onJobs (changeJob change)
  load : onWorlds Library.load
  ask : ∀ method, onWorlds (Library.ask method)
  openPicture : ∀ path options, onWorlds (Library.openPicture path options)
  transform : ∀ transformation picture, onWorlds (Library.transform transformation picture)
  setMetadata : ∀ name value picture, onWorlds (Library.setMetadata name value picture)

namespace IsStepClass

variable {onWorlds : ∀ {Result : Type}, Task World Result → Prop}
  {onJobs : ∀ {Result : Type}, JobTask Result → Prop} (steps : IsStepClass @onWorlds @onJobs)

include steps

theorem picture : onJobs picture := by
  refine steps.jobs.bind steps.job fun job => ?_
  split
  · exact steps.jobs.succeed _
  · have opens : onWorlds (do
        Library.load
        Library.openPicture (pathText job.source) job.loaderOptions) :=
      steps.worlds.bind steps.load fun _ => steps.openPicture _ _
    refine steps.jobs.bind (steps.onWorld opens) fun picture => ?_
    exact steps.jobs.bind (steps.changeJob _) fun _ => steps.jobs.succeed picture

theorem setPicture (picture : Picture) : onJobs (setPicture picture) := steps.changeJob _

theorem replacePicture {task : Task World Picture} (made : onWorlds task) :
    onJobs (do Vips.setPicture (← Vips.onWorld task)) :=
  steps.jobs.bind (steps.onWorld made) fun picture => steps.setPicture picture

theorem transformPicture (transformation : Transformation) :
    onJobs (Vips.transform transformation) :=
  steps.jobs.bind steps.picture fun _ => steps.replacePicture (steps.transform _ _)

theorem withPageHeight (picture : Picture) (height : Int) :
    onWorlds (withPageHeight picture height) :=
  steps.worlds.bind (steps.transform _ _) fun _ => steps.setMetadata _ _ _

theorem metadata (name : String) (picture : Picture) :
    onWorlds (Library.metadata? name picture) := by
  refine steps.worlds.bind (steps.ask _) fun _ => ?_
  split
  · exact steps.worlds.succeed _
  · exact steps.worlds.bind (steps.ask _) fun _ => steps.worlds.succeed _

theorem orientationOf (settings : Settings) (picture : Picture) :
    onWorlds (orientationOf settings picture) := by
  unfold Vips.orientationOf
  split
  · exact steps.worlds.bind (steps.metadata _ _) fun _ => steps.worlds.ofOutcome _
  · exact steps.worlds.succeed 1

theorem pagesOf (path : Option Path) : onWorlds (pagesOf path) :=
  steps.worlds.bind (steps.openPicture _ _) fun _ =>
    steps.worlds.bind (steps.metadata _ _) fun _ => steps.worlds.ofOutcome _

theorem hasAlpha (picture : Picture) : onWorlds (Library.hasAlpha picture) :=
  steps.worlds.bind (steps.ask _) fun _ => steps.worlds.succeed _

theorem measuredPage (picture : Picture) : onJobs (measuredPage picture) :=
  steps.jobs.bind (steps.onWorld (steps.metadata _ _)) fun _ => steps.jobs.ofOutcome _

theorem scale (xScale yScale : Amount) : onJobs (scale xScale yScale) := by
  refine steps.jobs.bind steps.picture fun source => ?_
  refine steps.jobs.bind (steps.measuredPage source) fun height => ?_
  refine steps.jobs.bind (steps.onWorld (steps.transform _ _)) fun resized => ?_
  split
  · exact steps.setPicture _
  · refine steps.jobs.bind (steps.jobs.ofOutcome _) fun scaled => ?_
    exact steps.replacePicture (steps.withPageHeight _ _)

theorem fitBox (width height : Option Int) (rule : SizeRule) :
    onJobs (fitBox width height rule) := by
  refine steps.jobs.bind steps.picture fun source => ?_
  refine steps.jobs.bind (steps.measuredPage source) fun page => ?_
  split
  · exact steps.transformPicture _
  · refine steps.jobs.bind (steps.jobs.ofOutcome _) fun factor => ?_
    split
    · exact steps.scale _ _
    · exact steps.jobs.succeed ()

theorem cutPages (width height : Int) : onJobs (cutPages width height) := by
  refine steps.jobs.bind steps.picture fun source => ?_
  refine steps.jobs.bind (steps.measuredPage source) fun page => ?_
  refine steps.jobs.bind (steps.onWorld (steps.worlds.forAll fun _ _ => steps.transform _ _)) ?_
  intro frames
  split
  · exact steps.jobs.succeed ()
  · refine steps.jobs.bind (steps.onWorld (steps.transform _ _)) fun stacked => ?_
    exact steps.replacePicture (steps.withPageHeight _ _)

theorem fillBox (width height : Option Int) (crop : String) : onJobs (fillBox width height crop) := by
  refine steps.jobs.bind steps.picture fun source => ?_
  refine steps.jobs.bind (steps.measuredPage source) fun page => ?_
  split
  · refine steps.jobs.bind (steps.jobs.ofOutcome _) fun width => ?_
    refine steps.jobs.bind (steps.jobs.ofOutcome _) fun height => ?_
    exact steps.transformPicture _
  · refine steps.jobs.bind (steps.jobs.ofOutcome _) fun horizontal => ?_
    refine steps.jobs.bind (steps.jobs.ofOutcome _) fun vertical => ?_
    exact steps.jobs.bind (steps.scale _ _) fun _ => steps.cutPages _ _

theorem resizeExact (width height : Option Int) : onJobs (resizeExact width height) := by
  refine steps.jobs.bind steps.picture fun source => ?_
  refine steps.jobs.bind (steps.jobs.ofOutcome _) fun xScale => ?_
  refine steps.jobs.bind (steps.measuredPage source) fun page => ?_
  exact steps.jobs.bind (steps.jobs.ofOutcome _) fun yScale => steps.scale _ _

theorem pixels : IsPixelClass (fun task => onWorlds task) @onJobs where
  draws picture _ := steps.transform _ picture
  drawsOn := steps.worlds.bind
  asks picture := steps.onWorld (steps.hasAlpha picture)
  succeed := steps.jobs.succeed
  bind := steps.jobs.bind
  picture := steps.picture
  replacePicture := steps.replacePicture

theorem putSaverOption (name : String) (value : Value) : onJobs (putSaverOption name value) :=
  steps.changeJob _

theorem reopen (change : Entries → Entries) : onJobs (reopen change) := steps.changeJob _

theorem apply (primitive : Primitive) : onJobs (apply primitive) := by
  cases primitive with
  | selectFrame index =>
    exact steps.reopen fun options => (options.put "page" (.integer index)).put "n" (.integer 1)
  | selectAllFrames =>
    exact steps.reopen fun options => (options.remove "page").put "n" (.integer (-1))
  | strip | setQuality | interlace => exact steps.putSaverOption _ _
  | convertFormat extension =>
    exact steps.changeJob fun job => { job with format := some (Primitive.plainExtension extension) }
  | resizeToFit => exact steps.fitBox _ _ _
  | resizeToFill => exact steps.fillBox _ _ _
  | resizeToLimit => exact steps.fitBox _ _ _
  | resizeExact => exact steps.resizeExact _ _
  | scale xScale yScale =>
    cases xScale with
    | none => exact steps.jobs.bind steps.picture fun _ => steps.jobs.fail _
    | some xScale =>
      cases yScale with
      | none => exact steps.jobs.bind steps.picture fun _ => steps.jobs.fail _
      | some yScale => exact steps.scale _ _
  | optimizeFrames => exact steps.jobs.succeed ()
  | rotate => exact steps.pixels.rotate _
  | flatten => exact steps.pixels.flatten _
  | negate => exact steps.pixels.negate
  | passThrough => exact steps.jobs.fail _
  | autoOrient | flip | flop | gaussianBlur | sharpen | setColourSpace =>
    exact steps.transformPicture _

end IsStepClass

end Vips

namespace Engine

/-- Properties as above, with one of tasks on a session that holds of what either engine does. -/
structure IsStepClass (onWorlds : ∀ {Result : Type}, Task World Result → Prop)
    (onJobs : ∀ {Result : Type}, Vips.JobTask Result → Prop)
    (onSessions : ∀ {Result : Type}, Task Session Result → Prop) : Prop
    extends Vips.IsStepClass @onWorlds @onJobs where
  sessions : Task.IsClosed @onSessions
  inSession : ∀ {Result : Type} {task : Task World Result},
    onWorlds task → onSessions (Engine.onWorld task)
  onJob : ∀ {Result : Type} {magick : MagickCommand → Task Session Result}
    {vips : Vips.JobTask Result}, (∀ command, onSessions (magick command)) → onJobs vips →
      onSessions (Engine.onJob magick vips)
  setJob : ∀ job : Job, onSessions (.modify fun session => { session with job })
  logAll : ∀ records, onWorlds (logAll records)

namespace IsStepClass

variable {onWorlds : ∀ {Result : Type}, Task World Result → Prop}
  {onJobs : ∀ {Result : Type}, Vips.JobTask Result → Prop}
  {onSessions : ∀ {Result : Type}, Task Session Result → Prop}
  (steps : IsStepClass @onWorlds @onJobs @onSessions)

include steps

theorem logs (records : List LogRecord) : onSessions (Engine.onWorld (Thumbnailing.logAll records)) :=
  steps.inSession (steps.logAll records)

theorem addLoaderOption (options : Entries) (entry : String × Value) :
    onWorlds (Vips.addLoaderOption options entry) := by
  unfold Vips.addLoaderOption
  split
  · exact steps.worlds.bind (steps.logAll _) fun _ => steps.worlds.succeed options
  · split
    · exact steps.worlds.succeed _
    · exact steps.worlds.fail _

theorem loaderOptionsFrom (options entries : Entries) :
    onWorlds (Vips.loaderOptionsFrom options entries) := by
  induction entries generalizing options with
  | nil => exact steps.worlds.succeed options
  | cons entry rest ih => exact steps.worlds.bind (steps.addLoaderOption _ _) fun _ => ih _

theorem loadJob (engine : Engine) (source : Option Path) (options : Entries) :
    onWorlds (engine.loadJob source options) := by
  have opens : onWorlds (Vips.load source options) :=
    steps.worlds.bind steps.load fun _ =>
      steps.worlds.bind (steps.loaderOptionsFrom [] options) fun _ => steps.worlds.succeed _
  unfold Engine.loadJob
  split
  · exact steps.worlds.bind (steps.logAll _) fun _ => steps.worlds.succeed _
  · exact steps.worlds.bind opens fun _ => steps.worlds.succeed _

theorem loadSource (engine : Engine) (source : Option Path) (options : Entries) :
    onSessions (engine.load source options) :=
  steps.sessions.bind (steps.inSession (steps.loadJob _ _ _)) fun job => steps.setJob job

theorem applyPrimitive (engine : Engine) (primitive : Primitive) :
    onSessions (engine.apply primitive) := by
  have adds (command : MagickCommand) : onSessions (Engine.applyToCommand primitive command) :=
    steps.sessions.bind (steps.sessions.ofOutcome _) fun _ => steps.setJob _
  have worked := steps.onJob adds (steps.toIsStepClass.apply primitive)
  unfold Engine.apply
  split
  · exact steps.sessions.succeed ()
  · exact worked

theorem applyResize (engine : Engine) (resize : Resize) :
    onSessions (engine.applyResize resize) := by
  refine steps.sessions.bind (steps.sessions.ofOutcome _) fun primitive => ?_
  split
  · exact steps.sessions.succeed ()
  · exact steps.applyPrimitive engine _

theorem drop (directive : Directive) (status : DirectiveStatus) (message : String) :
    onSessions (Engine.onWorld (Engine.drop directive status message)) :=
  steps.inSession (steps.worlds.bind (steps.logAll _) fun _ => steps.worlds.succeed _)

theorem applyDirective (engine : Engine) (directive : Directive) :
    onSessions (engine.applyDirective directive) := by
  unfold Engine.applyDirective
  split
  · unfold Engine.handOn
    split
    · refine steps.sessions.bind (steps.logs _) fun _ => ?_
      exact steps.sessions.bind (steps.applyPrimitive engine _) fun _ => steps.sessions.succeed _
    · exact steps.drop _ _ _
  · unfold Engine.interpret
    split
    · exact steps.drop _ _ _
    · exact steps.drop _ _ _
    · refine steps.sessions.bind (steps.sessions.ofOutcome _) fun primitive => ?_
      split
      · exact steps.sessions.bind (steps.applyPrimitive engine _) fun _ => steps.sessions.succeed _
      · exact steps.sessions.bind (steps.logs _) fun _ => steps.sessions.succeed _

theorem execute (engine : Engine) {operation : Operation}
    (saves : ∀ destination, operation = .save destination → onSessions (engine.save destination)) :
    onSessions (Pipeline.execute engine operation) := by
  have closed := steps.sessions
  cases operation with
  | load => exact closed.bind (steps.loadSource engine _ _) fun _ => closed.succeed none
  | selectFrame | selectAllFrames | autoOrient | convertFormat =>
    exact closed.bind (steps.applyPrimitive engine _) fun _ => closed.succeed none
  | resize => exact closed.bind (steps.applyResize engine _) fun _ => closed.succeed none
  | optimizeFrames =>
    refine closed.bind (steps.applyPrimitive engine _) fun _ => ?_
    split
    · exact closed.bind (steps.logs _) fun _ => closed.succeed none
    · exact closed.succeed none
  | applyDirective =>
    exact closed.bind (steps.applyDirective engine _) fun outcome => closed.succeed (some outcome)
  | save destination => exact closed.bind (saves destination rfl) fun _ => closed.succeed none
  | unknown => exact closed.fail _

end IsStepClass

end Engine

end Thumbnailing
