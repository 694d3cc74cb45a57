import Thumbnailing.Format.Signature
import Thumbnailing.Request.Thumbnail
import Thumbnailing.World.Files

set_option autoImplicit false

/-!
# Making thumbnails

The steps from a prepared thumbnail to a file: its source is measured, its frames are counted, a
destination is allocated, and a pipeline is built and run. A destination does not outlive a
failure. Failed processing is reported, or, where the caller wants no complaints, answered with
the source itself.
-/

namespace Thumbnailing.Thumbnail

def measure (thumbnail : Thumbnail) : Task Progress CurrentGeometry :=
  let source := thumbnail.path.map Path.text
  match thumbnail.options.sourceParser with
  | some parse => .ofOutcome (parse source thumbnail.engine.kind)
  | none => Progress.onWorld (thumbnail.engine.detectGeometry source)

def detectGeometry (thumbnail : Thumbnail) : Task Progress CurrentGeometry := do
  let measured ← thumbnail.measure
  let geometry := if thumbnail.options.autoOrient then measured.autoOrient else measured
  .modify fun progress => { progress with geometry := some geometry }
  return geometry

def sniff (path : Option Path) : Task World Bool := do
  -- Whether a file seems to hold several frames; one that cannot be read does not.
  let some path := path | .fail .absentValue
  match ← (Files.read path).attempt with
  | .ok content => .ofOutcome (ImageFormat.sniff content)
  | .error failure => if failure.isStorage then return false else .fail failure

def canSniffInstead (failure : Failure) : Bool :=
  failure.isStorage || failure.kind?.any (· != .engineUnavailable)

def countFrames (thumbnail : Thumbnail) : Task World Bool := do
  match ← (thumbnail.engine.countFrames thumbnail.path).attempt with
  | .ok count => return 1 < count
  | .error failure =>
    if canSniffInstead failure then
      log (.debug .thumbnail
        ("Frame count failed, sniffing header instead: " ++ failure.message))
      sniff thumbnail.path
    else .fail failure

def detectAnimatedSource (thumbnail : Thumbnail) : Task Progress Bool := do
  if let some known := (← .read).animatedSource then return known
  let animated ← Progress.onWorld thumbnail.countFrames
  .modify fun progress => { progress with animatedSource := some animated }
  return animated

def geometryNotDetected (thumbnail : Thumbnail) : Failure :=
  .ofKind .geometryNotDetected "Current geometry is unknown; await detect_geometry() first"
    [("source", .text thumbnail.basename)]

def requireGeometry (thumbnail : Thumbnail) (progress : Progress) : Outcome CurrentGeometry :=
  match progress.geometry with
  | some geometry => .ok geometry
  | none => .error thumbnail.geometryNotDetected

def frameOperations (thumbnail : Thumbnail) (animated : Bool) : List Operation :=
  -- An animation keeps all frames; any other output of a container takes one of them.
  if animated then [.selectAllFrames]
  else if thumbnail.isMultiFrameFormat then [.selectFrame thumbnail.frameIndex]
  else []

def orientOperations (thumbnail : Thumbnail) : List Operation :=
  if thumbnail.options.autoOrient then [.autoOrient] else []

def resizeOperations (thumbnail : Thumbnail) (progress : Progress) :
    Outcome (List Operation) := do
  if thumbnail.target.isIdentity then return []
  let geometry ← thumbnail.requireGeometry progress
  let resize ← arithmetically (Resize.resolve geometry thumbnail.target thumbnail.engine.kind)
  return if resize.isIdentity then [] else [.resize resize]

def optimizeOperations (animated : Bool) : List Operation :=
  if animated then [.optimizeFrames] else []

def formatOperations (thumbnail : Thumbnail) : List Operation :=
  thumbnail.options.format.toList.map .convertFormat

def buildPipeline (thumbnail : Thumbnail) (destination : Path) : Task Progress Pipeline := do
  -- The operations in their fixed order. Reading the options may leave warnings behind.
  let (loaderOptions, records) ←
    .ofOutcome (SourceOptions.loaderOptions thumbnail.options.sourceOptions)
  Progress.onWorld (logAll records)
  let progress ← .read
  let animated := thumbnail.isAnimated progress
  let resize ← .ofOutcome (thumbnail.resizeOperations progress)
  let tokens ← .ofOutcome (Tokens.ofOptions thumbnail.options.convertOptions)
  Progress.onWorld (logAll tokens.warnings)
  .ofOutcome <| Pipeline.ofOperations <|
    .load thumbnail.path loaderOptions :: thumbnail.frameOperations animated ++
      thumbnail.orientOperations ++ resize ++ optimizeOperations animated ++
      tokens.directives.map .applyDirective ++ thumbnail.formatOperations ++ [.save destination]

inductive Product where
  | file (path : Path)
  | source

def produce (thumbnail : Thumbnail) (destination : Path) : Task Progress Unit := do
  let pipeline ← thumbnail.buildPipeline destination
  let warnings ← Progress.onWorld (Pipeline.perform thumbnail.engine pipeline.operations)
  .modify fun progress => { progress with warnings }

def complaint (thumbnail : Thumbnail) (error : ServiceError) : Failure :=
  .service
    { error with
      message := "There was an error processing the thumbnail for " ++ thumbnail.basename ++
        " using " ++ thumbnail.engine.kind.displayName ++ ":\n" ++ error.message
      details := Entries.put error.details "backend" (.text thumbnail.engine.kind.name) }

def givenUpRecord (thumbnail : Thumbnail) (error : ServiceError) : LogRecord :=
  ⟨.error, .thumbnail, "Processing failed: " ++ error.message, some (.dictionary
    [("backend", .text thumbnail.engine.kind.name), ("source", .text thumbnail.basename)])⟩

def settle (thumbnail : Thumbnail) : Failure → Task Progress Product
  -- Failed processing is reported or answered with the source; other failures stay.
  | .service error =>
    if !error.kind.isProcessing then .fail (.service error)
    else if thumbnail.options.whiny then .fail (thumbnail.complaint error)
    else do
      Progress.onWorld (log (thumbnail.givenUpRecord error))
      return .source
  | failure => .fail failure

def produceFile (thumbnail : Thumbnail) (destination : Path) : Task Progress Product := do
  (thumbnail.produce destination).onFailure (Progress.onWorld (Files.discard destination))
  return .file destination

def make (thumbnail : Thumbnail) : Task Progress Product := do
  if (← .read).geometry.isNone then discard thumbnail.detectGeometry
  discard thumbnail.detectAnimatedSource
  let destination ← Progress.onWorld (Temporary.allocate thumbnail.basename thumbnail.extension
    thumbnail.engine.settings.temporaryFolder)
  (thumbnail.produceFile destination).rescue thumbnail.settle

/-- Makes a thumbnail of whose source nothing is known yet, and tells what became of the
directives. -/
def makeAfresh (thumbnail : Thumbnail) : Task World (Product × List DirectiveOutcome) :=
  Task.onPart Progress.start (fun _ progress => progress.world) do
    let product ← thumbnail.make
    return (product, (← .read).warnings)

def quotedWord (word : String) : String := "\"" ++ word ++ "\""

def backendRecord : LogRecord :=
  .warning .thumbnail "Warning: transformation_command called but using vips backend"

def transformationCommand (thumbnail : Thumbnail) : Task Progress (List String) := do
  -- The words of a single command that makes the thumbnail. It is not what `make` runs.
  if thumbnail.engine.kind == .vips then Progress.onWorld (log backendRecord)
  let progress ← .read
  let geometry ← .ofOutcome (thumbnail.requireGeometry progress)
  let (scale, crop) ← .ofOutcome
    (geometry.transformationTo thumbnail.target thumbnail.target.isCrop)
  let animated := thumbnail.isAnimated progress
  return (if animated then ["-coalesce"] else []) ++
    (if thumbnail.options.autoOrient then ["-auto-orient"] else []) ++
    (if scale.isEmpty then [] else ["-resize", quotedWord scale]) ++
    (match crop with
      | some box => ["-crop", quotedWord box, "+repage"]
      | none => []) ++
    (if animated then ["-layers", quotedWord "optimize"] else [])

end Thumbnailing.Thumbnail
