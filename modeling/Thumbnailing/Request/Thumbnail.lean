import Thumbnailing.Engine.Backend
import Thumbnailing.Failure
import Thumbnailing.Pipeline
import Thumbnailing.Request.Options
import Thumbnailing.Storage.Path
import Thumbnailing.Text.Characters

set_option autoImplicit false

namespace Thumbnailing

inductive Source where
  | nothing
  | text (content : String)
  | path (path : Path)
  | record (fields : Entries)

namespace Source

def location (source : Source) : Value :=
  -- What a source gives as its path. A record's own path comes before its name.
  match source with
  | .nothing => .null
  | .text content => .text content
  | .path given => .text given.text
  | .record fields =>
    match (Entries.get? fields "path").getD .null with
    | .null => (Entries.get? fields "name").getD .null
    | own => own

def path? (folder : Path) (source : Source) : Outcome (Option Path) :=
  match source.location with
  | .null => .ok none
  | value =>
    if Text.isAllBlank value.display then .ok none
    else
      match value with
      | .text content => .ok (some (folder.absolute (.ofText content)))
      | _ => .error .absentValue

end Source

structure Thumbnail where
  source : Source
  options : ThumbnailOptions
  target : TargetGeometry
  engine : Engine
  path : Option Path

/-- The world, and what is known about the source of a thumbnail in it. -/
structure Progress where
  world : World
  geometry : Option CurrentGeometry
  warnings : List DirectiveOutcome
  -- Whether the source holds several frames; none as long as nobody looked.
  animatedSource : Option Bool

namespace Thumbnail

def backendCandidate (options : ThumbnailOptions) (attachment : Entries)
    (settings : Settings) : Value :=
  let own := Value.optionalText options.backend
  let attached := (attachment.get? "backend").getD .null
  if !own.isVacant then own
  else if !attached.isVacant then attached
  else .text settings.defaultBackend

def targetOf (options : ThumbnailOptions) : Outcome TargetGeometry :=
  let geometry := options.geometry.getD ""
  match options.geometryParser with
  | some parse => parse geometry
  | none => TargetGeometry.parse (some geometry)

def workingFolder (world : World) : Path := ⟨.absolute, world.workingFolder⟩

def prepare (source : Source) (options : ThumbnailOptions) (attachment : Entries)
    (settings : Settings) : Task World Thumbnail := do
  let target ← .ofOutcome (targetOf options)
  let (kind, records) := EngineKind.ofCandidate (backendCandidate options attachment settings)
  logAll records
  let path ← .ofOutcome (source.path? (workingFolder (← .read)))
  return ⟨source, options, target, ⟨kind, settings⟩, path⟩

def sourceName (thumbnail : Thumbnail) : String := (thumbnail.path.map Path.name).getD ""

def currentFormat (thumbnail : Thumbnail) : String := Path.suffixOf thumbnail.sourceName

def basename (thumbnail : Thumbnail) : String := Path.stemOf thumbnail.sourceName

def multiFrameFormats : List String :=
  [".mkv", ".avi", ".mp4", ".mov", ".mpg", ".mpeg", ".gif", ".pdf"]

def isMultiFrameFormat (thumbnail : Thumbnail) : Bool :=
  multiFrameFormats.contains (Text.lowercase thumbnail.currentFormat)

def frameIndex (thumbnail : Thumbnail) : Nat :=
  -- A source of a single frame has no other frame to choose.
  if thumbnail.isMultiFrameFormat then thumbnail.options.frameIndex else 0

def hasConvertOptions (thumbnail : Thumbnail) : Bool :=
  match thumbnail.options.convertOptions with
  | none => false
  | some (.line content) => !content.isEmpty
  | some (.listed words) => !words.isEmpty

def animatedFormats : List String := ["gif"]

def outputCanAnimate (thumbnail : Thumbnail) : Bool :=
  -- Without a format of its own the output has that of its source.
  thumbnail.options.format.all fun format => animatedFormats.contains (Text.lowercase format)

def isAnimated (thumbnail : Thumbnail) (progress : Progress) : Bool :=
  thumbnail.options.animated && thumbnail.outputCanAnimate &&
    progress.animatedSource == some true

def extension (thumbnail : Thumbnail) : String :=
  match thumbnail.options.format with
  | some format => "." ++ format
  | none => thumbnail.currentFormat

end Thumbnail

namespace Progress

def start (world : World) : Progress := ⟨world, none, [], none⟩

def onWorld {Result : Type} (task : Task World Result) : Task Progress Result :=
  task.onPart (·.world) fun progress world => { progress with world }

end Progress

end Thumbnailing
