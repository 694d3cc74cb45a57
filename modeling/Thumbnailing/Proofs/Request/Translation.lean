import Thumbnailing.Proofs.Engine.ResizeWords
import Thumbnailing.Proofs.Pipeline.Compilation
import Thumbnailing.Proofs.Request.Options
import Thumbnailing.Proofs.Request.Stages
import Thumbnailing.Proofs.World.Plain
import Thumbnailing.Proofs.World.ToolCalls

set_option autoImplicit false

/-!
# Requests as commands

What a request comes down to on ImageMagick: the source is measured, its frames are counted, and
one convert command is run, whose words can be read off the request and what was found out about
its source.
-/

namespace Thumbnailing

namespace Pipeline.Compiles

variable {settings : Settings}

theorem resize {resize : Resize} (known : resize.isForCommand = true) :
    Compiles settings (if resize.isIdentity then [] else [.resize resize]) []
      (·.addWords resize.words) := by
  cases resize with
  | identity => exact nil.congr fun command => command.addWords_nil.symm
  | fit width height => exact primitive (.resizeToFit width height) rfl rfl
  | fill width height crop =>
    exact primitive (.resizeToFill width height (Primitive.cropOf crop)) rfl rfl
  | limit width height => exact primitive (.resizeToLimit width height) rfl rfl
  | exact width height => exact primitive (.resizeExact width height) rfl rfl
  | scale => cases known
  | unrecognised => cases known

end Pipeline.Compiles

namespace Thumbnail

open Pipeline

def orientWords (thumbnail : Thumbnail) : List String :=
  if thumbnail.options.autoOrient then ["-auto-orient"] else []

def outputWord (thumbnail : Thumbnail) (destination : Path) : String :=
  match thumbnail.options.format with
  | some format => Primitive.plainExtension format ++ ":" ++ destination.text
  | none => destination.text

def changed (thumbnail : Thumbnail) (animated : Bool) (resize : Resize)
    (directives : List Directive) (command : MagickCommand) : MagickCommand :=
  { command with
    frame := if animated then "" else
      if thumbnail.isMultiFrameFormat then Magick.frameText thumbnail.frameIndex
      else command.frame
    arguments := command.arguments ++ ((if animated then ["-coalesce"] else []) ++
      thumbnail.orientWords ++ resize.words ++ (if animated then ["-layers", "optimize"] else []) ++
      directives.flatMap Engine.wordsOf)
    format := match thumbnail.options.format with
      | some format => some (Primitive.plainExtension format)
      | none => command.format }

variable {settings : Settings}

structure Translation (thumbnail : Thumbnail) (before : World)
    (outcomes : List DirectiveOutcome) where
  path : Path
  measured : CurrentGeometry
  probed : World
  several : Bool
  counted : World
  loaderOptions : Entries
  warnings : List LogRecord
  resize : Resize
  tokens : Tokens
  hasPath : thumbnail.path = some path
  isMeasured : (Magick.probe thumbnail.engine.settings (.ofText path.text)).run before =
    (.ok measured, probed)
  isCounted : thumbnail.countFrames.run probed = (.ok several, counted)
  isLoaded : SourceOptions.loaderOptions thumbnail.options.sourceOptions =
    .ok (loaderOptions, warnings)
  isResolved : Resize.resolve (thumbnail.seen measured) thumbnail.target .imageMagick = .ok resize
  isSplit : Tokens.ofOptions thumbnail.options.convertOptions = .ok tokens
  isReported : outcomes.map DirectiveOutcome.directive = tokens.directives

namespace Translation

variable {thumbnail : Thumbnail} {before : World} {outcomes : List DirectiveOutcome}

def animated (translation : Translation thumbnail before outcomes) : Bool :=
  thumbnail.options.animated && thumbnail.outputCanAnimate && translation.several

def tool (_ : Translation thumbnail before outcomes) (name : String) (words : List String) : Call :=
  .tool (Magick.startWords before.machine name ++ words)
    thumbnail.engine.settings.toolTimeoutSeconds

end Translation

end Thumbnail

end Thumbnailing
