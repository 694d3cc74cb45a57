import Thumbnailing.Directive.Vocabulary
import Thumbnailing.Engine.Primitive
import Thumbnailing.Settings
import Thumbnailing.Text.Utf8
import Thumbnailing.World.Tool

set_option autoImplicit false

namespace Thumbnailing

def pathText : Option Path → String
  | some path => path.text
  | none => "None"

structure MagickCommand where
  source : Option Path
  loaderArguments : List String
  -- Which frames of the source are read, such as `[0]`; all of them if empty.
  frame : String
  arguments : List String
  format : Option String

namespace MagickCommand

def sourceWord (command : MagickCommand) : String := pathText command.source ++ command.frame

def outputWord (command : MagickCommand) (destination : Path) : String :=
  match command.format with
  | none => destination.text
  | some format => if format.isEmpty then destination.text else format ++ ":" ++ destination.text

def words (command : MagickCommand) (destination : Path) : List String :=
  command.loaderArguments ++ command.sourceWord :: command.arguments ++
    [command.outputWord destination]

def addWords (command : MagickCommand) (words : List String) : MagickCommand :=
  { command with arguments := command.arguments ++ words }

end MagickCommand

namespace Magick

def isOff : Value → Bool
  | .null => true
  | value => value.isNumber 0

def loaderFlag (key : String) : String :=
  String.ofList (key.toList.map Directive.hyphenOfUnderscore)

def loaderWords (entry : String × Value) : List String × List LogRecord :=
  let flag := loaderFlag entry.1
  if !Vocabulary.isAllowed entry.1 then ([], [.notAllowed .imageMagick flag])
  else
    match entry.2 with
    | .boolean true => (["-" ++ flag], [])
    | value => if isOff value then ([], []) else (["-" ++ flag, value.display], [])

def loaderArguments (options : Entries) : List String :=
  options.flatMap fun entry => (loaderWords entry).1

def loaderWarnings (options : Entries) : List LogRecord :=
  options.flatMap fun entry => (loaderWords entry).2

def load (source : Option Path) (options : Entries) : MagickCommand :=
  ⟨source, loaderArguments options, "", [], none⟩

def gravities : List (String × String) := [
  ("centre", "Center"),
  ("center", "Center"),
  ("north", "North"),
  ("south", "South"),
  ("east", "East"),
  ("west", "West")]

def gravityOf (crop : String) : String := (gravities.lookup (Text.lowercase crop)).getD "Center"

def dimensionText (dimension : Option Int) : String :=
  match nonzero? dimension with
  | some n => integerText n
  | none => ""

def sideText (dimension : Option Int) : String :=
  match dimension with
  | some n => integerText n
  | none => "None"

def boxText (width height : Option Int) : String := sideText width ++ "x" ++ sideText height

def fitText (width height : Option Int) : String :=
  dimensionText width ++ "x" ++ dimensionText height

def amountText (amount : Amount) : Outcome String :=
  (arithmetically amount.toReal).map Binary64.sixDigitText

def percentText (scale : Option Amount) : Outcome String := do
  let some scale := scale | .error .absentValue
  return (← amountText (← arithmetically (scale.times 100))) ++ "%"

def scaleWords (xScale yScale : Option Amount) : Outcome (List String) := do
  return ["-resize", (← percentText xScale) ++ "x" ++ (← percentText yScale)]

def primitiveWords : Primitive → Outcome (List String)
  | .selectFrame _ | .convertFormat _ => .ok []
  | .selectAllFrames => .ok ["-coalesce"]
  | .autoOrient => .ok ["-auto-orient"]
  | .resizeToFit width height => .ok ["-resize", fitText width height]
  | .resizeToFill width height crop =>
    .ok ["-resize", boxText width height ++ "^", "-gravity", gravityOf crop,
      "-extent", boxText width height, "+gravity"]
  | .resizeToLimit width height => .ok ["-resize", fitText width height ++ ">"]
  | .resizeExact width height => .ok ["-resize", boxText width height ++ "!"]
  | .scale xScale yScale => scaleWords xScale yScale
  | .optimizeFrames => .ok ["-layers", "optimize"]
  | .strip => .ok ["-strip"]
  | .setQuality quality => .ok ["-quality", integerText quality]
  | .rotate degrees => do return ["-rotate", ← amountText degrees]
  | .flip => .ok ["-flip"]
  | .flop => .ok ["-flop"]
  | .gaussianBlur sigma => do return ["-gaussian-blur", "0x" ++ (← amountText sigma)]
  | .sharpen => .ok ["-sharpen", "0x1"]
  | .setColourSpace name => .ok ["-colorspace", name]
  | .flatten background => .ok ["-background", background, "-flatten"]
  | .negate => .ok ["-negate"]
  | .interlace enabled => .ok ["-interlace", if enabled then "Plane" else "None"]
  | .passThrough words => .ok words

def frameText (index : Int) : String := "[" ++ integerText index ++ "]"

def prepare (command : MagickCommand) : Primitive → MagickCommand
  | .selectFrame index => { command with frame := frameText index }
  | .selectAllFrames => { command with frame := "" }
  | .convertFormat extension =>
    { command with format := some (Primitive.plainExtension extension) }
  | _ => command

def apply (command : MagickCommand) (primitive : Primitive) : Outcome MagickCommand := do
  return (prepare command primitive).addWords (← primitiveWords primitive)

def searchPath (settings : Settings) (machine : Machine) : Option String :=
  if settings.imageMagickPath.isEmpty then none
  else some (settings.imageMagickPath ++ ":" ++ machine.searchPath)

def lookUp (settings : Settings) (program : String) : Task World (Option String) := do
  Tool.lookUp (searchPath settings (← .read).machine) program

def found? : Option String → Option String
  | some path => if path.isEmpty then none else some path
  | none => none

def commandStart (settings : Settings) (tool : String) : Task World (List String) := do
  -- How a command for a tool starts: with `magick` where it is installed, which does the work of
  -- `convert` itself, else with the tool.
  match found? (← lookUp settings "magick") with
  | some magick => return if tool = "convert" then [magick] else [magick, tool]
  | none => return [(found? (← lookUp settings tool)).getD tool]

def unavailable (tool : String) : Failure :=
  .ofKind .engineUnavailable
    ("Could not run the " ++ "\x60" ++ tool ++ "\x60" ++ " command. Please install ImageMagick.")
    [("tool", .text tool)]

def runTool (settings : Settings) (tool : String) (words : List String) : Task World Bytes := do
  let start ← commandStart settings tool
  (Tool.runCommand (start ++ words) settings.toolTimeoutSeconds).rescue fun
    | .storage .notFound _ => .fail (unavailable tool)
    | failure => .fail failure

def unreadable (engine : EngineKind) : Failure :=
  .ofKind .unreadableSource "Could not identify image size" [("engine", .text engine.name)]

def isFailedProcessing : Failure → Bool
  | .service error => error.kind == .processingFailed
  | _ => false

def probe (settings : Settings) (path : Path) : Task World CurrentGeometry := do
  let orientation := if settings.useExifOrientation then "%[exif:orientation]" else "1"
  let output ←
    (runTool settings "identify" ["-format", "%wx%h," ++ orientation, path.text ++ "[0]"]).rescue
      fun failure => if isFailedProcessing failure then pure [] else .fail failure
  match ← .ofOutcome (CurrentGeometry.ofReading? (Text.decodeUtf8 output)) with
  | some geometry => return geometry
  | none => .fail (unreadable .imageMagick)

def frameCount (output : Bytes) : Outcome Int :=
  match Text.firstWord? Text.isBlank (Text.decodeUtf8 output) with
  | none => .ok 1
  | some word =>
    if word.all Text.isDigitLike then numerically (integerOfText (String.ofList word)) else .ok 1

def countFrames (settings : Settings) (path : Option Path) : Task World Int := do
  let output ← runTool settings "identify"
    ["-format", CommandKind.frameCountFormat, pathText path]
  .ofOutcome (frameCount output)

def saveRecord (command : MagickCommand) : LogRecord :=
  ⟨.debug, .imageMagick, "Running convert", some (.dictionary
    [("source", .text (pathText command.source)), ("args", .texts command.arguments)])⟩

def save (settings : Settings) (command : MagickCommand) (destination : Path) :
    Task World Unit := do
  log (saveRecord command)
  discard (runTool settings "convert" (command.words destination))

end Magick

end Thumbnailing
