import Thumbnailing.Engine.Magick
import Thumbnailing.World.Library

set_option autoImplicit false

/-!
# The libvips engine

The source is opened at the first step that needs its pixels, so that the choice of a frame can
still change how it is read. Every step replaces the picture of the job; steps on the format
only note an option for saving.
-/

namespace Thumbnailing

structure VipsJob where
  source : Option Path
  loaderOptions : Entries
  picture : Option Picture
  saverOptions : Entries
  format : Option String

namespace Vips

def loaderNames : List (String × String) := [
  ("density", "dpi"),
  ("dpi", "dpi"),
  ("page", "page"),
  ("n", "n"),
  ("scale", "scale"),
  ("access", "access")]

def resolution? (value : String) : Option Value :=
  (numberOfText? (String.ofList (value.toList.takeWhile (· != 'x')))).map .real

def loaderValue? (name : String) (value : Value) : Option Value :=
  match value with
  | .text content =>
    if name = "dpi" then resolution? content
    else if name = "page" ∨ name = "n" then
      ((integerOfText content).toOption).map .integer
    else some value
  | _ => some value

def invalidValue (key : String) (value : Value) : Failure :=
  .ofKind .invalidOptions
    ("Invalid value for source file option -" ++ key ++ ": " ++ value.quoted)
    [("option", .text key)]

def unsupported (component : Component) (option : String) : LogRecord :=
  .warning component ("Warning: " ++ option ++ " is not supported with vips backend, skipping")

def addLoaderOption (options : Entries) (entry : String × Value) : Task World Entries :=
  match loaderNames.lookup entry.1 with
  | none => do
    log (unsupported .vips ("-" ++ entry.1))
    return options
  | some name =>
    match loaderValue? name entry.2 with
    | some value => pure (options.put name value)
    | none => .fail (invalidValue entry.1 entry.2)

def loaderOptionsFrom (options : Entries) : Entries → Task World Entries
  | [] => pure options
  | entry :: rest => do
    let options ← addLoaderOption options entry
    loaderOptionsFrom options rest

def load (source : Option Path) (options : Entries) : Task World VipsJob := do
  Library.load
  return ⟨source, ← loaderOptionsFrom [] options, none, [], none⟩

abbrev JobTask := Task (World × VipsJob)

def onWorld {Result : Type} (task : Task World Result) : JobTask Result :=
  task.onPart (·.1) fun state world => (world, state.2)

def job : JobTask VipsJob := do return (← .read).2

def changeJob (change : VipsJob → VipsJob) : JobTask Unit :=
  .modify fun state => (state.1, change state.2)

def setPicture (picture : Picture) : JobTask Unit :=
  changeJob fun job => { job with picture := some picture }

def picture : JobTask Picture := do
  let job ← job
  match job.picture with
  | some picture => return picture
  | none =>
    let picture ← onWorld do
      Library.load
      Library.openPicture (pathText job.source) job.loaderOptions
    setPicture picture
    return picture

def transform (transformation : Transformation) : JobTask Unit := do
  let picture ← picture
  setPicture (← onWorld (Library.transform transformation picture))

def integerOf (value : Value) : Outcome Int :=
  match value with
  | .integer n => .ok n
  | .boolean truth => .ok (if truth then 1 else 0)
  | .real x => arithmetically x.truncate
  | .text content => numerically (integerOfText content)
  | _ => .error .absentValue

def pageHeightName : String := "page-height"

def pageHeightFrom (picture : Picture) (recorded : Option Value) : Outcome Int := do
  -- The height of one page, if whole pages of it fill the picture, else the whole height.
  match recorded with
  | none => return picture.height
  | some value =>
    let height ← integerOf value
    return if 0 < height ∧ height < picture.height ∧ picture.height % height = 0 then height
      else picture.height

def pageHeight (picture : Picture) : Outcome Int :=
  pageHeightFrom picture (picture.metadata? pageHeightName)

def measuredPage (picture : Picture) : JobTask Int := do
  .ofOutcome (pageHeightFrom picture (← onWorld (Library.metadata? pageHeightName picture)))

def withPageHeight (picture : Picture) (height : Int) : Task World Picture := do
  let copy ← Library.transform .copy picture
  Library.setMetadata pageHeightName (.integer height) copy

/-- The largest side that the library knows; it stands for a side that is free. -/
def longestSide : Int := 10000000

def required (dimension : Option Int) : Outcome Int :=
  match dimension with
  | some n => .ok n
  | none => .error .absentValue

def ratio (target : Option Int) (side : Int) : Outcome Binary64 := do
  arithmetically (Binary64.ratio (← required target) side)

def scale (xScale yScale : Amount) : JobTask Unit := do
  let source ← picture
  let height ← measuredPage source
  let resized ← onWorld (Library.transform (.resize xScale yScale) source)
  if height = source.height then setPicture resized
  else
    let scaled ← .ofOutcome <| arithmetically do (← yScale.times height).roundEven
    setPicture (← onWorld (withPageHeight resized (max 1 scaled)))

def pageScale (picture : Picture) (height : Int) (target : Option Int × Option Int)
    (rule : SizeRule) : Outcome Binary64 := do
  let horizontal ← (nonzero? target.1).mapM fun n => ratio (some n) picture.width
  let vertical ← (nonzero? target.2).mapM fun n => ratio (some n) height
  let scale := match horizontal, vertical with
    | some x, some y => x.smaller y
    | some x, none => x
    | none, some y => y
    | none, none => Transformation.one
  return match rule with
    | .both => scale
    | .down => scale.smaller Transformation.one

def fitBox (width height : Option Int) (rule : SizeRule) : JobTask Unit := do
  let source ← picture
  let page ← measuredPage source
  if page = source.height then
    transform (.fitBox ((nonzero? width).getD longestSide) ((nonzero? height).getD longestSide) rule)
  else
    let factor ← .ofOutcome (pageScale source page (width, height) rule)
    if factor != Transformation.one then scale (.real factor) (.real factor)

def pageCuts (picture : Picture) (page width height : Int) : List Transformation :=
  let left := max 0 ((picture.width - width).fdiv 2)
  let top := max 0 ((page - height).fdiv 2)
  (List.range (picture.height.fdiv page).toNat).map fun (index : Nat) =>
    .cut left (index * page + top) (min width picture.width) (min height page)

def cropName (crop : String) : String :=
  let name := Text.lowercase crop
  if name = "center" then "centre" else name

def cutPages (width height : Int) : JobTask Unit := do
  let source ← picture
  let page ← measuredPage source
  let frames ← onWorld <|
    Task.forAll (fun cut => Library.transform cut source) (pageCuts source page width height)
  match frames with
  | [] => return
  | first :: _ =>
    let stacked ← onWorld (Library.transform (.stack frames) first)
    setPicture (← onWorld (withPageHeight stacked (min height page)))

def fillBox (width height : Option Int) (crop : String) : JobTask Unit := do
  let source ← picture
  let page ← measuredPage source
  if page = source.height then
    let width ← .ofOutcome (required width)
    let height ← .ofOutcome (required height)
    transform (.fillBox width height (cropName crop))
  else
    let horizontal ← .ofOutcome (ratio width source.width)
    let vertical ← .ofOutcome (ratio height page)
    let factor := horizontal.larger vertical
    scale (.real factor) (.real factor)
    cutPages (width.getD 0) (height.getD 0)

def resizeExact (width height : Option Int) : JobTask Unit := do
  let source ← picture
  let xScale ← .ofOutcome (ratio width source.width)
  let page ← measuredPage source
  let yScale ← .ofOutcome (ratio height page)
  scale (.real xScale) (.real yScale)

def quarters (degrees : Amount) : Outcome Int := do
  return (← arithmetically degrees.truncate) % 360

def rotate (degrees : Amount) : JobTask Unit := do
  let _ ← picture
  if degrees.isMultipleOf 90 then
    let angle ← .ofOutcome (quarters degrees)
    if angle != 0 then transform (.quarterTurn angle)
  else transform (.turn degrees)

def colourSpaces : List (String × String) := [
  ("gray", "b-w"),
  ("grey", "b-w"),
  ("grayscale", "b-w"),
  ("srgb", "srgb"),
  ("rgb", "srgb"),
  ("cmyk", "cmyk"),
  ("lab", "lab"),
  ("xyz", "xyz")]

def colourSpaceOf (name : String) : String :=
  (colourSpaces.lookup (Text.lowercase name)).getD "srgb"

def backgroundOf (name : String) : List Int :=
  if name = "black" then [0, 0, 0] else [255, 255, 255]

def flatten (background : String) : JobTask Unit := do
  let source ← picture
  if ← onWorld (Library.hasAlpha source) then transform (.flatten (backgroundOf background))

def negate : JobTask Unit := do
  let source ← picture
  if ← onWorld (Library.hasAlpha source) then
    let last := source.raster.bands - 1
    setPicture (← onWorld do
      let colours ← Library.transform (.extractBands 0 last) source
      let inverted ← Library.transform .invert colours
      let transparency ← Library.transform (.extractBands last 1) source
      Library.transform (.joinBands transparency) inverted)
  else transform .invert

def putSaverOption (name : String) (value : Value) : JobTask Unit :=
  changeJob fun job => { job with saverOptions := job.saverOptions.put name value }

def reopen (change : Entries → Entries) : JobTask Unit :=
  -- Changes how the source is read; what was read before does not count.
  changeJob fun job => { job with loaderOptions := change job.loaderOptions, picture := none }

def apply : Primitive → JobTask Unit
  | .selectFrame index =>
    reopen fun options => (options.put "page" (.integer index)).put "n" (.integer 1)
  | .selectAllFrames => reopen fun options => (options.remove "page").put "n" (.integer (-1))
  | .autoOrient => transform .turnUpright
  | .resizeToFit width height => fitBox width height .both
  | .resizeToFill width height crop => fillBox width height crop
  | .resizeToLimit width height => fitBox width height .down
  | .resizeExact width height => resizeExact width height
  | .scale (some xScale) (some yScale) => scale xScale yScale
  | .scale _ _ => do
    let _ ← picture
    .fail .absentValue
  | .optimizeFrames => pure ()
  | .strip => putSaverOption "strip" (.boolean true)
  | .setQuality quality => putSaverOption "Q" (.integer quality)
  | .rotate degrees => rotate degrees
  | .flip => transform .flipVertically
  | .flop => transform .flipHorizontally
  | .gaussianBlur sigma => transform (.blur sigma)
  | .sharpen => transform .sharpen
  | .setColourSpace name => transform (.colourSpace (colourSpaceOf name))
  | .flatten background => flatten background
  | .negate => negate
  | .interlace enabled => putSaverOption "interlace" (.boolean enabled)
  | .passThrough _ => .fail .absentHandle
  | .convertFormat extension =>
    changeJob fun job => { job with format := some (Primitive.plainExtension extension) }

def sequential : Entries := [("access", .text "sequential")]

def isLibraryFault : Failure → Bool
  | .imageLibrary _ => true
  | _ => false

def orientationFrom : Option Value → Outcome Int
  | some value => (integerOf value).map CurrentGeometry.validOrientation
  | none => .ok 1

def orientationOf (settings : Settings) (picture : Picture) : Task World Int := do
  if settings.useExifOrientation then
    .ofOutcome (orientationFrom (← Library.metadata? "orientation" picture))
  else return 1

def probe (settings : Settings) (path : Path) : Task World CurrentGeometry := do
  Library.load
  Task.rescue
    (do
      let picture ← Library.openPicture path.text sequential
      let orientation ← orientationOf settings picture
      return ⟨picture.width, picture.height, orientation⟩)
    fun failure => .fail (if isLibraryFault failure then Magick.unreadable .vips else failure)

def processingFailed (message : String) : Failure :=
  .ofKind .processingFailed message [("engine", .text EngineKind.vips.name)]

def pageCountFrom : Option Value → Outcome Int
  | some value => integerOf value
  | none => .ok 1

def pagesOf (path : Option Path) : Task World Int := do
  let picture ← Library.openPicture (pathText path) sequential
  .ofOutcome (pageCountFrom (← Library.metadata? "n-pages" picture))

def countFrames (path : Option Path) : Task World Int := do
  Library.load
  (pagesOf path).rescue fun
    | .imageLibrary message => .fail (processingFailed ("Could not count frames: " ++ message))
    | failure => .fail failure

def translated : Failure → Failure
  -- A fault of the library counts as failed processing.
  | .imageLibrary message => processingFailed (Text.stripped message)
  | failure => failure

def acceptedOptions : List (String × List String) := [
  -- The options that the encoders of common extensions take; all others take every option.
  ("jpg", ["Q", "strip", "interlace"]),
  ("jpeg", ["Q", "strip", "interlace"]),
  ("png", ["Q", "strip", "interlace"]),
  ("webp", ["Q", "strip"]),
  ("gif", ["strip"]),
  ("tif", ["Q", "strip"]),
  ("tiff", ["Q", "strip"]),
  ("heic", ["Q", "strip"]),
  ("avif", ["Q", "strip"])]

def isAccepted (extension name : String) : Bool :=
  match acceptedOptions.lookup extension with
  | some names => names.contains name
  | none => true

def saveExtension (job : VipsJob) (destination : Path) : String :=
  match job.format with
  | some format =>
    if format.isEmpty then Primitive.plainExtension destination.suffix else format
  | none => Primitive.plainExtension destination.suffix

def droppedOptions (job : VipsJob) (extension : String) : List String :=
  ((job.saverOptions.map (·.1)).filter fun name => !isAccepted extension name).mergeSort
    fun first second => !decide (second < first)

def save (destination : Path) : JobTask Unit := do
  let picture ← picture
  let job ← job
  let extension := saveExtension job destination
  let dropped := droppedOptions job extension
  onWorld do
    if !dropped.isEmpty then
      log (.debug .vips ("Saver options " ++ (Value.texts dropped).quoted ++
        " not supported for ." ++ extension))
    let options := job.saverOptions.filter fun entry => isAccepted extension entry.1
    Files.write destination (← Library.encode ("." ++ extension) options picture)

@[simp] theorem loaderOptionsFrom_nil (options : Entries) :
    loaderOptionsFrom options [] = pure options := rfl

end Vips

end Thumbnailing
