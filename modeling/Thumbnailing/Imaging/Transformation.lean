import Thumbnailing.Failure
import Thumbnailing.Geometry.Current

set_option autoImplicit false

namespace Thumbnailing

structure Raster where
  width : Int
  height : Int
  bands : Int
  hasAlpha : Bool
  metadata : Entries

/-- A picture in the course of a run; the number tells it from all others. -/
structure Picture where
  number : Nat
  raster : Raster

namespace Raster

def transposed (raster : Raster) : Raster :=
  { raster with width := raster.height, height := raster.width }

def resized (raster : Raster) (width height : Int) : Raster :=
  { raster with width, height }

end Raster

namespace Picture

def name (picture : Picture) : String := "i" ++ natText picture.number

def width (picture : Picture) : Int := picture.raster.width

def height (picture : Picture) : Int := picture.raster.height

def metadata? (picture : Picture) (name : String) : Option Value :=
  picture.raster.metadata.get? name

def putMetadata (picture : Picture) (name : String) (value : Value) : Picture :=
  { picture with raster :=
    { picture.raster with metadata := picture.raster.metadata.put name value } }

end Picture

inductive SizeRule where
  | both
  | down
  deriving DecidableEq, Repr

def SizeRule.name : SizeRule → String
  | .both => "both"
  | .down => "down"

inductive Transformation where
  | fitBox (width height : Int) (rule : SizeRule)
  | fillBox (width height : Int) (crop : String)
  | resize (xScale yScale : Amount)
  | cut (left top width height : Int)
  | quarterTurn (degrees : Int)
  | turnUpright
  | turn (degrees : Amount)
  | flipVertically
  | flipHorizontally
  | blur (sigma : Amount)
  | sharpen
  | colourSpace (name : String)
  | invert
  | copy
  | flatten (background : List Int)
  | extractBands (first count : Int)
  | joinBands (other : Picture)
  | stack (frames : List Picture)

inductive Argument where
  | value (value : Value)
  | picture (picture : Picture)
  | pictures (pictures : List Picture)

namespace Transformation

def method : Transformation → String
  | .fitBox .. | .fillBox .. => "thumbnail_image"
  | .resize .. => "resize"
  | .cut .. => "crop"
  | .quarterTurn _ => "rot"
  | .turnUpright => "autorot"
  | .turn _ => "similarity"
  | .flipVertically => "flipver"
  | .flipHorizontally => "fliphor"
  | .blur _ => "gaussblur"
  | .sharpen => "sharpen"
  | .colourSpace _ => "colourspace"
  | .invert => "invert"
  | .copy => "copy"
  | .flatten _ => "flatten"
  | .extractBands .. => "extract_band"
  | .joinBands _ => "bandjoin"
  | .stack _ => "arrayjoin"

def arguments : Transformation → List Argument
  | .fitBox width _ _ | .fillBox width _ _ => [.value (.integer width)]
  | .resize xScale _ => [.value (.ofAmount xScale)]
  | .cut left top width height =>
    [.value (.integer left), .value (.integer top), .value (.integer width),
      .value (.integer height)]
  | .quarterTurn degrees => [.value (.text ("d" ++ integerText degrees))]
  | .blur sigma => [.value (.ofAmount sigma)]
  | .colourSpace name => [.value (.text name)]
  | .extractBands first _ => [.value (.integer first)]
  | .joinBands other => [.picture other]
  | .stack frames => [.pictures frames]
  | _ => []

def namedArguments : Transformation → Entries
  | .fitBox _ height rule => [("height", .integer height), ("size", .text rule.name)]
  | .fillBox _ height crop => [("height", .integer height), ("crop", .text crop)]
  | .resize _ yScale => [("vscale", .ofAmount yScale)]
  | .turn degrees => [("angle", .ofAmount degrees)]
  | .flatten background => [("background", .list (background.map .integer))]
  | .extractBands _ count => [("n", .integer count)]
  | .stack _ => [("across", .integer 1)]
  | _ => []

def operands : Transformation → List Picture
  | .joinBands other => [other]
  | .stack frames => frames
  | _ => []

def scaledSide (side : Int) (scale : Amount) : Except ArithmeticFault Int := do
  return max 1 (← ((← (← scale.times side).toReal).add .half).floor)

def scaled (raster : Raster) (xScale yScale : Amount) : Except ArithmeticFault Raster := do
  return raster.resized (← scaledSide raster.width xScale) (← scaledSide raster.height yScale)

def one : Binary64 := .ofNat 1

def boxScale (raster : Raster) (width height : Int) (rule : SizeRule) :
    Except ArithmeticFault Binary64 := do
  let scale := (← Binary64.ratio width raster.width).smaller (← Binary64.ratio height raster.height)
  return match rule with
    | .both => scale
    | .down => scale.smaller one

def isInside (raster : Raster) (left top width height : Int) : Bool :=
  0 < width && 0 < height && left + width ≤ raster.width && top + height ≤ raster.height

def upright (raster : Raster) : Raster :=
  let plain := { raster with metadata := raster.metadata.remove "orientation" }
  let transposes := match raster.metadata.get? "orientation" with
    | some orientation => [5, 6, 7, 8].any orientation.isNumber
    | none => false
  if transposes then plain.transposed else plain

def stacked (raster : Raster) (frames : List Picture) : Raster :=
  raster.resized (frames.foldl (fun width frame => max width frame.width) raster.width)
    (frames.foldl (fun height frame => height + frame.height) 0)

def result (transformation : Transformation) (raster : Raster) : Outcome Raster :=
  match transformation with
  | .fitBox width height rule => arithmetically do
    let scale ← boxScale raster width height rule
    scaled raster (.real scale) (.real scale)
  | .fillBox width height _ => .ok (raster.resized width height)
  | .resize xScale yScale => arithmetically (scaled raster xScale yScale)
  | .cut left top width height =>
    if isInside raster left top width height then .ok (raster.resized width height)
    else .error (.imageLibrary "extract_area: bad extract area")
  | .quarterTurn degrees =>
    .ok (if degrees = 90 ∨ degrees = 270 then raster.transposed else raster)
  | .turnUpright => .ok (upright raster)
  | .flatten _ => .ok { raster with bands := raster.bands - 1, hasAlpha := false }
  | .extractBands _ count => .ok { raster with bands := count, hasAlpha := false }
  | .joinBands other =>
    .ok { raster with bands := raster.bands + other.raster.bands, hasAlpha := true }
  | .stack frames => .ok (stacked raster frames)
  | _ => .ok raster

@[simp] theorem result_copy (raster : Raster) : copy.result raster = .ok raster := rfl

end Transformation

end Thumbnailing
