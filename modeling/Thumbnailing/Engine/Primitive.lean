import Thumbnailing.Geometry.Resize

set_option autoImplicit false

namespace Thumbnailing

inductive Primitive where
  | selectFrame (index : Int)
  | selectAllFrames
  | autoOrient
  | resizeToFit (width height : Option Int)
  | resizeToFill (width height : Option Int) (crop : String)
  | resizeToLimit (width height : Option Int)
  | resizeExact (width height : Option Int)
  | scale (xScale yScale : Option Amount)
  | optimizeFrames
  | strip
  | setQuality (quality : Int)
  | rotate (degrees : Amount)
  | flip
  | flop
  | gaussianBlur (sigma : Amount)
  | sharpen
  | setColourSpace (name : String)
  | flatten (background : String)
  | negate
  | interlace (enabled : Bool)
  | passThrough (words : List String)
  | convertFormat (extension : String)
  deriving DecidableEq, Repr

namespace Primitive

def standardCrop : String := "centre"

def standardBackground : String := "white"

def plainExtension (extension : String) : String :=
  Text.lowercase (String.ofList (extension.toList.dropWhile (· == '.')))

def cropOf (crop : Option String) : String :=
  match crop with
  | none => standardCrop
  | some crop => if crop.isEmpty then standardCrop else crop

def ofResize : Resize → Outcome (Option Primitive)
  | .identity => .ok none
  | .fit width height => .ok (some (.resizeToFit width height))
  | .fill width height crop => .ok (some (.resizeToFill width height (cropOf crop)))
  | .limit width height => .ok (some (.resizeToLimit width height))
  | .exact width height => .ok (some (.resizeExact width height))
  | .scale _ _ xScale yScale => .ok (some (.scale xScale yScale))
  | .unrecognised kind => .error (.unknownResize kind)

def argumentCounts : List (String × Nat × Nat) := [
  ("select_frame", 1, 1),
  ("select_all_frames", 0, 0),
  ("auto_orient", 0, 0),
  ("resize_to_fit", 2, 2),
  ("resize_to_fill", 2, 3),
  ("resize_to_limit", 2, 2),
  ("resize_exact", 2, 2),
  ("scale", 2, 2),
  ("optimize_frames", 0, 0),
  ("strip", 0, 0),
  ("set_quality", 1, 1),
  ("rotate", 1, 1),
  ("flip", 0, 0),
  ("flop", 0, 0),
  ("gaussian_blur", 1, 1),
  ("sharpen", 0, 0),
  ("set_colorspace", 1, 1),
  ("flatten", 0, 1),
  ("negate", 0, 0),
  ("interlace", 0, 1),
  ("passthrough", 1, 2),
  ("convert_format", 1, 1)]

def ofArguments (name : String) (arguments : List Value) : Primitive :=
  let argument (index : Nat) : Value := arguments.getD index .null
  let width := (argument 0).integer?
  let height := (argument 1).integer?
  let word := ((argument 0).text?).getD ""
  let amount := ((argument 0).amount?).getD (.real .undefined)
  match name with
  | "select_frame" => .selectFrame (width.getD 0)
  | "select_all_frames" => .selectAllFrames
  | "auto_orient" => .autoOrient
  | "resize_to_fit" => .resizeToFit width height
  | "resize_to_fill" => .resizeToFill width height ((argument 2).text?.getD standardCrop)
  | "resize_to_limit" => .resizeToLimit width height
  | "resize_exact" => .resizeExact width height
  | "scale" => .scale (argument 0).amount? (argument 1).amount?
  | "optimize_frames" => .optimizeFrames
  | "strip" => .strip
  | "set_quality" => .setQuality (width.getD 0)
  | "rotate" => .rotate amount
  | "flip" => .flip
  | "flop" => .flop
  | "gaussian_blur" => .gaussianBlur amount
  | "sharpen" => .sharpen
  | "set_colorspace" => .setColourSpace word
  | "flatten" => .flatten ((argument 0).text?.getD standardBackground)
  | "negate" => .negate
  | "interlace" => .interlace (arguments.isEmpty || !(argument 0).isVacant)
  | "passthrough" => .passThrough (word :: (argument 1).items.filterMap Value.text?)
  | _ => .convertFormat word

def ofName (name : String) (arguments : List Value) : Outcome Primitive :=
  match argumentCounts.lookup name with
  | none => .error .absentHandle
  | some (least, most) =>
    if least ≤ arguments.length ∧ arguments.length ≤ most then .ok (ofArguments name arguments)
    else .error .mismatchedArguments

end Primitive

end Thumbnailing
