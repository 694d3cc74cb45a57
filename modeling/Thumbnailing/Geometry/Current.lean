import Thumbnailing.Geometry.Target

set_option autoImplicit false

namespace Thumbnailing

open Text

structure CurrentGeometry where
  width : Int
  height : Int
  orientation : Int
  deriving DecidableEq, Repr

namespace CurrentGeometry

def area (current : CurrentGeometry) : Int := current.width * current.height

def isTransposed (orientation : Int) : Bool := 5 ≤ orientation && orientation ≤ 8

def autoOrient (current : CurrentGeometry) : CurrentGeometry :=
  if isTransposed current.orientation then ⟨current.height, current.width, 1⟩
  else { current with orientation := 1 }

def text (current : CurrentGeometry) : String :=
  integerText current.width ++ "x" ++ integerText current.height

def validOrientation (orientation : Int) : Int :=
  -- An orientation outside 1 to 8 counts as the upright one.
  if 1 ≤ orientation ∧ orientation ≤ 8 then orientation else 1

def readingParts? (reading : List Char) : Option (List Nat × List Nat × List Nat) :=
  let body := reading.dropWhile isBlank
  let width := TargetGeometry.digitsOf body
  match TargetGeometry.afterDigits body with
  | [] => none
  | c :: rest =>
    let height := TargetGeometry.digitsOf rest
    if width.isEmpty || !TargetGeometry.isSeparator c || height.isEmpty then none
    else
      match TargetGeometry.afterDigits rest with
      | ',' :: more => some (width, height, TargetGeometry.digitsOf more)
      | _ => some (width, height, [])

def ofReading? (reading : List Char) : Outcome (Option CurrentGeometry) := do
  -- Reads `WxH` or `WxH,orientation` at the start of a text; none if a side is missing or zero.
  match readingParts? reading with
  | none => return none
  | some (width, height, orientation) =>
    let width ← numerically (digitsInteger width)
    let height ← numerically (digitsInteger height)
    if width = 0 ∨ height = 0 then return none
    if orientation.isEmpty then return some ⟨width, height, 1⟩
    return some ⟨width, height, validOrientation (← numerically (digitsInteger orientation))⟩

def sideRatio (target : Option Int) (current : Int) : Outcome Binary64 :=
  match target with
  | none => .error .absentValue
  | some target => arithmetically (Binary64.ratio target current)

def cropOffset (current : Int) (scale : Binary64) (target : Int) : Except ArithmeticFault Int := do
  let scaled ← scaleInteger current scale
  ((scaled.sub (← Binary64.ofInt target)).divNat 2).truncate

/-- The geometry to resize to and, when cropping, the box to cut out: the source is scaled to
cover the target, and the overflow is cut off evenly at both ends. -/
def transformationTo (current : CurrentGeometry) (target : TargetGeometry) (crop : Bool) :
    Outcome (String × Option String) := do
  if !crop then return (target.text, none)
  let width := orElseDimension target.width target.height
  let height := orElseDimension target.height target.width
  let widthRatio ← sideRatio width current.width
  let heightRatio ← sideRatio height current.height
  match width, height with
  | some width, some height =>
    let box := integerText width ++ "x" ++ integerText height
    if widthRatio.lt heightRatio then
      let offset ← arithmetically (cropOffset current.width heightRatio width)
      return ("x" ++ integerText height, some (box ++ "+" ++ integerText offset ++ "+0"))
    else
      let offset ← arithmetically (cropOffset current.height widthRatio height)
      return (integerText width ++ "x", some (box ++ "+0+" ++ integerText offset))
  | _, _ => .error .absentValue

end CurrentGeometry

end Thumbnailing
