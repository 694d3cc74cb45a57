import Thumbnailing.Engine.Backend
import Thumbnailing.Geometry.Current

set_option autoImplicit false

namespace Thumbnailing

inductive Resize where
  | identity
  -- Keeps the aspect ratio and may enlarge.
  | fit (width height : Option Int)
  -- Covers the box and cuts off the overflow.
  | fill (width height : Option Int) (crop : Option String)
  -- Keeps the aspect ratio and never enlarges.
  | limit (width height : Option Int)
  -- Ignores the aspect ratio.
  | exact (width height : Option Int)
  -- Scales each axis by a factor of its own.
  | scale (width height : Option Int) (xScale yScale : Option Amount)
  -- A kind that no engine knows.
  | unrecognised (kind : String)
  deriving DecidableEq, Repr

namespace Resize

def kind : Resize → String
  | .identity => "identity"
  | .fit .. => "fit"
  | .fill .. => "fill"
  | .limit .. => "limit"
  | .exact .. => "exact"
  | .scale .. => "scale"
  | .unrecognised kind => kind

def width? : Resize → Option Int
  | .fit width _ | .fill width _ _ | .limit width _ | .exact width _ | .scale width _ _ _ => width
  | _ => none

def height? : Resize → Option Int
  | .fit _ height | .fill _ height _ | .limit _ height | .exact _ height
  | .scale _ height _ _ => height
  | _ => none

def xScale? : Resize → Option Amount
  | .scale _ _ xScale _ => xScale
  | _ => none

def yScale? : Resize → Option Amount
  | .scale _ _ _ yScale => yScale
  | _ => none

def crop? : Resize → Option String
  | .fill _ _ crop => crop
  | _ => none

def ofParts (kind : String) (width height : Option Int) (xScale yScale : Option Amount)
    (crop : Option String) : Resize :=
  match kind with
  | "identity" => .identity
  | "fit" => .fit width height
  | "fill" => .fill width height crop
  | "limit" => .limit width height
  | "exact" => .exact width height
  | "scale" => .scale width height xScale yScale
  | kind => .unrecognised kind

def isIdentity (resize : Resize) : Bool := resize == .identity

def fitsWithin (current : CurrentGeometry) (width height : Option Int) : Bool :=
  width.all (current.width ≤ ·) && height.all (current.height ≤ ·)

def isExceededBy (current : CurrentGeometry) (width height : Option Int) : Bool :=
  -- An absent dimension is no constraint.
  width.all (current.width < ·) && height.all (current.height < ·)

def scaledSide (side : Int) (scale : Binary64) : Except ArithmeticFault Int := do
  (← scaleInteger side scale).roundHalfUp

def fitScaled (current : CurrentGeometry) (scale : Binary64) : Except ArithmeticFault Resize := do
  let width := max 1 (← scaledSide current.width scale)
  let height := max 1 (← scaledSide current.height scale)
  if width = current.width ∧ height = current.height then return .identity
  return .fit (some width) (some height)

def forced (current : CurrentGeometry) (engine : EngineKind) (width height : Option Int) :
    Except ArithmeticFault Resize :=
  match nonzero? width, nonzero? height with
  | some width, some height =>
    match engine with
    | .vips => do
      let xScale ← Binary64.ratio width current.width
      let yScale ← Binary64.ratio height current.height
      return .scale (some width) (some height) (some (.real xScale)) (some (.real yScale))
    | .imageMagick => .ok (.exact (some width) (some height))
  | _, _ => .ok .identity

def covering (current : CurrentGeometry) (width height : Option Int) :
    Except ArithmeticFault Resize :=
  match nonzero? width, nonzero? height with
  | some targetWidth, some targetHeight => do
    let xScale ← Binary64.ratio targetWidth current.width
    let scale := xScale.larger (← Binary64.ratio targetHeight current.height)
    return .fit (some (← scaledSide current.width scale)) (some (← scaledSide current.height scale))
  | _, _ => .ok (.fit width height)

def percentage (current : CurrentGeometry) (percent : Int) : Except ArithmeticFault Resize := do
  fitScaled current ((← Binary64.ofInt percent).divNat 100)

def toArea (current : CurrentGeometry) (area : Int) (shrinkOnly : Bool) :
    Except ArithmeticFault Resize := do
  -- Scales to an area in pixels; `shrinkOnly` leaves smaller sources alone.
  if current.area = area ∨ (shrinkOnly ∧ current.area ≤ area) then return .identity
  fitScaled current (← (← Binary64.ratio area current.area).sqrt)

def resolve (current : CurrentGeometry) (target : TargetGeometry) (engine : EngineKind) :
    Except ArithmeticFault Resize :=
  let width := target.width
  let height := target.height
  match target.scalar with
  | none => .ok .identity
  | some scalar =>
    match target.modifier with
    | .plain => .ok (.fit width height)
    | .crop =>
      .ok (.fill (orElseDimension width height) (orElseDimension height width) (some "centre"))
    | .shrinkOnly => .ok (if fitsWithin current width height then .identity else .limit width height)
    | .enlargeOnly => .ok (if isExceededBy current width height then .fit width height else .identity)
    | .force => forced current engine width height
    | .fill => covering current width height
    | .percent => percentage current scalar
    | .area => toArea current scalar false
    | .areaShrinkOnly => toArea current scalar true

end Resize

end Thumbnailing
