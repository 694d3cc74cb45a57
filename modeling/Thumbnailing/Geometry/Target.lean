import Thumbnailing.Failure

set_option autoImplicit false

namespace Thumbnailing

open Text

inductive Modifier where
  | plain
  | crop
  | shrinkOnly
  | enlargeOnly
  | force
  | fill
  | percent
  | area
  | areaShrinkOnly
  deriving DecidableEq, Repr

namespace Modifier

def all : List Modifier :=
  [.plain, .crop, .shrinkOnly, .enlargeOnly, .force, .fill, .percent, .area, .areaShrinkOnly]

def symbol : Modifier → String
  | .plain => ""
  | .crop => "#"
  | .shrinkOnly => ">"
  | .enlargeOnly => "<"
  | .force => "!"
  | .fill => "^"
  | .percent => "%"
  | .area => "@"
  | .areaShrinkOnly => "@>"

def ofSymbol (symbol : String) : Outcome Modifier :=
  match all.find? fun modifier => modifier.symbol == symbol with
  | some modifier => .ok modifier
  | none => .error (.unknownName .modifier (.text symbol))

def ofToken? (token : List Char) : Option Modifier :=
  -- The modifier a geometry ends with; `>@` is another way to write `@>`.
  if token = ['>', '@'] then some .areaShrinkOnly
  else all.find? fun modifier => modifier.symbol.toList == token

end Modifier

structure TargetGeometry where
  width : Option Int
  height : Option Int
  modifier : Modifier
  deriving DecidableEq, Repr

def nonzero? : Option Int → Option Int
  -- Absent and zero both say that there is no such dimension.
  | some 0 => none
  | dimension => dimension

def orElseDimension (first second : Option Int) : Option Int :=
  match nonzero? first with
  | some dimension => some dimension
  | none => second

namespace TargetGeometry

def identity : TargetGeometry := ⟨none, none, .plain⟩

def isIdentity (target : TargetGeometry) : Bool :=
  target.width.isNone && target.height.isNone

def isCrop (target : TargetGeometry) : Bool := target.modifier == .crop

def scalar (target : TargetGeometry) : Option Int :=
  -- The one number of a percentage or an area; a second one is ignored.
  match target.width with
  | some width => some width
  | none => target.height

def text (target : TargetGeometry) : String :=
  let width := match nonzero? target.width with
    | some width => integerText width
    | none => ""
  let height := match nonzero? target.height with
    | some height => "x" ++ integerText height
    | none => ""
  width ++ height ++ target.modifier.symbol

structure Parts where
  width : List Nat
  height : List Nat
  token : List Char

def digitsOf (text : List Char) : List Nat :=
  (text.takeWhile isDecimalDigit).filterMap decimalValue?

def afterDigits (text : List Char) : List Char := text.dropWhile isDecimalDigit

def isSeparator (c : Char) : Bool := c == 'x' || c == 'X'

def Parts.ofChars (chars : List Char) : Parts :=
  match afterDigits chars with
  | c :: rest =>
    if isSeparator c then ⟨digitsOf chars, digitsOf rest, afterDigits rest⟩
    else ⟨digitsOf chars, [], c :: rest⟩
  | [] => ⟨digitsOf chars, [], []⟩

def invalid (message : String) (geometry : String) : Failure :=
  .ofKind .invalidGeometry (message ++ quoted geometry) [("geometry", .text geometry)]

def dimension? (n : Nat) : Option Int := if n = 0 then none else some n

def parseTrimmed (geometry : String) : Outcome TargetGeometry := do
  let parts := Parts.ofChars geometry.toList
  match Modifier.ofToken? parts.token with
  | none => .error (invalid "Invalid geometry string: " geometry)
  | some modifier =>
    let width ← numerically (digitsInteger parts.width)
    let height ← numerically (digitsInteger parts.height)
    if width = 0 ∧ height = 0 then
      .error (invalid "Geometry string has no dimensions: " geometry)
    else return ⟨dimension? width, dimension? height, modifier⟩

def parse (geometry : Option String) : Outcome TargetGeometry :=
  match geometry with
  | none => .ok identity
  | some geometry =>
    if isAllBlank geometry then .ok identity else parseTrimmed (stripped geometry)

end TargetGeometry

end Thumbnailing
