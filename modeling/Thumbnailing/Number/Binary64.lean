set_option autoImplicit false

/-!
# Binary floating point

Numbers of 64 bits with exact rounding: every operation computes an exact quotient of integers
and rounds it once, to the nearest number and to the even significand on a tie. The operations
on integers fail where no number can answer.
-/

namespace Thumbnailing

def powerOfTwo (exponent : Nat) : Nat := Nat.pow 2 exponent

def powerOfTen (exponent : Nat) : Nat := Nat.pow 10 exponent

theorem powerOfTwo_pos (exponent : Nat) : 0 < powerOfTwo exponent := Nat.pow_pos (by decide)

inductive ArithmeticFault where
  | divisionByZero
  | integerTooLarge
  | quotientTooLarge
  | infinityToInteger
  | undefinedToInteger
  | squareRootOfNegative
  deriving DecidableEq, Repr

/-- `finite negative significand exponent` is the number `± significand · 2 ^ exponent`. -/
inductive Binary64 where
  | finite (negative : Bool) (significand : Nat) (exponent : Int)
  | infinite (negative : Bool)
  | undefined
  deriving DecidableEq, Repr, Inhabited

namespace Binary64

def leastExponent : Int := -1074

def greatestExponent : Int := 971

def hiddenBit : Nat := powerOfTwo 52

def zero (negative : Bool) : Binary64 := .finite negative 0 leastExponent

def scaleDown (numerator denominator : Nat) (exponent : Int) : Nat × Nat :=
  if 0 ≤ exponent then (numerator, denominator * powerOfTwo exponent.toNat)
  else (numerator * powerOfTwo (-exponent).toNat, denominator)

def quotientLog2 (numerator denominator : Nat) : Int :=
  let estimate : Int := (numerator.log2 : Int) - denominator.log2
  let scaled := scaleDown numerator denominator estimate
  if scaled.1 < scaled.2 then estimate - 1 else estimate

def nearestEven (numerator denominator : Nat) : Nat :=
  let whole := numerator / denominator
  let twice := 2 * (numerator % denominator)
  if twice < denominator ∨ (twice = denominator ∧ whole % 2 = 0) then whole else whole + 1

def carried (negative : Bool) (significand : Nat) (exponent : Int) : Binary64 :=
  -- A rounded significand that has carried into a new bit, or left the range.
  let full := significand = 2 * hiddenBit
  let exponent := if full then exponent + 1 else exponent
  if greatestExponent < exponent then .infinite negative
  else .finite negative (if full then hiddenBit else significand) exponent

def ofQuotient (negative : Bool) (numerator denominator : Nat) : Binary64 :=
  if numerator = 0 then zero negative
  else
    let exponent := max (quotientLog2 numerator denominator - 52) leastExponent
    let scaled := scaleDown numerator denominator exponent
    carried negative (nearestEven scaled.1 scaled.2) exponent

def ofScaled (negative : Bool) (significand : Nat) (exponent : Int) : Binary64 :=
  let scaled := scaleDown significand 1 (-exponent)
  ofQuotient negative scaled.1 scaled.2

def ofNat (n : Nat) : Binary64 := ofQuotient false n 1

def ofInt (n : Int) : Except ArithmeticFault Binary64 :=
  -- An integer that rounds beyond the greatest finite number has no counterpart.
  match ofQuotient (n < 0) n.natAbs 1 with
  | .infinite _ => .error .integerTooLarge
  | x => .ok x

def half : Binary64 := ofQuotient false 1 2

def ratio (numerator denominator : Int) : Except ArithmeticFault Binary64 :=
  if denominator = 0 then .error .divisionByZero
  else
    match ofQuotient (decide (numerator < 0) != decide (denominator < 0))
        numerator.natAbs denominator.natAbs with
    | .infinite _ => .error .quotientTooLarge
    | x => .ok x

def ofBits (bits : Nat) : Binary64 :=
  let negative := bits / powerOfTwo 63 % 2 == 1
  let field : Nat := bits / powerOfTwo 52 % powerOfTwo 11
  let fraction : Nat := bits % powerOfTwo 52
  if field = 2047 then (if fraction = 0 then .infinite negative else .undefined)
  else if field = 0 then .finite negative fraction leastExponent
  else .finite negative (hiddenBit + fraction) ((field : Int) - 1075)

def magnitudeBits : Binary64 → Nat
  | .finite _ significand exponent =>
    if significand < hiddenBit then significand
    else (exponent + 1075).toNat * powerOfTwo 52 + (significand - hiddenBit)
  | .infinite _ => 2047 * powerOfTwo 52
  | .undefined => 2047 * powerOfTwo 52 + powerOfTwo 51

def isNegative : Binary64 → Bool
  | .finite negative _ _ => negative
  | .infinite negative => negative
  | .undefined => false

def toBits (x : Binary64) : Nat :=
  (if x.isNegative then powerOfTwo 63 else 0) + x.magnitudeBits

def isZero : Binary64 → Bool
  | .finite _ 0 _ => true
  | _ => false

def neg : Binary64 → Binary64
  | .finite negative significand exponent => .finite (!negative) significand exponent
  | .infinite negative => .infinite (!negative)
  | .undefined => .undefined

def signed (negative : Bool) (magnitude : Nat) : Int :=
  if negative then -(magnitude : Int) else magnitude

def inUnits (unit : Int) (negative : Bool) (significand : Nat) (exponent : Int) : Int :=
  -- `± significand · 2 ^ exponent` in units of `2 ^ unit`, for a unit no larger.
  signed negative (significand * powerOfTwo (exponent - unit).toNat)

def add : Binary64 → Binary64 → Binary64
  | .finite n₁ s₁ e₁, .finite n₂ s₂ e₂ =>
    let unit := min e₁ e₂
    let sum := inUnits unit n₁ s₁ e₁ + inUnits unit n₂ s₂ e₂
    if sum = 0 then zero (n₁ && n₂) else ofScaled (sum < 0) sum.natAbs unit
  | .infinite n₁, .infinite n₂ => if n₁ = n₂ then .infinite n₁ else .undefined
  | .infinite n, .finite .. | .finite .., .infinite n => .infinite n
  | _, _ => .undefined

def sub (x y : Binary64) : Binary64 := x.add y.neg

def mul : Binary64 → Binary64 → Binary64
  | .finite n₁ s₁ e₁, .finite n₂ s₂ e₂ => ofScaled (n₁ != n₂) (s₁ * s₂) (e₁ + e₂)
  | .infinite n₁, .infinite n₂ => .infinite (n₁ != n₂)
  | .infinite n₁, .finite n₂ s _ | .finite n₂ s _, .infinite n₁ =>
    if s = 0 then .undefined else .infinite (n₁ != n₂)
  | _, _ => .undefined

def divNat (x : Binary64) (divisor : Nat) : Binary64 :=
  match x with
  | .finite negative significand exponent =>
    let scaled := scaleDown significand divisor (-exponent)
    ofQuotient negative scaled.1 scaled.2
  | x => x

def lt : Binary64 → Binary64 → Bool
  | .finite n₁ s₁ e₁, .finite n₂ s₂ e₂ =>
    let unit := min e₁ e₂
    inUnits unit n₁ s₁ e₁ < inUnits unit n₂ s₂ e₂
  | .infinite n₁, .infinite n₂ => n₁ && !n₂
  | .infinite n, .finite .. => n
  | .finite .., .infinite n => !n
  | _, _ => false

def larger (x y : Binary64) : Binary64 := if x.lt y then y else x

def smaller (x y : Binary64) : Binary64 := if y.lt x then y else x

def toIntegerBy (rule : Bool → Nat → Nat → Int) : Binary64 → Except ArithmeticFault Int
  | .finite negative significand exponent =>
    let scaled := scaleDown significand 1 (-exponent)
    .ok (rule negative scaled.1 scaled.2)
  | .infinite _ => .error .infinityToInteger
  | .undefined => .error .undefinedToInteger

def floor : Binary64 → Except ArithmeticFault Int :=
  toIntegerBy fun negative numerator denominator =>
    Int.fdiv (signed negative numerator) denominator

def truncate : Binary64 → Except ArithmeticFault Int :=
  toIntegerBy fun negative numerator denominator => signed negative (numerator / denominator)

def roundEven : Binary64 → Except ArithmeticFault Int :=
  toIntegerBy fun negative numerator denominator =>
    signed negative (nearestEven numerator denominator)

def roundHalfUp (x : Binary64) : Except ArithmeticFault Int :=
  if x.lt (zero false) then return -(← (x.neg.add half).floor)
  else (x.add half).floor

def isMultipleOf (divisor : Nat) : Binary64 → Bool
  | .finite _ significand exponent =>
    let scaled := scaleDown significand 1 (-exponent)
    scaled.1 % (scaled.2 * divisor) == 0
  | _ => false

def isIntegral (x : Binary64) : Bool := x.isMultipleOf 1

def squareRootFuel : Nat → Nat → Nat
  | 0, _ => 0
  | fuel + 1, n =>
    if n = 0 then 0
    else
      let root := 2 * squareRootFuel fuel (n / 4)
      if (root + 1) * (root + 1) ≤ n then root + 1 else root

def squareRoot (n : Nat) : Nat := squareRootFuel (n.log2 / 2 + 1) n

def sqrtScaled (significand : Nat) (exponent : Int) : Binary64 :=
  -- The root of an integer with 110 bits and more, in which a last bit that is set stands for all
  -- that was cut off, rounds as the exact root does.
  let widened : Int := 110 + (exponent - 110) % 2
  let radicand := significand * powerOfTwo widened.toNat
  let root := squareRoot radicand
  let sticky := if root * root = radicand then 2 * root else 2 * root + 1
  ofScaled false sticky ((exponent - widened) / 2 - 1)

def sqrt : Binary64 → Except ArithmeticFault Binary64
  | .finite negative significand exponent =>
    if significand = 0 then .ok (.finite negative significand exponent)
    else if negative then .error .squareRootOfNegative
    else .ok (sqrtScaled significand exponent)
  | .infinite negative => if negative then .error .squareRootOfNegative else .ok (.infinite false)
  | .undefined => .ok .undefined

end Binary64

def scaleInteger (n : Int) (scale : Binary64) : Except ArithmeticFault Binary64 := do
  return (← Binary64.ofInt n).mul scale

inductive Amount where
  | whole (n : Int)
  | real (x : Binary64)
  deriving DecidableEq, Repr

namespace Amount

def toReal : Amount → Except ArithmeticFault Binary64
  | .whole n => Binary64.ofInt n
  | .real x => .ok x

def times (n : Int) : Amount → Except ArithmeticFault Amount
  | .whole factor => .ok (.whole (n * factor))
  | .real x => (scaleInteger n x).map .real

def isMultipleOf (divisor : Nat) : Amount → Bool
  | .whole n => n % divisor == 0
  | .real x => x.isMultipleOf divisor

def truncate : Amount → Except ArithmeticFault Int
  | .whole n => .ok n
  | .real x => x.truncate

def roundEven : Amount → Except ArithmeticFault Int
  | .whole n => .ok n
  | .real x => x.roundEven

end Amount

end Thumbnailing
