import Thumbnailing.Number.DecimalText

set_option autoImplicit false

namespace Thumbnailing

inductive NumberStyle where
  | fixed
  | scientific
  -- The precision counts all digits, and zeros at the end are left out.
  | general
  deriving DecidableEq, Repr

namespace NumberStyle

def pointed (keepPoint : Bool) (whole fraction : List Char) : List Char :=
  -- With `keepPoint` a point stands even where no digit follows it.
  if keepPoint then whole ++ '.' :: fraction else withPoint whole fraction

def digitBound : Nat := 1100

def fixedChars (keepPoint : Bool) (precision significand : Nat) (exponent : Int) : List Char :=
  let quotient := Binary64.scaleDown significand 1 (-exponent)
  let places := min precision digitBound
  let digits := natChars (Binary64.nearestEven (quotient.1 * powerOfTen places) quotient.2)
  let padded := List.replicate (places + 1 - digits.length) '0' ++ digits
  let wholeLength := padded.length - places
  pointed keepPoint (padded.take wholeLength)
    (padded.drop wholeLength ++ List.replicate (precision - places) '0')

def rounded (places significand : Nat) (exponent : Int) : Scientific :=
  if significand = 0 then ⟨List.replicate places '0', 0⟩
  else
    let quotient := Binary64.scaleDown significand 1 (-exponent)
    let number := Binary64.roundDigits (min places digitBound) quotient.1 quotient.2
    { number with digits := number.digits ++ List.replicate (places - digitBound) '0' }

def withExponent (keepPoint : Bool) (digits : List Char) (exponent : Int) : List Char :=
  pointed keepPoint (digits.take 1) (digits.drop 1) ++ 'e' :: exponentChars exponent

def positional (keepPoint : Bool) (digits : List Char) (exponent : Int) : List Char :=
  if exponent < 0 then
    pointed keepPoint ['0'] (List.replicate ((-exponent).toNat - 1) '0' ++ digits)
  else
    let wholeLength := exponent.toNat + 1
    let whole := digits.take wholeLength ++ List.replicate (wholeLength - digits.length) '0'
    pointed keepPoint whole (digits.drop wholeLength)

def generalChars (keepZeros : Bool) (places significand : Nat) (exponent : Int) : List Char :=
  let number := rounded places significand exponent
  let kept := if keepZeros then number.digits else dropTrailingZeros number.digits
  let digits := if kept.isEmpty then ['0'] else kept
  if -4 ≤ number.exponent ∧ number.exponent < places then
    positional keepZeros digits number.exponent
  else withExponent keepZeros digits number.exponent

def chars (style : NumberStyle) (alternative : Bool) (precision significand : Nat)
    (exponent : Int) : List Char :=
  match style with
  | .fixed => fixedChars alternative precision significand exponent
  | .scientific =>
    let number := rounded (precision + 1) significand exponent
    withExponent alternative number.digits number.exponent
  | .general => generalChars alternative (max 1 precision) significand exponent

def number (style : NumberStyle) (alternative : Bool) (precision : Nat) : Binary64 → List Char
  | .undefined => "nan".toList
  | .infinite negative => Binary64.signChars negative ++ "inf".toList
  | .finite negative significand exponent =>
    Binary64.signChars negative ++ style.chars alternative precision significand exponent

end NumberStyle

end Thumbnailing
