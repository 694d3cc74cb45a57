import Thumbnailing.Number.Binary64

set_option autoImplicit false

namespace Thumbnailing

def digitChar (digit : Nat) : Char := Char.ofNat (48 + digit)

def natChars (n : Nat) : List Char :=
  if n < 10 then [digitChar n] else natChars (n / 10) ++ [digitChar (n % 10)]
termination_by n

def natText (n : Nat) : String := String.ofList (natChars n)

def integerText (n : Int) : String :=
  if n < 0 then "-" ++ natText n.natAbs else natText n.natAbs

/-- `digits` with a point after the first, times `10 ^ exponent`. -/
structure Scientific where
  digits : List Char
  exponent : Int
  deriving DecidableEq, Repr

namespace Binary64

def quotientLog10 (numerator denominator : Nat) : Int :=
  let estimate : Int := ((natChars numerator).length : Int) - (natChars denominator).length
  let below :=
    if 0 ≤ estimate then numerator < denominator * powerOfTen estimate.toNat
    else numerator * powerOfTen (-estimate).toNat < denominator
  if below then estimate - 1 else estimate

def scaleDecimal (numerator denominator : Nat) (exponent : Int) : Nat × Nat :=
  if 0 ≤ exponent then (numerator * powerOfTen exponent.toNat, denominator)
  else (numerator, denominator * powerOfTen (-exponent).toNat)

def scientificOf (digits : Nat) (places : Nat) (exponent : Int) : Scientific :=
  -- A quotient with `places` digits that may have carried into one digit more.
  let chars := natChars digits
  ⟨chars.take places, if places < chars.length then exponent + 1 else exponent⟩

def roundDigits (places numerator denominator : Nat) : Scientific :=
  let exponent := quotientLog10 numerator denominator
  let scaled := scaleDecimal numerator denominator ((places : Int) - 1 - exponent)
  scientificOf (nearestEven scaled.1 scaled.2) places exponent

def readsBack (x : Binary64) (digits : Nat) (exponent : Int) : Bool :=
  let scaled := scaleDecimal digits 1 exponent
  ofQuotient false scaled.1 scaled.2 == x

def neighbourThatReadsBack? (x : Binary64) (scaled : Nat × Nat) (unit : Int) : Option Nat :=
  let lower := scaled.1 / scaled.2
  let nearest := nearestEven scaled.1 scaled.2
  let other := if nearest = lower then lower + 1 else lower
  if readsBack x nearest unit then some nearest
  else if readsBack x other unit then some other
  else none

def shortestFrom (x : Binary64) (numerator denominator : Nat) (exponent : Int) :
    Nat → Nat → Scientific
  | places, 0 => roundDigits places numerator denominator
  | places, remaining + 1 =>
    let unit := exponent + 1 - places
    match neighbourThatReadsBack? x (scaleDecimal numerator denominator (-unit)) unit with
    | some digits => scientificOf digits places exponent
    | none => shortestFrom x numerator denominator exponent (places + 1) remaining

def shortestDigits (significand : Nat) (exponent : Int) : Scientific :=
  let quotient := scaleDown significand 1 (-exponent)
  shortestFrom (.finite false significand exponent) quotient.1 quotient.2
    (quotientLog10 quotient.1 quotient.2) 1 16

end Binary64

/-- Exponents from `-4` to below `scientificFrom` are written positionally; `pointZero` gives
integers a trailing `.0` there. -/
structure DecimalLayout where
  scientificFrom : Int
  pointZero : Bool

def DecimalLayout.full : DecimalLayout := ⟨16, true⟩

def DecimalLayout.six : DecimalLayout := ⟨6, false⟩

def dropTrailingZeros (digits : List Char) : List Char :=
  (digits.reverse.dropWhile (· == '0')).reverse

def withPoint (whole fraction : List Char) : List Char :=
  if fraction.isEmpty then whole else whole ++ '.' :: fraction

def exponentChars (exponent : Int) : List Char :=
  let digits := natChars exponent.natAbs
  (if exponent < 0 then '-' else '+') :: (if digits.length < 2 then '0' :: digits else digits)

def scientificChars (digits : List Char) (exponent : Int) : List Char :=
  withPoint (digits.take 1) (digits.drop 1) ++ 'e' :: exponentChars exponent

def positionalChars (digits : List Char) (exponent : Int) (pointZero : Bool) : List Char :=
  if exponent < 0 then
    '0' :: '.' :: List.replicate ((-exponent).toNat - 1) '0' ++ digits
  else
    let wholeLength := exponent.toNat + 1
    let whole := digits.take wholeLength ++ List.replicate (wholeLength - digits.length) '0'
    let fraction := digits.drop wholeLength
    withPoint whole (if fraction.isEmpty && pointZero then ['0'] else fraction)

def DecimalLayout.chars (layout : DecimalLayout) (number : Scientific) : List Char :=
  let digits := dropTrailingZeros number.digits
  if -4 ≤ number.exponent ∧ number.exponent < layout.scientificFrom then
    positionalChars digits number.exponent layout.pointZero
  else scientificChars digits number.exponent

namespace Binary64

def signChars (negative : Bool) : List Char := if negative then ['-'] else []

def textBy (zeroText : List Char) (magnitude : Nat → Int → List Char) : Binary64 → String
  | .undefined => "nan"
  | .infinite negative => String.ofList (signChars negative ++ "inf".toList)
  | .finite negative significand exponent =>
    String.ofList <| signChars negative ++
      if significand = 0 then zeroText else magnitude significand exponent

def fullText : Binary64 → String :=
  textBy ['0', '.', '0'] fun significand exponent =>
    DecimalLayout.full.chars (shortestDigits significand exponent)

def sixDigitText : Binary64 → String :=
  textBy ['0'] fun significand exponent =>
    let quotient := scaleDown significand 1 (-exponent)
    DecimalLayout.six.chars (roundDigits 6 quotient.1 quotient.2)

end Binary64

end Thumbnailing
