import Thumbnailing.Number.Binary64
import Thumbnailing.Text.Characters

set_option autoImplicit false

namespace Thumbnailing

open Text

inductive NumeralFault where
  | malformed (text : String)
  | tooLong (digits : Nat)
  deriving DecidableEq, Repr

def digitLimit : Nat := 4300

def digitsValue (digits : List Nat) : Nat :=
  digits.foldl (fun value digit => 10 * value + digit) 0

def digitsInteger (digits : List Nat) : Except NumeralFault Nat :=
  if digitLimit < digits.length then .error (.tooLong digits.length)
  else .ok (digitsValue digits)

def digitRun : List Char → List Nat × List Char
  | [] => ([], [])
  | '_' :: c :: rest =>
    match decimalValue? c with
    | some digit => let run := digitRun rest; (digit :: run.1, run.2)
    | none => ([], '_' :: c :: rest)
  | c :: rest =>
    match decimalValue? c with
    | some digit => let run := digitRun rest; (digit :: run.1, run.2)
    | none => ([], c :: rest)

def leadingDigits (text : List Char) : List Nat × List Char :=
  match text with
  | '_' :: _ => ([], text)
  | _ => digitRun text

def splitSign : List Char → Bool × List Char
  | '-' :: rest => (true, rest)
  | '+' :: rest => (false, rest)
  | text => (false, text)

def integerOfText (text : String) : Except NumeralFault Int := do
  -- The digits are counted before it is asked what follows them, unless it is an underscore.
  let (negative, body) := splitSign (trim isWhiteSpace text.toList)
  let (digits, rest) := leadingDigits body
  if digits.isEmpty || rest.head? == some '_' then throw (.malformed text)
  let magnitude ← digitsInteger digits
  if !rest.isEmpty then throw (.malformed text)
  return Binary64.signed negative magnitude

def decimalNumber (negative : Bool) (digits : List Nat) (exponent : Int) : Binary64 :=
  -- `value · 10 ^ exponent`, without computing powers that lie far outside the range.
  let significant := digits.dropWhile (· == 0)
  let magnitude : Int := (significant.length : Int) + exponent
  if significant.isEmpty then .zero negative
  else if 400 < magnitude then .infinite negative
  else if magnitude < -400 then .zero negative
  else if 0 ≤ exponent then
    .ofQuotient negative (digitsValue significant * powerOfTen exponent.toNat) 1
  else .ofQuotient negative (digitsValue significant) (powerOfTen (-exponent).toNat)

def lowerAscii (c : Char) : Char :=
  if 'A' ≤ c ∧ c ≤ 'Z' then Char.ofNat (c.toNat + 32) else c

def fractionDigits : List Char → List Nat × List Char
  | '.' :: rest => leadingDigits rest
  | rest => ([], rest)

def exponentPart? : List Char → Option Int
  | [] => some 0
  | c :: rest =>
    if c = 'e' ∨ c = 'E' then
      let (negative, body) := splitSign rest
      let (digits, left) := leadingDigits body
      if digits.isEmpty || !left.isEmpty then none
      else some (Binary64.signed negative (digitsValue digits))
    else none

def unsignedDecimal? (negative : Bool) (text : List Char) : Option Binary64 := do
  let (whole, rest) := leadingDigits text
  let (fraction, rest) := fractionDigits rest
  guard (!(whole.isEmpty && fraction.isEmpty))
  let exponent ← exponentPart? rest
  return decimalNumber negative (whole ++ fraction) (exponent - fraction.length)

def numberOfText? (text : String) : Option Binary64 :=
  let (negative, body) := splitSign (trim isWhiteSpace text.toList)
  let word := String.ofList (body.map lowerAscii)
  if word = "inf" ∨ word = "infinity" then some (.infinite negative)
  else if word = "nan" then some .undefined
  else unsignedDecimal? negative body

end Thumbnailing
