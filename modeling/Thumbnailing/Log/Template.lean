import Thumbnailing.Failure
import Thumbnailing.Number.Precision
import Thumbnailing.Task

set_option autoImplicit false

namespace Thumbnailing.Template

open Text

structure Form where
  flags : List Char
  width : Option Nat
  precision : Option Nat

namespace Form

def alternative (form : Form) : Bool := form.flags.contains '#'

def leftAligned (form : Form) : Bool := form.flags.contains '-'

def zeroPadded (form : Form) : Bool := form.flags.contains '0'

def positiveSign (form : Form) : List Char :=
  if form.flags.contains '+' then ['+']
  else if form.flags.contains ' ' then [' ']
  else []

end Form

def codePoint (c : Char) : Nat := c.toNat

def codePoints (chars : List Char) : List Nat := chars.map codePoint

structure Numeral where
  sign : List Char
  marker : List Char
  body : List Char

def padded {Unit : Type} (form : Form) (blank : Unit) (units : List Unit) : List Unit :=
  let blanks := List.replicate (form.width.getD 0 - units.length) blank
  if form.leftAligned then units ++ blanks else blanks ++ units

def laidOut (form : Form) (numeral : Numeral) : List Char :=
  let before := numeral.sign ++ numeral.marker
  if form.zeroPadded && !form.leftAligned then
    let length := before.length + numeral.body.length
    before ++ List.replicate (form.width.getD 0 - length) '0' ++ numeral.body
  else padded form ' ' (before ++ numeral.body)

def textChars (form : Form) (content : String) : List Char :=
  let chars := content.toList
  padded form ' ' (match form.precision with
    | some length => chars.take length
    | none => chars)

def asciiText (content : String) : String :=
  String.ofList (content.toList.flatMap fun c => if c.toNat < 128 then [c] else codeEscape c)

def digitsIn (base n : Nat) : List Char :=
  if _ : n < base ∨ base < 2 then [hexChar n]
  else digitsIn base (n / base) ++ [hexChar (n % base)]
termination_by n
decreasing_by exact Nat.div_lt_self (by omega) (by omega)

def capital (chars : List Char) : List Char := chars.map Char.toUpper

def markerOf : Char → List Char
  | 'o' => "0o".toList
  | 'x' => "0x".toList
  | 'X' => "0X".toList
  | _ => []

def magnitudeChars (letter : Char) (magnitude : Nat) : List Char :=
  match letter with
  | 'o' => digitsIn 8 magnitude
  | 'x' => digitsIn 16 magnitude
  | 'X' => capital (digitsIn 16 magnitude)
  | _ => natChars magnitude

def integerChars (form : Form) (letter : Char) (number : Int) : List Char :=
  -- The precision of an integer is the least count of its digits.
  let digits := magnitudeChars letter number.natAbs
  laidOut form {
    sign := if number < 0 then ['-'] else form.positiveSign
    marker := if form.alternative then markerOf letter else []
    body := List.replicate (form.precision.getD 0 - digits.length) '0' ++ digits }

def integerOf (letter : Char) : Value → Outcome Int
  | .integer number => .ok number
  | .boolean truth => .ok (if truth then 1 else 0)
  | .real number =>
    if (markerOf letter).isEmpty then arithmetically number.truncate
    else .error .mismatchedArguments
  | _ => .error .mismatchedArguments

def realOf : Value → Outcome Binary64
  | .real number => .ok number
  | .integer number => arithmetically (Binary64.ofInt number)
  | .boolean truth => arithmetically (Binary64.ofInt (if truth then 1 else 0))
  | _ => .error .mismatchedArguments

def styleOf (letter : Char) : NumberStyle :=
  match letter.toLower with
  | 'e' => .scientific
  | 'f' => .fixed
  | _ => .general

def standardPrecision : Nat := 6

def realChars (form : Form) (letter : Char) (number : Binary64) : List Char :=
  let written :=
    (styleOf letter).number form.alternative (form.precision.getD standardPrecision) number
  let cased := if letter.isUpper then capital written else written
  match cased with
  | '-' :: body => laidOut form ⟨['-'], [], body⟩
  | body => laidOut form ⟨form.positiveSign, [], body⟩

def codeLimit : Int := 0x110000

def codeOf : Value → Outcome Nat
  | .text content =>
    match content.toList with
    | [c] => .ok c.toNat
    | _ => .error .mismatchedArguments
  | .integer code =>
    if 0 ≤ code ∧ code < codeLimit then .ok code.toNat
    else .error (.outOfRange "%c arg not in range(0x110000)")
  | .boolean truth => .ok (if truth then 1 else 0)
  | _ => .error .mismatchedArguments

def convertedChars? (form : Form) (letter : Char) (value : Value) :
    Option (Outcome (List Char)) :=
  if letter = 's' then some (.ok (textChars form value.display))
  else if letter = 'r' then some (.ok (textChars form value.quoted))
  else if letter = 'a' then some (.ok (textChars form (asciiText value.quoted)))
  else if "diuoxX".toList.contains letter then
    some ((integerOf letter value).map (integerChars form letter))
  else if "eEfFgG".toList.contains letter then
    some ((realOf value).map (realChars form letter))
  else none

def converted? (form : Form) (letter : Char) (value : Value) : Option (Outcome (List Nat)) :=
  if letter = 'c' then
    some ((codeOf value).map fun code => padded form (codePoint ' ') [code])
  else (convertedChars? form letter value).map fun written => written.map codePoints

structure Cursor where
  unread : List Char
  position : Nat
  pending : List Value
  named : Option Entries

def advance (count : Nat) : Task Cursor Unit :=
  .modify fun cursor =>
    { cursor with unread := cursor.unread.drop count, position := cursor.position + count }

def malformed {Result : Type} (message : String) : Task Cursor Result :=
  .fail (.malformedTemplate message)

def nextChar : Task Cursor Char := do
  match (← .read).unread with
  | [] => malformed "incomplete format"
  | c :: _ =>
    advance 1
    return c

def takeWhile (accepts : Char → Bool) : Task Cursor (List Char) := do
  let taken := (← .read).unread.takeWhile accepts
  advance taken.length
  return taken

def takeIf (accepts : Char → Bool) : Task Cursor Bool := do
  match (← .read).unread with
  | c :: _ =>
    if accepts c then advance 1
    return accepts c
  | [] => return false

def takeValue : Task Cursor Value := do
  match (← .read).pending with
  | [] => .fail .mismatchedArguments
  | value :: rest =>
    .modify fun cursor => { cursor with pending := rest }
    return value

def nameLength? : Nat → List Char → Option Nat
  | _, [] => none
  | 0, ')' :: _ => some 0
  | depth + 1, ')' :: rest => (nameLength? depth rest).map (· + 1)
  | depth, '(' :: rest => (nameLength? (depth + 1) rest).map (· + 1)
  | depth, _ :: rest => (nameLength? depth rest).map (· + 1)

def selectNamed (entries : Entries) : Task Cursor Unit := do
  let unread := (← .read).unread
  match nameLength? 0 unread with
  | none => malformed "incomplete format key"
  | some length =>
    advance (length + 1)
    let name := String.ofList (unread.take length)
    match entries.get? name with
    | none => .fail (.missingKey name)
    | some value => .modify fun cursor => { cursor with pending := [value] }

def readName : Task Cursor Unit := do
  if ← takeIf (· == '(') then
    match (← .read).named with
    | none => .fail .mismatchedArguments
    | some entries => selectNamed entries

def decimalNumber (digits : List Char) : Nat :=
  digits.foldl (fun value c => 10 * value + (c.toNat - 48)) 0

def takeInteger : Task Cursor Int := do
  match ← takeValue with
  | .integer number => return number
  | .boolean truth => return if truth then 1 else 0
  | _ => .fail .mismatchedArguments

def widthLimit : Nat := powerOfTwo 63 - 1

def precisionLimit : Nat := powerOfTwo 31 - 1

def readCount (limit : Nat) (tooBig : String) : Task Cursor (Option Nat) := do
  let digits ← takeWhile Char.isDigit
  if digits.isEmpty then return none
  else if limit < decimalNumber digits then malformed tooBig
  else return some (decimalNumber digits)

def readWidth (flags : List Char) : Task Cursor Form := do
  -- A negative width means alignment on the left.
  if ← takeIf (· == '*') then
    let width ← takeInteger
    if width < -(widthLimit : Int) - 1 ∨ (widthLimit : Int) < width then
      .fail (.outOfRange "Python int too large to convert to C ssize_t")
    else
      return ⟨if width < 0 then '-' :: flags else flags, some width.natAbs, none⟩
  else
    return ⟨flags, ← readCount widthLimit "width too big", none⟩

def readPrecision : Task Cursor (Option Nat) := do
  if !(← takeIf (· == '.')) then return none
  if ← takeIf (· == '*') then
    let precision ← takeInteger
    if precision < -(precisionLimit : Int) - 1 ∨ (precisionLimit : Int) < precision then
      .fail (.outOfRange "Python int too large to convert to C int")
    else return some precision.toNat
  else
    return some ((← readCount precisionLimit "precision too big").getD 0)

def isFlag (c : Char) : Bool := "-+ #0".toList.contains c

def isSizeMark (c : Char) : Bool := c == 'h' || c == 'l' || c == 'L'

def unsupportedMessage (letter : Char) (position : Nat) : String :=
  let shown := if 31 ≤ letter.toNat ∧ letter.toNat < 127 then letter else '?'
  "unsupported format character '" ++ String.singleton shown ++ "' (0x" ++
    String.ofList (digitsIn 16 letter.toNat) ++ ") at index " ++ natText position

def conversion : Task Cursor (List Nat) := do
  if ← takeIf (· == '%') then return [codePoint '%']
  readName
  let form ← readWidth (← takeWhile isFlag)
  let form := { form with precision := ← readPrecision }
  discard (takeIf isSizeMark)
  let letter ← nextChar
  let value ← takeValue
  match converted? form letter value with
  | some result => .ofOutcome result
  | none => malformed (unsupportedMessage letter ((← .read).position - 1))

def fill : Nat → Task Cursor (List Nat)
  | 0 => pure []
  | fuel + 1 => do
    let plain := codePoints (← takeWhile (· != '%'))
    if ← takeIf (· == '%') then
      let written ← conversion
      return plain ++ written ++ (← fill fuel)
    else return plain

def message (template : String) (values : List Value) : Outcome (List Nat) :=
  let chars := template.toList
  let named : Option Entries :=
    match values with
    | [.dictionary (entry :: rest)] => some (entry :: rest)
    | _ => none
  if values.isEmpty then .ok (codePoints chars)
  else
    match (fill (chars.length + 1)).run ⟨chars, 0, values, named⟩ with
    | (.error failure, _) => .error failure
    | (.ok written, cursor) =>
      if cursor.pending.isEmpty || named.isSome then .ok written
      else .error .mismatchedArguments

end Thumbnailing.Template
