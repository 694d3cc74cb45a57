import Thumbnailing.Log.Template
import Thumbnailing.Process.Calculation

set_option autoImplicit false

namespace Thumbnailing.Printing

def charsOfBytes (bytes : Bytes) : List Char := bytes.map fun byte => Char.ofNat byte.toNat

def bytesOfChars (chars : List Char) : Bytes := chars.map fun c => UInt8.ofNat c.toNat

def isOctalDigit (c : Char) : Bool := '0' ≤ c && c ≤ '7'

def octalChar (digits : List Char) : Char :=
  Char.ofNat (digits.foldl (fun value c => 8 * value + (c.toNat - 48)) 0 % 256)

def plainEscapes : List (Char × Char) := [
  ('\\', '\\'), ('a', '\x07'), ('b', '\x08'), ('e', '\x1b'), ('f', '\x0c'), ('n', '\n'),
  ('r', '\r'), ('t', '\t'), ('v', '\x0b')]

def escape (text : List Char) : List Char × List Char :=
  let digits := (text.take 3).takeWhile isOctalDigit
  if !digits.isEmpty then ([octalChar digits], text.drop digits.length)
  else
    match text with
    | [] => (['\\'], [])
    | c :: rest =>
      match plainEscapes.lookup c with
      | some meant => ([meant], rest)
      | none => (['\\', c], rest)

def unescaped : Nat → List Char → List Char × Bool
  | 0, _ | _, [] => ([], false)
  | fuel + 1, '\\' :: rest =>
    if rest.head? = some 'c' then ([], true)
    else
      -- A zero in front of three octal digits does not count as one of them.
      let body := match rest with
        | '0' :: digits => if digits.head?.any isOctalDigit then digits else rest
        | _ => rest
      let (written, rest) := escape body
      let (after, ends) := unescaped fuel rest
      (written ++ after, ends)
  | fuel + 1, c :: rest =>
    let (after, ends) := unescaped fuel rest
    (c :: after, ends)

def allUnescaped (text : List Char) : List Char × Bool := unescaped (text.length + 1) text

structure Argument (Number : Type) where
  number : Number
  complaint : Option String

def judged {Number : Type} (word : List Char) (found : Option (Number × List Char))
    (zero : Number) : Argument Number :=
  match found with
  | some (number, rest) =>
    ⟨number, if rest.isEmpty then none else some "not completely converted"⟩
  | none => ⟨zero, if word.isEmpty then none else some "expected numeric value"⟩

def outOfRange : String := "Numerical result out of range"

def isQuote (c : Option Char) : Bool := c == some '"' || c == some '\''

def integerArgument (least greatest : Int) (word : List Char) : Argument Int :=
  if isQuote word.head? then ⟨((word.drop 1).head?.map Char.toNat).getD 0, none⟩
  else
    let read := judged word (Calculation.integerFrom? word) 0
    let cut := max least (min greatest read.number)
    if read.complaint.isNone && cut != read.number then ⟨cut, some outOfRange⟩
    else { read with number := cut }

def signedArgument : List Char → Argument Int :=
  integerArgument (-Calculation.greatest - 1) Calculation.greatest

def unsignedLimit : Int := powerOfTwo 64

def unsignedArgument (word : List Char) : Argument Int :=
  -- Negative numbers count from the upper end of the range.
  let read := integerArgument (1 - unsignedLimit) (unsignedLimit - 1) word
  { read with number := read.number % unsignedLimit }

def realFrom? (text : List Char) : Option (Binary64 × List Char) :=
  let lengths := (List.range (text.length + 1)).reverse
  lengths.findSome? fun length =>
    if (text.take length).any fun c => c == '_' || (length < text.length && c == ' ') then none
    else (numberOfText? (String.ofList (text.take length))).map (·, text.drop length)

def realArgument (word : List Char) : Argument Binary64 :=
  let body := word.dropWhile Calculation.isSpace
  let read := judged word (realFrom? body) (.zero false)
  match read.number with
  | .infinite _ =>
    if (body.any Char.isDigit) && read.complaint.isNone then { read with complaint := outOfRange }
    else read
  | _ => read

structure Conversion where
  written : List Char
  complaint : Option String
  ends : Bool

def integerText (form : Template.Form) (letter : Char) (number : Int) : List Char :=
  -- With a precision, zeros do not fill the width. An octal number is marked by a zero.
  let flags := if form.precision.isSome then form.flags.filter (· != '0') else form.flags
  let form := { form with flags }
  if letter = 'o' ∧ form.alternative ∧ number ≠ 0 then
    let digits := (Template.digitsIn 8 number.natAbs).length + 1
    Template.integerChars
      { form with
        flags := flags.filter (· != '#')
        precision := some (max digits (form.precision.getD 0)) } letter number
  else if number = 0 then
    Template.integerChars { form with flags := flags.filter (· != '#') } letter number
  else Template.integerChars form letter number

def textForm (form : Template.Form) : Template.Form :=
  { form with flags := form.flags.filter (· == '-') }

def unsignedForm (form : Template.Form) : Template.Form :=
  { form with flags := form.flags.filter fun c => c != '+' && c != ' ' }

def converted? (form : Template.Form) (letter : Char) (word : List Char) : Option Conversion :=
  match letter with
  | 's' => some ⟨Template.textChars (textForm form) (String.ofList word), none, false⟩
  | 'b' =>
    let (chars, ends) := allUnescaped word
    some ⟨Template.textChars (textForm form) (String.ofList chars), none, ends⟩
  | 'c' => some ⟨Template.padded form ' ' [word.headD '\x00'], none, false⟩
  | 'd' | 'i' =>
    let read := signedArgument word
    some ⟨integerText form 'd' read.number, read.complaint, false⟩
  | letter =>
    if "ouxX".toList.contains letter then
      let read := unsignedArgument word
      some ⟨integerText (unsignedForm form) letter read.number, read.complaint, false⟩
    else if "eEfFgG".toList.contains letter then
      let read := realArgument word
      some ⟨Template.realChars form letter read.number, read.complaint, false⟩
    else none

structure Printed where
  output : List Char
  complaints : List String
  words : List (List Char)
  used : Bool
  ended : Bool
  fault : Option String

namespace Printed

def ofWords (words : List (List Char)) : Printed := ⟨[], [], words, false, false, none⟩

def write (chars : List Char) (printed : Printed) : Printed :=
  { printed with output := chars ++ printed.output }

def complain (text : Option String) (printed : Printed) : Printed :=
  { printed with complaints := text.toList ++ printed.complaints }

end Printed

def measure (text : List Char) (words : List (List Char)) :
    Option Int × List Char × List (List Char) :=
  match text with
  | '*' :: rest => (some (signedArgument (words.headD [])).number, rest, words.drop 1)
  | text =>
    let digits := text.takeWhile Char.isDigit
    (if digits.isEmpty then none else some (Calculation.valueIn 10 digits),
      text.drop digits.length, words)

def precisionOf (precision : Option Int) : Option Nat :=
  match precision with
  | none => some 0
  | some n => if n < 0 then none else some n.toNat

def pass : Nat → List Char → List (List Char) → Printed
  | 0, _, words | _, [], words => .ofWords words
  | fuel + 1, '\\' :: rest, words =>
    let (written, rest) := escape rest
    (pass fuel rest words).write written
  | fuel + 1, '%' :: '%' :: rest, words => (pass fuel rest words).write ['%']
  | fuel + 1, '%' :: text, words =>
    let flags := text.takeWhile Template.isFlag
    let (width, rest, words) := measure (text.drop flags.length) words
    let (precision, rest, words) := match rest with
      | '.' :: rest =>
        let (precision, rest, words) := measure rest words
        (precisionOf precision, rest, words)
      | rest => (none, rest, words)
    let flags := if width.any (· < 0) then '-' :: flags else flags
    let form : Template.Form := ⟨flags, width.map Int.natAbs, precision⟩
    match rest with
    | [] => { Printed.ofWords [] with fault := some "missing format character" }
    | letter :: rest =>
      let word := words.headD []
      match converted? form letter word with
      | none =>
        let directive := '%' :: text.take (text.length - rest.length)
        { Printed.ofWords [] with
          fault := some (String.ofList directive ++ ": invalid directive") }
      | some conversion =>
        let after := if conversion.ends then { Printed.ofWords [] with ended := true }
          else pass fuel rest (words.drop 1)
        { after with used := true }.write conversion.written |>.complain
          (conversion.complaint.map fun text => String.ofList word ++ ": " ++ text)
  | fuel + 1, c :: rest, words => (pass fuel rest words).write [c]

def print : Nat → List Char → List (List Char) → Printed
  | 0, _, words => .ofWords words
  | fuel + 1, format, words =>
    let printed := pass (format.length + 1) format words
    if printed.used && !printed.words.isEmpty && !printed.ended && printed.fault.isNone then
      let after := print fuel format printed.words
      { after with
        output := printed.output ++ after.output
        complaints := printed.complaints ++ after.complaints }
    else printed

def formatted (format : Bytes) (words : List Bytes) : Printed :=
  print (words.length + 1) (charsOfBytes format) (words.map charsOfBytes)

def line (words : List Bytes) : Bytes :=
  let chars := words.map charsOfBytes
  let isOpen := chars.head? == some "-n".toList
  let shown := if isOpen then chars.drop 1 else chars
  let (text, ended) := allUnescaped (List.intercalate [' '] shown)
  bytesOfChars (if isOpen || ended then text else text ++ ['\n'])

end Thumbnailing.Printing
