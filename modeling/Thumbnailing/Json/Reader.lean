import Thumbnailing.Number.Numeral
import Thumbnailing.Text.Utf8
import Thumbnailing.Value

set_option autoImplicit false

/-!
# Reading JSON

A reader takes the characters that are left and yields a value with the characters after it.
Where it stops, the fault says what was expected there; the place is the count of characters
still unread, which the caller turns into line and column. Of two members with one name the
later value counts, in the earlier one's place. Lists and dictionaries may not be nested deeper
than a limit, which the reader is given.
-/

namespace Thumbnailing.Json

open Text

inductive Problem where
  | byteOrderMark
  | noValue
  | noMemberName
  | noColon
  | noComma
  | surplus
  | controlCharacter
  | unterminatedText
  | badEscape
  | badCodeEscape
  deriving DecidableEq, Repr

def Problem.message : Problem → String
  | .byteOrderMark => "Unexpected UTF-8 BOM (decode using utf-8-sig)"
  | .noValue => "Expecting value"
  | .noMemberName => "Expecting property name enclosed in double quotes"
  | .noColon => "Expecting ':' delimiter"
  | .noComma => "Expecting ',' delimiter"
  | .surplus => "Extra data"
  | .controlCharacter => "Invalid control character at"
  | .unterminatedText => "Unterminated string starting at"
  | .badEscape => "Invalid \\escape"
  | .badCodeEscape => "Invalid \\uXXXX escape"

/-- Why reading stopped; `unread` characters were left. -/
inductive Stop where
  | syntactic (problem : Problem) (unread : Nat)
  | numeral (fault : NumeralFault)
  | tooDeep (enclosure : Enclosure)
  deriving DecidableEq, Repr

/-- How many lists and dictionaries may enclose a value, where nothing else is asked for. -/
def usualLimit : Nat := 985

abbrev Reading := Except Stop

def stop {Item : Type} (problem : Problem) (text : List Char) : Reading Item :=
  .error (.syntactic problem text.length)

def isSpace (c : Char) : Bool := c == ' ' || c == '\t' || c == '\n' || c == '\r'

def skipSpace (text : List Char) : List Char := text.dropWhile isSpace

def escaped? : Char → Option Char
  | '"' => some '"'
  | '\\' => some '\\'
  | '/' => some '/'
  | 'b' => some (Char.ofNat 8)
  | 'f' => some (Char.ofNat 12)
  | 'n' => some '\n'
  | 'r' => some '\r'
  | 't' => some '\t'
  | _ => none

def isHighSurrogate (unit : Nat) : Bool := 0xD800 ≤ unit && unit ≤ 0xDBFF

def isLowSurrogate (unit : Nat) : Bool := 0xDC00 ≤ unit && unit ≤ 0xDFFF

def charOfUnit (unit : Nat) : Char :=
  -- No character stands for a surrogate without its partner; it is read as the replacement character.
  if 0xD800 ≤ unit ∧ unit ≤ 0xDFFF then Char.ofNat 0xFFFD else Char.ofNat unit

def charOfPair (high low : Nat) : Char :=
  Char.ofNat (0x10000 + (high - 0xD800) * 0x400 + (low - 0xDC00))

def codeUnit? (text : List Char) : Option Nat :=
  if text.length < 5 then none else hexNumber? (text.take 4)

def codeEscape (text : List Char) : Reading (Char × Nat) :=
  -- Reads what follows the `u` of an escape: one unit, or two that make a pair. The count says how
  -- many characters were read.
  let refused (place : List Char) : Reading (Char × Nat) :=
    .error (.syntactic .badCodeEscape (place.length + 1))
  match codeUnit? text with
  | none => refused text
  | some unit =>
    match text.drop 4 with
    | '\\' :: 'u' :: more =>
      if isHighSurrogate unit ∧ 5 ≤ more.length then
        match codeUnit? more with
        | none => refused more
        | some second =>
          if isLowSurrogate second then .ok (charOfPair unit second, 10)
          else .ok (charOfUnit unit, 4)
      else .ok (charOfUnit unit, 4)
    | _ => .ok (charOfUnit unit, 4)

/-- Reads the rest of a text after its opening quote; `opening` counts the characters left at
that quote, and `skip` those that an escape has already used up. -/
def readTextFrom (opening : Nat) : Nat → List Char → Reading (List Char × List Char)
  | _, [] => .error (.syntactic .unterminatedText opening)
  | skip + 1, _ :: rest => readTextFrom opening skip rest
  | 0, '"' :: rest => .ok ([], rest)
  | 0, ['\\'] => .error (.syntactic .unterminatedText opening)
  | 0, '\\' :: 'u' :: rest => do
    let (c, used) ← codeEscape rest
    let (more, left) ← readTextFrom opening used rest
    return (c :: more, left)
  | 0, '\\' :: c :: rest =>
    match escaped? c with
    | none => stop .badEscape ('\\' :: c :: rest)
    | some plain => do
      let (more, left) ← readTextFrom opening 0 rest
      return (plain :: more, left)
  | 0, c :: rest =>
    if c.toNat < 0x20 then stop .controlCharacter (c :: rest)
    else do
      let (more, left) ← readTextFrom opening 0 rest
      return (c :: more, left)

def readText (text : List Char) : Reading (String × List Char) := do
  let (chars, rest) ← readTextFrom (text.length + 1) 0 text
  return (String.ofList chars, rest)

def takeDigits (text : List Char) : List Char × List Char :=
  (text.takeWhile Char.isDigit, text.dropWhile Char.isDigit)

def wholeDigits : List Char → List Char × List Char
  | '0' :: rest => (['0'], rest)
  | text => takeDigits text

def fractionPart : List Char → List Char × List Char
  | '.' :: rest =>
    let digits := takeDigits rest
    if digits.1.isEmpty then ([], '.' :: rest) else ('.' :: digits.1, digits.2)
  | text => ([], text)

def exponentPart (text : List Char) : List Char × List Char :=
  match text with
  | [] => ([], [])
  | mark :: rest =>
    if mark = 'e' ∨ mark = 'E' then
      let (sign, body) := match rest with
        | '+' :: body => (['+'], body)
        | '-' :: body => (['-'], body)
        | body => ([], body)
      let digits := takeDigits body
      if digits.1.isEmpty then ([], text) else (mark :: sign ++ digits.1, digits.2)
    else ([], text)

def readNumeral (text : List Char) : Reading (Value × List Char) := do
  let (sign, body) := match text with
    | '-' :: body => (['-'], body)
    | body => ([], body)
  let (whole, afterWhole) := wholeDigits body
  if whole.isEmpty then stop .noValue text
  let (fraction, afterFraction) := fractionPart afterWhole
  let (exponent, rest) := exponentPart afterFraction
  let numeral := String.ofList (sign ++ whole ++ fraction ++ exponent)
  if fraction.isEmpty && exponent.isEmpty then
    match integerOfText numeral with
    | .ok n => return (.integer n, rest)
    | .error fault => throw (.numeral fault)
  else return (.real ((numberOfText? numeral).getD .undefined), rest)

def words : List (String × Value) := [
  ("null", .null),
  ("true", .boolean true),
  ("false", .boolean false),
  ("NaN", .real .undefined),
  ("Infinity", .real (.infinite false)),
  ("-Infinity", .real (.infinite true))]

def readWord? (text : List Char) : Option (Value × List Char) :=
  words.findSome? fun word =>
    if word.1.toList.isPrefixOf text then some (word.2, text.drop word.1.length) else none

def readAtom (text : List Char) : Reading (Value × List Char) :=
  match readWord? text with
  | some reading => .ok reading
  | none => readNumeral text

section

variable (limit : Nat)

mutual

/-- Reads a value that is enclosed `depth` times, which may be as often as the limit allows; `fuel`
bounds the steps and twice the length of the text suffices. -/
def readValue : Nat → Nat → List Char → Reading (Value × List Char)
  | 0, _, text => stop .noValue text
  | fuel + 1, depth, text =>
    match text with
    | '"' :: rest => do
      let (content, left) ← readText rest
      return (.text content, left)
    | '[' :: rest =>
      if limit ≤ depth then .error (.tooDeep .list)
      else
        match skipSpace rest with
        | ']' :: left => .ok (.list [], left)
        | body => do
          let (items, left) ← readItems fuel (depth + 1) body
          return (.list items, left)
    | '\x7b' :: rest =>
      if limit ≤ depth then .error (.tooDeep .dictionary)
      else
        match skipSpace rest with
        | '\x7d' :: left => .ok (.dictionary [], left)
        | body => do
          let (entries, left) ← readMembers fuel (depth + 1) [] body
          return (.dictionary entries, left)
    | _ => readAtom text

def readItems : Nat → Nat → List Char → Reading (List Value × List Char)
  | 0, _, text => stop .noValue text
  | fuel + 1, depth, text => do
    let (item, left) ← readValue fuel depth text
    match skipSpace left with
    | ']' :: rest => return ([item], rest)
    | ',' :: rest =>
      let (items, rest) ← readItems fuel depth (skipSpace rest)
      return (item :: items, rest)
    | other => stop .noComma other

def readMembers : Nat → Nat → Entries → List Char → Reading (Entries × List Char)
  | 0, _, _, text => stop .noMemberName text
  | fuel + 1, depth, entries, text =>
    match text with
    | '"' :: body => do
      let (name, left) ← readText body
      match skipSpace left with
      | ':' :: rest =>
        let (value, left) ← readValue fuel depth (skipSpace rest)
        let entries := entries.put name value
        match skipSpace left with
        | '\x7d' :: rest => return (entries, rest)
        | ',' :: rest => readMembers fuel depth entries (skipSpace rest)
        | other => stop .noComma other
      | other => stop .noColon other
    | other => stop .noMemberName other

end

end

def readDocument (text : List Char) (limit : Nat := usualLimit) : Reading Value := do
  if text.head? = some (Char.ofNat 0xFEFF) then
    throw (.syntactic .byteOrderMark text.length)
  let (value, left) ← readValue limit (2 * text.length + 2) 0 (skipSpace text)
  match skipSpace left with
  | [] => return value
  | surplus => throw (.syntactic .surplus surplus.length)

def lineAndColumn (before : List Char) : Nat × Nat :=
  (before.count '\n' + 1, (before.reverse.takeWhile (· != '\n')).length + 1)

def describe (text : List Char) (problem : Problem) (unread : Nat) : String :=
  let position := text.length - unread
  let (line, column) := lineAndColumn (text.take position)
  problem.message ++ ": line " ++ natText line ++ " column " ++ natText column ++
    " (char " ++ natText position ++ ")"

end Thumbnailing.Json
