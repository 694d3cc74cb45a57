import Thumbnailing.Number.Numeral
import Thumbnailing.Value

set_option autoImplicit false

namespace Thumbnailing

inductive FieldProblem where
  | notText
  | notList
  | notDictionary
  | notBoolean
  | unreadableBoolean
  | notInteger
  | unreadableInteger
  | fractional
  | integerTooLarge
  | notFinite
  | negative
  | notCallable
  | unknownField
  deriving DecidableEq, Repr

namespace FieldProblem

def code : FieldProblem → String
  | .notText => "string_type"
  | .notList => "list_type"
  | .notDictionary => "dict_type"
  | .notBoolean => "bool_type"
  | .unreadableBoolean => "bool_parsing"
  | .notInteger => "int_type"
  | .unreadableInteger => "int_parsing"
  | .fractional => "int_from_float"
  | .integerTooLarge => "int_parsing_size"
  | .notFinite => "finite_number"
  | .negative => "greater_than_equal"
  | .notCallable => "callable_type"
  | .unknownField => "extra_forbidden"

def message : FieldProblem → String
  | .notText => "Input should be a valid string"
  | .notList => "Input should be a valid list"
  | .notDictionary => "Input should be a valid dictionary"
  | .notBoolean => "Input should be a valid boolean"
  | .unreadableBoolean => "Input should be a valid boolean, unable to interpret input"
  | .notInteger => "Input should be a valid integer"
  | .unreadableInteger =>
    "Input should be a valid integer, unable to parse string as an integer"
  | .fractional => "Input should be a valid integer, got a number with a fractional part"
  | .integerTooLarge => "Unable to parse input string as an integer, exceeded maximum size"
  | .notFinite => "Input should be a finite number"
  | .negative => "Input should be greater than or equal to 0"
  | .notCallable => "Input should be callable"
  | .unknownField => "Extra inputs are not permitted"

end FieldProblem

inductive LocationStep where
  | name (name : String)
  | index (index : Nat)
  deriving DecidableEq, Repr

structure FieldFault where
  problem : FieldProblem
  location : List LocationStep
  deriving DecidableEq, Repr

abbrev FieldResult (Field : Type) := Except (List FieldFault) Field

namespace Field

def fault {Field : Type} (location : List LocationStep) (problem : FieldProblem) :
    FieldResult Field :=
  .error [⟨problem, location⟩]

def readText (location : List LocationStep) : Value → FieldResult String
  | .text content => .ok content
  | _ => fault location .notText

def trueWords : List String := ["1", "on", "t", "true", "y", "yes"]

def falseWords : List String := ["0", "off", "f", "false", "n", "no"]

def readTruthWord? (content : String) : Option Bool :=
  let word := String.ofList (content.toList.map lowerAscii)
  if word ∈ trueWords then some true else if word ∈ falseWords then some false else none

def int64Limit : Int := powerOfTwo 63

def isInt64 (n : Int) : Bool := -int64Limit ≤ n && n < int64Limit

def readTruthNumber (location : List LocationStep) (n : Int) : FieldResult Bool :=
  -- Only zero and one are truth values among the integers.
  if n = 0 then .ok false
  else if n = 1 then .ok true
  else if isInt64 n then fault location .unreadableBoolean
  else fault location .notBoolean

def integerOfReal (x : Binary64) : Except FieldProblem Int :=
  match x.truncate with
  | .error _ => .error .notFinite
  | .ok n =>
    if !x.isIntegral then .error .fractional
    else if -int64Limit < n && n < int64Limit then .ok n
    else .error .integerTooLarge

def readBoolean (location : List LocationStep) : Value → FieldResult Bool
  | .boolean truth => .ok truth
  | .text content =>
    match readTruthWord? content with
    | some truth => .ok truth
    | none => fault location .unreadableBoolean
  | .integer n => readTruthNumber location n
  | .real x =>
    match integerOfReal x with
    | .ok n => readTruthNumber location n
    | .error _ => fault location .notBoolean
  | _ => fault location .notBoolean

def dropPlus : List Char → List Char
  -- A plus sign does not count, unless it stands before another sign.
  | '+' :: '-' :: rest => '+' :: '-' :: rest
  | '+' :: rest => rest
  | text => text

def isPaddingZero (c : Char) : Bool := c == '0' || c == '_'

def dropLeadingZeros (text : List Char) : List Char :=
  -- Drops the zeros at the start with the underscores among them, up to a digit or a minus sign.
  -- Before a point and at the end the last of them stays.
  if text.head? != some '0' then text
  else
    match text.dropWhile isPaddingZero with
    | [] => (text.takeWhile isPaddingZero).getLast?.toList
    | '.' :: rest => (text.takeWhile isPaddingZero).getLast?.toList ++ '.' :: rest
    | c :: rest => if c.isDigit || c == '-' then c :: rest else text

def dropZeroFraction (text : List Char) : List Char :=
  -- A point and at least one zero at the end do not count.
  let fraction := (text.dropWhile (· != '.')).drop 1
  if !fraction.isEmpty && fraction.all (· == '0') then text.takeWhile (· != '.') else text

def isSpaced : List Char → Bool
  | [] => true
  | ['_'] => false
  | '_' :: '_' :: _ => false
  | _ :: rest => isSpaced rest

def dropUnderscores (text : List Char) : List Char :=
  if text.head? != some '_' && isSpaced text then text.filter (· != '_') else text

def readNumeral (text : List Char) : Except FieldProblem Int :=
  -- The value of a plain numeral: digits that start with no zero, or the zero alone. The minus sign
  -- counts among the characters of which there can be too many.
  let body := if text.head? = some '-' then text.drop 1 else text
  let digits := body.takeWhile Char.isDigit
  if body = ['0'] then .ok 0
  else if digits.isEmpty || digits.head? = some '0' then .error .unreadableInteger
  else if digitLimit < text.length - body.length + digits.length then .error .integerTooLarge
  else if digits.length < body.length then .error .unreadableInteger
  else .ok (Binary64.signed (body.length < text.length)
    (digitsValue (digits.filterMap Text.decimalValue?)))

def plainMagnitude (text : List Char) : List Char :=
  dropUnderscores <| dropZeroFraction <| dropLeadingZeros text

def plainNumeral : List Char → List Char
  -- A minus sign at the start is set aside while the magnitude behind it is made plain, so zeros
  -- behind it do not count either.
  | '-' :: magnitude => '-' :: plainMagnitude magnitude
  | text => plainMagnitude text

def readIntegerText (content : String) : Except FieldProblem Int :=
  readNumeral <| plainNumeral <| dropPlus <| Text.trim Text.isWhiteSpace content.toList

def readInteger (location : List LocationStep) (value : Value) : FieldResult Int :=
  let result : Except FieldProblem Int :=
    match value with
    | .integer n => .ok n
    | .boolean truth => .ok (if truth then 1 else 0)
    | .real x => integerOfReal x
    | .text content => readIntegerText content
    | _ => .error .notInteger
  match result with
  | .ok n => .ok n
  | .error problem => fault location problem

def readNatural (location : List LocationStep) (value : Value) : FieldResult Nat :=
  match readInteger location value with
  | .ok n => if n < 0 then fault location .negative else .ok n.toNat
  | .error faults => .error faults

def readOptional {Field : Type} (read : Value → FieldResult Field) :
    Value → FieldResult (Option Field)
  | .null => .ok none
  | value => (read value).map some

def readNamed {Field : Type} (entries : Entries) (name : String) (default : Field)
    (read : List LocationStep → Value → FieldResult Field) : FieldResult Field :=
  match entries.get? name with
  | none => .ok default
  | some value => read [.name name] value

def faultsOf {Field : Type} : FieldResult Field → List FieldFault
  | .ok _ => []
  | .error faults => faults

def unknownKeys (names : List String) (entries : Entries) : List FieldFault :=
  (entries.filter fun entry => !names.contains entry.1).map fun entry =>
    ⟨.unknownField, [.name entry.1]⟩

end Field

end Thumbnailing
