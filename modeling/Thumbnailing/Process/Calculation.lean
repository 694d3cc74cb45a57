import Thumbnailing.Number.Binary64
import Thumbnailing.Text.Utf8

set_option autoImplicit false

namespace Thumbnailing

inductive CalculationFault where
  | noOperand
  | noColon
  | noParenthesis
  | surplus
  | divisionByZero
  | illegalNumber (text : String)
  deriving DecidableEq, Repr

def CalculationFault.message (expression : String) : CalculationFault → String
  | .illegalNumber text => "Illegal number: " ++ text
  | fault =>
    let problem := match fault with
      | .noOperand => "expecting primary"
      | .noColon => "expecting ':'"
      | .noParenthesis => "expecting ')'"
      | .divisionByZero => "division by zero"
      | _ => "expecting EOF"
    "arithmetic expression: " ++ problem ++ ": \"" ++ expression ++ "\""

namespace Calculation

def greatest : Int := powerOfTwo 63 - 1

def wrapped (value : Int) : Int := Int.bmod value (powerOfTwo 64)

def clamped (value : Int) : Int := max (-greatest - 1) (min greatest value)

def digitValue (c : Char) : Nat := (Text.hexValue? c).getD 36

def valueIn (base : Nat) (digits : List Char) : Nat :=
  digits.foldl (fun value c => base * value + digitValue c) 0

def isHexMark (c : Char) : Bool := c == 'x' || c == 'X'

def numeralFrom (text : List Char) : Nat × Nat :=
  -- The longest numeral at the start of a text, and how many characters it has. One that starts
  -- with zero is octal, or hexadecimal if an `x` with a digit follows.
  let digitsIn (base : Nat) (text : List Char) : List Char :=
    text.takeWhile fun c => digitValue c < base
  match text with
  | '0' :: mark :: rest =>
    let digits := digitsIn 16 rest
    if isHexMark mark && !digits.isEmpty then (valueIn 16 digits, digits.length + 2)
    else
      let digits := digitsIn 8 text
      (valueIn 8 digits, digits.length)
  | text =>
    let digits := digitsIn 10 text
    (valueIn 10 digits, digits.length)

def isSpace (c : Char) : Bool := c == ' ' || ('\t' ≤ c && c ≤ '\r')

def integerFrom? (text : List Char) : Option (Int × List Char) :=
  let body := text.dropWhile isSpace
  let signed := body.head? == some '-' || body.head? == some '+'
  let digits := if signed then body.drop 1 else body
  let (magnitude, length) := numeralFrom digits
  if length = 0 then none
  else some (if body.head? == some '-' then -(magnitude : Int) else magnitude, digits.drop length)

inductive Symbol where
  | number (value : Int)
  | name (name : String)
  | operator (text : String)
  | unknown (c : Char)
  deriving DecidableEq, Repr

def operators : List (String × Nat) := [
  ("||", 1), ("&&", 2), ("|", 3), ("^", 4), ("&", 5), ("==", 6), ("!=", 6), ("<=", 7),
  (">=", 7), ("<<", 8), (">>", 8), ("<", 7), (">", 7), ("+", 9), ("-", 9), ("*", 10),
  ("/", 10), ("%", 10)]

def settingOperators : List (String × String) := [
  ("<<=", "<<"), (">>=", ">>"), ("+=", "+"), ("-=", "-"), ("*=", "*"), ("/=", "/"), ("%=", "%"),
  ("&=", "&"), ("^=", "^"), ("|=", "|")]

def signs : List String :=
  settingOperators.map Prod.fst ++ operators.map Prod.fst ++ ["=", "(", ")", "!", "~", "?", ":"]

def startsName (c : Char) : Bool := c.isAlpha || c == '_'

def isNameChar (c : Char) : Bool := c.isAlphanum || c == '_'

def signAt? (text : List Char) : Option String :=
  let found := signs.filter fun sign => sign.toList.isPrefixOf text
  ((found.find? fun sign => sign.length == 3).or
    (found.find? fun sign => sign.length == 2)).or found.head?

def symbolsFrom : Nat → List Char → List Symbol
  | 0, _ | _, [] => []
  | fuel + 1, c :: rest =>
    let text := c :: rest
    if c == ' ' || c == '\t' || c == '\n' then symbolsFrom fuel rest
    else if c.isDigit then
      let (value, length) := numeralFrom text
      .number (clamped value) :: symbolsFrom fuel (text.drop length)
    else if startsName c then
      let name := text.takeWhile isNameChar
      .name (String.ofList name) :: symbolsFrom fuel (text.drop name.length)
    else
      match signAt? text with
      | some sign => .operator sign :: symbolsFrom fuel (text.drop sign.length)
      | none => .unknown c :: symbolsFrom fuel rest

def truthValue (truth : Bool) : Int := if truth then 1 else 0

def shiftCount (count : Int) : Nat := (count % 64).toNat

def combine (operator : String) (x y : Int) : Option Int :=
  match operator with
  | "||" => some (truthValue (x != 0 || y != 0))
  | "&&" => some (truthValue (x != 0 && y != 0))
  | "==" => some (truthValue (x == y))
  | "!=" => some (truthValue (x != y))
  | "<=" => some (truthValue (x ≤ y))
  | ">=" => some (truthValue (y ≤ x))
  | "<" => some (truthValue (x < y))
  | ">" => some (truthValue (y < x))
  | "+" => some (wrapped (x + y))
  | "-" => some (wrapped (x - y))
  | "*" => some (wrapped (x * y))
  | "/" => if y = 0 then none else some (wrapped (x.tdiv y))
  | "%" => if y = 0 then none else some (x.tmod y)
  | "<<" => some (wrapped (x * powerOfTwo (shiftCount y)))
  | ">>" => some (x / powerOfTwo (shiftCount y))
  | "&" => some ((BitVec.ofInt 64 x &&& BitVec.ofInt 64 y).toInt)
  | "|" => some ((BitVec.ofInt 64 x ||| BitVec.ofInt 64 y).toInt)
  | "^" => some ((BitVec.ofInt 64 x ^^^ BitVec.ofInt 64 y).toInt)
  | _ => none

abbrev Texts := String → String

structure Progress where
  value : Int
  assigned : List (String × Int)
  rest : List Symbol

def variableValue (texts : Texts) (assigned : List (String × Int)) (name : String) :
    Except CalculationFault Int :=
  match assigned.lookup name with
  | some value => .ok value
  | none =>
    let text := texts name
    if text.toList.all isSpace then .ok 0
    else
      match integerFrom? text.toList with
      | some (value, rest) =>
        if rest.all isSpace then .ok (clamped value) else .error (.illegalNumber text)
      | none => .error (.illegalNumber text)

def combineOrFail (operator : String) (x y : Int) : Except CalculationFault Int :=
  match combine operator x y with
  | some value => .ok value
  | none => .error .divisionByZero

mutual

def expression (texts : Texts) : Nat → Bool → List (String × Int) → List Symbol →
    Except CalculationFault Progress
  | 0, _, _, _ => .error .noOperand
  | fuel + 1, needed, assigned, symbols => do
    match symbols with
    | .name name :: .operator text :: rest =>
      if text = "=" then
        let result ← expression texts fuel needed assigned rest
        return if needed then
            { result with assigned := (name, result.value) :: result.assigned }
          else result
      else
        match settingOperators.lookup text with
        | some operator =>
          let result ← expression texts fuel needed assigned rest
          if needed then
            let before ← variableValue texts result.assigned name
            let value ← combineOrFail operator before result.value
            return ⟨value, (name, value) :: result.assigned, result.rest⟩
          else return result
        | none => conditional texts fuel needed assigned symbols
    | symbols => conditional texts fuel needed assigned symbols

def conditional (texts : Texts) : Nat → Bool → List (String × Int) → List Symbol →
    Except CalculationFault Progress
  | 0, _, _, _ => .error .noOperand
  | fuel + 1, needed, assigned, symbols => do
    let condition ← level texts fuel 0 needed assigned symbols
    match condition.rest with
    | .operator "?" :: rest =>
      let holds := condition.value != 0
      let yes ← expression texts fuel (needed && holds) condition.assigned rest
      match yes.rest with
      | .operator ":" :: rest =>
        let no ← conditional texts fuel (needed && !holds) yes.assigned rest
        return { no with value := if holds then yes.value else no.value }
      | _ => throw .noColon
    | _ => return condition

def operand (texts : Texts) : Nat → Bool → List (String × Int) → List Symbol →
    Except CalculationFault Progress
  | 0, _, _, _ => .error .noOperand
  | fuel + 1, needed, assigned, symbols => do
    match symbols with
    | .number value :: rest => return ⟨value, assigned, rest⟩
    | .name name :: rest =>
      let value ← if needed then variableValue texts assigned name else pure 0
      return ⟨value, assigned, rest⟩
    | .operator "(" :: rest =>
      let result ← expression texts fuel needed assigned rest
      match result.rest with
      | .operator ")" :: rest => return { result with rest }
      | _ => throw .noParenthesis
    | .operator "-" :: rest =>
      let result ← operand texts fuel needed assigned rest
      return { result with value := wrapped (-result.value) }
    | .operator "+" :: rest => operand texts fuel needed assigned rest
    | .operator "!" :: rest =>
      let result ← operand texts fuel needed assigned rest
      return { result with value := truthValue (result.value == 0) }
    | .operator "~" :: rest =>
      let result ← operand texts fuel needed assigned rest
      return { result with value := -result.value - 1 }
    | _ => throw .noOperand

def level (texts : Texts) : Nat → Nat → Bool → List (String × Int) → List Symbol →
    Except CalculationFault Progress
  | 0, _, _, _, _ => .error .noOperand
  | fuel + 1, weakest, needed, assigned, symbols => do
    joined texts fuel weakest needed (← operand texts fuel needed assigned symbols)

def joined (texts : Texts) : Nat → Nat → Bool → Progress →
    Except CalculationFault Progress
  | 0, _, _, progress => .ok progress
  | fuel + 1, weakest, needed, progress => do
    match progress.rest with
    | .operator text :: rest =>
      match operators.lookup text with
      | some strength =>
        if strength ≤ weakest then return progress
        let settled := (text == "&&" && progress.value == 0) ||
          (text == "||" && progress.value != 0)
        let right ← level texts fuel strength (needed && !settled) progress.assigned rest
        let value ← if needed then combineOrFail text progress.value right.value else pure 0
        joined texts fuel weakest needed { right with value }
      | none => return progress
    | _ => return progress

end

def evaluate (texts : Texts) (text : List Char) :
    Except CalculationFault (Int × List (String × Int)) := do
  let symbols := symbolsFrom (text.length + 1) text
  let result ← expression texts (8 * symbols.length + 8) true [] symbols
  if result.rest.isEmpty then return (result.value, result.assigned) else throw .surplus

end Calculation

end Thumbnailing
