import Thumbnailing.Process.Calculation
import Thumbnailing.Process.Shell

set_option autoImplicit false

namespace Thumbnailing.Test

inductive Operator where
  | unary (letter : Char)
  | binary (name : String)
  | negation
  | both
  | either
  | opening
  | closing
  deriving DecidableEq, Repr

def unaryLetters : List Char := "rwxefdcbpugkstznhOGLS".toList

def binaryNames : List String := [
  "=", "!=", "<", ">", "-eq", "-ne", "-gt", "-ge", "-lt", "-le", "-nt", "-ot", "-ef"]

def operator? (word : Bytes) : Option Operator :=
  match (Shell.textOf word).toList with
  | ['!'] => some .negation
  | ['('] => some .opening
  | [')'] => some .closing
  | ['-', 'a'] => some .both
  | ['-', 'o'] => some .either
  | ['-', letter] => if unaryLetters.contains letter then some (.unary letter) else none
  | text =>
    if binaryNames.contains (String.ofList text) then some (.binary (String.ofList text)) else none

def isBinary (word : Bytes) : Bool :=
  match operator? word with
  | some (.binary _) => true
  | _ => false

def isOperand : List Bytes → Bool
  -- Whether the first word is an operand, though it can be an operator on one.
  | [_, _] => false
  | _ :: second :: _ => isBinary second
  | _ => true

def operatorAt? (words : List Bytes) : Option Operator :=
  match words.head?.bind operator? with
  | some (.unary letter) => if isOperand words then none else some (.unary letter)
  | some .opening => if words.length = 1 then none else some .opening
  | found => found

abbrev Answer := Except String (Bool × List Bytes)

def integerOf (word : Bytes) : Except String Int :=
  let text := Shell.textOf word
  let body := text.toList.dropWhile Calculation.isSpace
  let signed := body.head? == some '-' || body.head? == some '+'
  let digits := (if signed then body.drop 1 else body).takeWhile Char.isDigit
  let rest := (if signed then body.drop 1 else body).drop digits.length
  let magnitude : Int := Calculation.valueIn 10 digits
  let value := if body.head? == some '-' then -magnitude else magnitude
  if digits.isEmpty || !rest.all Calculation.isSpace || Calculation.clamped value != value then
    .error ("Illegal number: " ++ text)
  else .ok value

def precedes : Bytes → Bytes → Bool
  | [], second => !second.isEmpty
  | _ :: _, [] => false
  | x :: first, y :: second => x < y || (x == y && precedes first second)

def compare (name : String) (left right : Bytes) : Except String Bool :=
  let numbers (holds : Int → Int → Bool) : Except String Bool := do
    return holds (← integerOf left) (← integerOf right)
  match name with
  | "=" => .ok (left == right)
  | "!=" => .ok (left != right)
  | "<" => .ok (precedes left right)
  | ">" => .ok (precedes right left)
  | "-eq" => numbers fun x y => x == y
  | "-ne" => numbers fun x y => x != y
  | "-gt" => numbers fun x y => y < x
  | "-ge" => numbers fun x y => y ≤ x
  | "-lt" => numbers fun x y => x < y
  | "-le" => numbers fun x y => x ≤ y
  | _ => .ok false

def askFile (shell : Shell) (letter : Char) (path : Bytes) : Bool :=
  let name := Shell.textOf path
  let isFolder := Shell.isFolder path
  let isDevice := Shell.emptyFiles.contains name
  let isProgram := Shell.programFiles.contains name
  let exists? := isFolder || (shell.content? path).isSome
  match letter with
  | 'e' | 'r' | 'w' | 'O' | 'G' => exists?
  | 'x' => isFolder || isProgram
  | 'f' => exists? && !isFolder && !isDevice
  | 'd' => isFolder
  | 'c' => isDevice
  | 's' => isFolder || isProgram || ((shell.content? path).getD []).length != 0
  | 'h' | 'L' => name == "/bin"
  | _ => false

def ask (shell : Shell) (letter : Char) (word : Bytes) : Except String Bool :=
  match letter with
  | 'z' => .ok word.isEmpty
  | 'n' => .ok (!word.isEmpty)
  | 't' => (integerOf word).map fun _ => false
  | letter => .ok (askFile shell letter word)

mutual

def alternatives (shell : Shell) : Nat → Bool → List Bytes → Answer
  -- Alternatives. With `plain` the first word is an operand whatever it looks like.
  | 0, _, words => .ok (false, words)
  | fuel + 1, plain, words => do
    let (first, rest) ← conditions shell fuel plain words
    if operatorAt? rest = some .either then
      let (second, rest) ← alternatives shell fuel false rest.tail
      return (first || second, rest)
    else return (first, rest)

def conditions (shell : Shell) : Nat → Bool → List Bytes → Answer
  | 0, _, words => .ok (false, words)
  | fuel + 1, plain, words => do
    let (first, rest) ← condition shell fuel plain words
    if operatorAt? rest = some .both then
      let (second, rest) ← conditions shell fuel false rest.tail
      return (first && second, rest)
    else return (first, rest)

def condition (shell : Shell) : Nat → Bool → List Bytes → Answer
  | 0, _, words => .ok (false, words)
  | fuel + 1, plain, words => do
    if !plain ∧ operatorAt? words = some .negation then
      let (answer, rest) ← condition shell fuel false words.tail
      return (!answer, rest)
    else single shell fuel plain words

def single (shell : Shell) : Nat → Bool → List Bytes → Answer
  | 0, _, words => .ok (false, words)
  | fuel + 1, plain, words => do
    match if plain then none else operatorAt? words, words with
    | _, [] => return (false, [])
    | some .opening, _ :: rest =>
      if operatorAt? rest = some .closing then return (false, rest.tail)
      let (answer, rest) ← alternatives shell fuel false rest
      if operatorAt? rest = some .closing then return (answer, rest.tail)
      else throw "closing paren expected"
    | some (.unary letter), _ :: operand :: rest => return (← ask shell letter operand, rest)
    | _, left :: rest =>
      match operatorAt? rest, rest.tail with
      | some (.binary name), right :: rest => return (← compare name left right, rest)
      | some (.binary name), [] => throw (name ++ ": argument expected")
      | _, _ => return (!left.isEmpty, rest)

end

def whole (shell : Shell) (plain : Bool) (words : List Bytes) : Except String Bool := do
  let (answer, rest) ← alternatives shell (4 * words.length + 4) plain words
  if rest.isEmpty then return answer
  let last := Shell.textOf (words.getD (words.length - rest.length - 1) [])
  throw (if last.isEmpty then "unexpected operator" else last ++ ": unexpected operator")

def answer (shell : Shell) (words : List Bytes) : Except String Bool :=
  -- The answer to a test. Few words follow rules of their own: a word between two others is an
  -- operator if it can be one, and parentheses around words, or a negation before them, come next.
  match words with
  | [] => .ok false
  | first :: rest =>
    let isShort := words.length = 3 ∨ words.length = 4
    if words.length = 3 ∧ rest.head?.any isBinary then whole shell true words
    else if isShort ∧ operator? first = some .opening ∧
        words.getLast?.bind operator? = some .closing then whole shell false rest.dropLast
    else if isShort ∧ operator? first = some .negation then (answer shell rest).map (!·)
    else whole shell false words

end Thumbnailing.Test
