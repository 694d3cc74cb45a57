import Thumbnailing.Process.Printing
import Thumbnailing.Process.Shell

set_option autoImplicit false

namespace Thumbnailing.Program

open Shell

structure Invocation where
  options : List Char
  operands : List Bytes

def invocation (letters : List Char) (long : List (String × Char)) :
    List Bytes → Except String Invocation
  -- Reads words in order, up to the first that is no good. Long options stand for letters.
  | [] => .ok ⟨[], []⟩
  | word :: rest => do
    match (textOf word).toList with
    | ['-', '-'] => return ⟨[], rest⟩
    | '-' :: '-' :: name =>
      match long.lookup (String.ofList name) with
      | some letter =>
        let after ← invocation letters long rest
        return { after with options := letter :: after.options }
      | none => throw ("unrecognized option '--" ++ String.ofList name ++ "'")
    | '-' :: letter :: more =>
      match (letter :: more).find? fun c => !letters.contains c with
      | some c => throw ("invalid option -- '" ++ String.ofList [c] ++ "'")
      | none =>
        let after ← invocation letters long rest
        return { after with options := letter :: more ++ after.options }
    | _ =>
      let after ← invocation letters long rest
      return { after with operands := word :: after.operands }

def report (program message : String) : ShellTask Unit :=
  emit errorStream (ascii (program ++ ": " ++ message ++ "\n"))

def refuse (program message : String) : ShellTask Unit := do
  report program
    (message ++ "\nTry '" ++ program ++ " --help' for more information.")
  setStatus 1

def hasOutput (program : String) (message : String) : ShellTask Bool := do
  if ((← get).streams.lookup outputStream).isSome then return true
  report program message
  setStatus 1
  return false

def quotedChars : List Char := " !\"$&()*;<=>[^\x60|\\?:".toList

def quotedStarts : List Char := "#~".toList

def shownName (name : String) : String :=
  let chars := name.toList
  let isUnusual := chars.any quotedChars.contains || chars.head?.any quotedStarts.contains
  let isBrace := name == "\x7b" || name == "\x7d"
  if chars.contains '\'' then
    if chars.any "!\"$\x60\\".toList.contains then
      "'" ++ "'\\''".intercalate ((chars.splitOn '\'').map String.ofList) ++ "'"
    else "\"" ++ name ++ "\""
  else if chars.isEmpty || isUnusual || isBrace then "'" ++ name ++ "'"
  else name

def takeInput : ShellTask Bytes := do
  let shell ← get
  let elapsed := shell.elapsed.larger shell.inputTime
  set { shell with input := [], elapsed }
  return shell.input

def copyLetters : List Char := "AbeEnstTuv".toList

def copyOptions : List (String × Char) := [
  ("show-all", 'A'), ("number-nonblank", 'b'), ("show-ends", 'E'), ("number", 'n'),
  ("squeeze-blank", 's'), ("show-tabs", 'T'), ("show-nonprinting", 'v')]

def visible (byte : UInt8) : Bytes :=
  let low := byte &&& 127
  let lead := if byte < 128 then [] else ascii "M-"
  if low < 32 then
    if byte == 9 || byte == 10 then [byte] else lead ++ [94, low + 64]
  else if low == 127 then lead ++ ascii "^?"
  else lead ++ [low]

def copiedLine (options : List Char) (number : Nat) (line : Bytes) : Bytes :=
  let has (letters : String) : Bool := letters.toList.any options.contains
  let digits := natText number
  let body := line.takeWhile (· != 10)
  let shown := if has "vAet" then body.flatMap visible else body
  let shown := if has "TAt" then shown.flatMap fun byte => if byte == 9 then ascii "^I" else [byte]
    else shown
  let isNumbered := if has "b" then !body.isEmpty else has "n"
  (if isNumbered then ascii (String.ofList (List.replicate (6 - digits.length) ' ') ++ digits ++
    "\t") else []) ++ shown ++
    (if body.length < line.length then (if has "EAe" then [36, 10] else [10]) else [])

def linesOf (fuel : Nat) (content : Bytes) : List Bytes :=
  match fuel, content with
  | 0, _ | _, [] => []
  | fuel + 1, content =>
    let body := content.takeWhile (· != 10)
    let line := content.take (body.length + 1)
    line :: linesOf fuel (content.drop line.length)

def squeezed : Bool → List Bytes → List Bytes
  | _, [] => []
  | isAfterEmpty, line :: rest =>
    let isEmpty := line == [10]
    if isAfterEmpty && isEmpty then squeezed true rest else line :: squeezed isEmpty rest

def copiedLines (options : List Char) : Nat → List Bytes → List Bytes
  | _, [] => []
  | number, line :: rest =>
    let isCounted := !options.contains 'b' || line.head? != some 10
    copiedLine options number line ::
      copiedLines options (if isCounted then number + 1 else number) rest

def copied (options : List Char) (content : Bytes) : Bytes :=
  if options.all (· == 'u') then content
  else
    let lines := linesOf (content.length + 1) content
    (copiedLines options 1 (if options.contains 's' then squeezed false lines else lines)).flatten

def contentOf (program : String) (operand : Bytes) : ShellTask (Option Bytes) := do
  let fail (message : String) : ShellTask (Option Bytes) := do
    report program (shownName (textOf operand) ++ ": " ++ message)
    setStatus 1
    return none
  if operand == ascii "-" || operand == ascii "/dev/stdin" then return some (← takeInput)
  else if isFolder operand then fail "Is a directory"
  else
    match (← get).content? operand with
    | some content => return some content
    | none => fail "No such file or directory"

def copy (program : String) (words : List Bytes) : ShellTask Unit := do
  match invocation copyLetters copyOptions words with
  | .error message => refuse program message
  | .ok ⟨options, operands⟩ =>
    setStatus 0
    if ← hasOutput program "standard output: Bad file descriptor" then
      let contents ← (if operands.isEmpty then [ascii "-"] else operands).mapM fun operand => do
        let content := (← contentOf program operand).getD []
        if options.isEmpty then emit outputStream content
        return content
      if !options.isEmpty then emit outputStream (copied options contents.flatten)

def units : List (Char × Nat) := [('s', 1), ('m', 60), ('h', 3600), ('d', 86400)]

def interval? (word : Bytes) : Option Binary64 := do
  let body := (textOf word).toList.dropWhile Calculation.isSpace
  if body.any Calculation.isSpace then failure
  let (number, rest) ← Printing.realFrom? body
  let factor ← match rest with
    | [] => some 1
    | [unit] => units.lookup unit
    | _ => none
  if number == .undefined || number.lt (.zero false) then failure
  return number.mul (.ofNat factor)

def sleep (program : String) (words : List Bytes) : ShellTask Unit := do
  match invocation [] [] words with
  | .error message => refuse program message
  | .ok ⟨_, operands⟩ =>
    let invalid := operands.filter fun word => (interval? word).isNone
    if operands.isEmpty then refuse program "missing operand"
    else if invalid.isEmpty then
      let intervals := operands.filterMap interval?
      modify fun shell => { shell with
        elapsed := intervals.foldl Binary64.add shell.elapsed, status := 0 }
    else
      refuse program (("\n" ++ program ++ ": ").intercalate
        (invalid.map fun word => "invalid time interval ‘" ++ textOf word ++ "’"))

def echo (program : String) (words : List Bytes) : ShellTask Unit := do
  setStatus 0
  if ← hasOutput program "write error: Bad file descriptor" then
    let isOpen := words.head? == some (ascii "-n")
    let shown := List.intercalate [32] (if isOpen then words.drop 1 else words)
    emit outputStream (if isOpen then shown else shown ++ [10])

end Thumbnailing.Program
