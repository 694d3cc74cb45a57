import Thumbnailing.Process.Builtin.Words
import Thumbnailing.Process.Printing

set_option autoImplicit false

namespace Thumbnailing.Builtin

open Shell

def echo (words : List Bytes) : ShellTask Unit := write (Printing.line words)

def print (words : List Bytes) : ShellTask Unit := do
  match ← plainWords words with
  | [] => abort "usage: printf format [arg ...]"
  | format :: values =>
    let printed := Printing.formatted format values
    for complaint in printed.complaints do complain complaint
    if let some fault := printed.fault then complain fault
    write (Printing.bytesOfChars printed.output)
    if !printed.complaints.isEmpty then setStatus 1
    if printed.fault.isSome then throw .failed

def test (words : List Bytes) : ShellTask Unit := do
  match Test.answer (← get) words with
  | .ok answer => setStatus (if answer then 0 else 1)
  | .error message => abort message

def bracketTest (words : List Bytes) : ShellTask Unit :=
  if words.getLast? == some (ascii "]") then test words.dropLast else abort "missing ]"

def takeLine (isPlain : Bool) : Bytes → List MarkedByte × Bytes × Bool
  | [] => ([], [], false)
  | 92 :: byte :: rest =>
    if isPlain then
      if byte = 10 then ([⟨92, false⟩], rest, true)
      else
        let (line, left, isWhole) := takeLine isPlain rest
        (⟨92, false⟩ :: (if byte = 0 then line else ⟨byte, false⟩ :: line), left, isWhole)
    else
      let (line, left, isWhole) := takeLine isPlain rest
      (if byte = 10 ∨ byte = 0 then line else ⟨byte, true⟩ :: line, left, isWhole)
  | byte :: rest =>
    if byte = 10 then ([], rest, true)
    else
      let (line, left, isWhole) := takeLine isPlain rest
      (if byte = 0 ∨ (byte = 92 ∧ !isPlain) then line else ⟨byte, false⟩ :: line, left, isWhole)

def isSeparator (separators : Bytes) (marked : MarkedByte) : Bool :=
  !marked.quoted && separators.contains marked.byte

def isBlankSeparator (separators : Bytes) (marked : MarkedByte) : Bool :=
  isSeparator separators marked && Fields.isBlankByte marked.byte

def behindSeparator (separators : Bytes) (text : List MarkedByte) : List MarkedByte :=
  let text := text.dropWhile (isBlankSeparator separators)
  let text := if text.head?.any (isSeparator separators) then text.drop 1 else text
  text.dropWhile (isBlankSeparator separators)

def lineFields (separators : Bytes) : Nat → List MarkedByte → List Bytes
  | 0, _ => []
  | fuel + 1, text =>
    let text := text.dropWhile (isBlankSeparator separators)
    let field := text.takeWhile fun marked => !isSeparator separators marked
    let after := behindSeparator separators (text.drop field.length)
    let bytes (text : List MarkedByte) : Bytes := text.map MarkedByte.byte
    if fuel = 0 then
      if after.isEmpty then [bytes field]
      else [bytes (text.reverse.dropWhile (isBlankSeparator separators)).reverse]
    else bytes field :: lineFields separators fuel after

def readLine (words : List Bytes) : ShellTask Unit := do
  let (found, names) ← options ['r'] ['p'] words
  if names.isEmpty then abort "arg count"
  let shell ← get
  let isPlain := found.any fun option => option.1 == 'r'
  let (line, left, isWhole) := takeLine isPlain shell.input
  let separators := (shell.bindings.lookup "IFS").getD [32, 9, 10]
  modify fun shell => { shell with
    input := left
    elapsed := if isWhole then shell.elapsed else shell.elapsed.larger shell.inputTime }
  for (name, value) in names.zip (lineFields separators names.length line) do
    let (name, _) ← definition name
    setVariable name value
  setStatus (if isWhole then 0 else 1)

end Thumbnailing.Builtin
