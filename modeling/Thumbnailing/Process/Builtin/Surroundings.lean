import Thumbnailing.Process.Builtin.Words
import Thumbnailing.Process.Printing

set_option autoImplicit false

namespace Thumbnailing.Builtin

open Shell

def resolved (folder path : String) : String :=
  let whole := if path.startsWith "/" then path else folder ++ "/" ++ path
  let steps := (whole.toList.splitOn '/').foldl (fun (steps : List (List Char)) step =>
    if step.isEmpty || step == ['.'] then steps
    else if step == ['.', '.'] then steps.drop 1
    else step :: steps) []
  "/" ++ "/".intercalate (steps.reverse.map String.ofList)

def currentFolder (shell : Shell) : String := textOf (shell.folder.getD (ascii "/"))

def changeFolder (words : List Bytes) : ShellTask Unit := do
  let (_, words) ← options ['L', 'P'] [] words
  let shell ← get
  let isBack := words.head? == some (ascii "-")
  let target := match words with
    | [] => (shell.bindings.lookup "HOME").getD []
    | word :: _ => if isBack then (shell.bindings.lookup "OLDPWD").getD [] else word
  setStatus 0
  if !target.isEmpty then
    let folder := resolved (currentFolder shell) (textOf target)
    if !folders.contains folder then abort ("can't cd to " ++ textOf target)
    setVariable "OLDPWD" (ascii (currentFolder shell))
    setVariable "PWD" (ascii folder)
    modify fun shell => { shell with folder := some (ascii folder) }
    if isBack then write (ascii (folder ++ "\n"))

def showFolder (words : List Bytes) : ShellTask Unit := do
  let _ ← options ['L', 'P'] [] words
  write (ascii (currentFolder (← get) ++ "\n"))

def permissions (mask : Nat) : String :=
  let part (who : String) (bits : Nat) : String :=
    let letter (bit : Nat) (letter : String) : String :=
      if bits / bit % 2 = 0 then letter else ""
    who ++ "=" ++ letter 4 "r" ++ letter 2 "w" ++ letter 1 "x"
  ",".intercalate [part "u" (mask / 64), part "g" (mask / 8), part "o" mask]

def changeMask (words : List Bytes) : ShellTask Unit := do
  let (found, words) ← options ['S'] [] words
  match words with
  | [] =>
    let mask := (← get).mask
    let digits := [mask / 512 % 8, mask / 64 % 8, mask / 8 % 8, mask % 8]
    write (ascii ((if found.isEmpty then String.join (digits.map natText)
      else permissions mask) ++ "\n"))
  | word :: _ =>
    let text := (textOf word).toList
    if text.isEmpty || !text.all Printing.isOctalDigit then
      abort ("Illegal mode: " ++ textOf word)
    modify fun shell => { shell with mask := Calculation.valueIn 8 text % 512, status := 0 }

def showTimes (_ : List Bytes) : ShellTask Unit :=
  let line := "0m0.000000s 0m0.000000s\n"
  write (ascii (line ++ line))

def aliasLine (entry : String × Bytes) : String := entry.1 ++ "=" ++ quoted entry.2 ++ "\n"

def nameCommands (words : List Bytes) : ShellTask Unit := do
  setStatus 0
  if words.isEmpty then
    write (ascii (String.join ((← get).aliases.reverse.map aliasLine)))
  for word in words do
    let name := word.takeWhile (· != 61)
    if name.length < word.length then
      modify fun shell => { shell with
        aliases := (textOf name, word.drop (name.length + 1)) ::
          shell.aliases.filter fun entry => entry.1 != textOf name }
    else
      match (← get).aliases.lookup (textOf name) with
      | some value => emit outputStream (ascii (aliasLine (textOf name, value)))
      | none =>
        emit errorStream (ascii ("alias: " ++ textOf name ++ " not found\n"))
        setStatus 1

def forgetNames (words : List Bytes) : ShellTask Unit := do
  let (found, words) ← options ['a'] [] words
  setStatus 0
  if !found.isEmpty then modify fun shell => { shell with aliases := [] }
  for word in words do
    if ((← get).aliases.lookup (textOf word)).isNone then
      emit errorStream (ascii ("unalias: " ++ textOf word ++ " not found\n"))
      setStatus 1
    modify fun shell => { shell with
      aliases := shell.aliases.filter fun entry => entry.1 != textOf word }

def succeed (_ : List Bytes) : ShellTask Unit := setStatus 0

end Thumbnailing.Builtin
