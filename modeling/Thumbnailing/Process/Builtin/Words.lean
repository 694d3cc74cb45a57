import Thumbnailing.Process.Expansion
import Thumbnailing.Process.Test

set_option autoImplicit false

namespace Thumbnailing.Builtin

open Shell

def greatestCount : Int := powerOfTwo 31 - 1

def count (word : Bytes) : ShellTask Nat := do
  let refuse : ShellTask Nat := abort ("Illegal number: " ++ textOf word)
  match Test.integerOf word with
  | .ok value => if 0 ≤ value ∧ value ≤ greatestCount then return value.toNat else refuse
  | .error _ => refuse

def options (known valued : List Char) : List Bytes →
    ShellTask (List (Char × Bytes) × List Bytes)
  | [] => return ([], [])
  | word :: rest => do
    match (textOf word).toList with
    | ['-', '-'] => return ([], rest)
    | '-' :: letter :: more =>
      let letters := letter :: more
      let plain := letters.takeWhile known.contains
      match letters.drop plain.length, rest with
      | [], rest =>
        let (after, left) ← options known valued rest
        return (plain.map (·, []) ++ after, left)
      | [c], value :: rest =>
        if !valued.contains c then abort ("Illegal option -" ++ String.ofList [c])
        let (after, left) ← options known valued rest
        return (plain.map (·, []) ++ (c, value) :: after, left)
      | [c], [] =>
        if !valued.contains c then abort ("Illegal option -" ++ String.ofList [c])
        abort ("No arg for -" ++ String.ofList [c] ++ " option")
      | c :: value, rest =>
        if !valued.contains c then abort ("Illegal option -" ++ String.ofList [c])
        let (after, left) ← options known valued rest
        return (plain.map (·, []) ++ (c, ascii (String.ofList value)) :: after, left)
    | _ => return ([], word :: rest)

def plainWords (words : List Bytes) : ShellTask (List Bytes) := do
  return (← options [] [] words).2

def definition (word : Bytes) : ShellTask (String × Option Bytes) := do
  let name := word.takeWhile (· != 61)
  if !Word.isName (textOf name).toList then abort (textOf name ++ ": bad variable name")
  return (textOf name,
    if name.length < word.length then some (word.drop (name.length + 1)) else none)

def write (bytes : Bytes) : ShellTask Unit := do
  let shell ← get
  if (shell.streams.lookup outputStream).isSome || bytes.isEmpty then
    emit outputStream bytes
    setStatus 0
  else
    complain (shell.caller.getD "" ++ ": I/O error")
    setStatus 1

def quotedFuel : Nat → List Char → String
  | 0, _ => ""
  | fuel + 1, text =>
    let plain := text.takeWhile (· != '\'')
    let quotes := (text.drop plain.length).takeWhile (· == '\'')
    let start := "'" ++ String.ofList plain ++ "'"
    if quotes.isEmpty then start
    else start ++ "\"" ++ String.ofList quotes ++ "\"" ++
      (if plain.length + quotes.length = text.length then ""
        else quotedFuel fuel (text.drop (plain.length + quotes.length)))

def quoted (value : Bytes) : String :=
  let text := (textOf value).toList
  quotedFuel (text.length + 1) text

def sortedNames (names : List String) : List String :=
  names.mergeSort fun first second => decide (first ≤ second)

def listing (start : String) (names : List String) (shell : Shell) : Bytes :=
  ascii (String.join ((sortedNames names).map fun name =>
    start ++ name ++ ((shell.bindings.lookup name).map fun value => "=" ++ quoted value).getD "" ++
      "\n"))

end Thumbnailing.Builtin
