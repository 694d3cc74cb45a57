import Thumbnailing.Process.Builtin.Words

set_option autoImplicit false

namespace Thumbnailing.Builtin

open Shell

def shift (words : List Bytes) : ShellTask Unit := do
  let number ← match words with
    | [] => pure 1
    | word :: _ => count word
  let shell ← get
  if shell.parameters.length < number then abort "can't shift that many"
  set { shell with parameters := shell.parameters.drop number, status := 0, optionOffset := 0 }

def optionNames : List (String × Char) := [
  ("errexit", 'e'), ("noglob", 'f'), ("ignoreeof", 'I'), ("interactive", 'i'), ("monitor", 'm'),
  ("noexec", 'n'), ("stdin", 's'), ("xtrace", 'x'), ("verbose", 'v'), ("vi", 'V'),
  ("emacs", 'E'), ("noclobber", 'C'), ("allexport", 'a'), ("notify", 'b'), ("nounset", 'u'),
  ("privileged", 'p'), ("nolog", 'l'), ("debug", 'd')]

def switch (isOn : Bool) (letter : Char) (shell : Shell) : Shell :=
  let others := shell.options.filter (· != letter)
  { shell with options := if isOn then letter :: others else others }

def optionListing (isOn : Bool) (shell : Shell) : Bytes :=
  let line (entry : String × Char) : String :=
    let state := shell.hasOption entry.2
    if isOn then
      entry.1 ++ String.ofList (List.replicate (16 - entry.1.length) ' ') ++
        (if state then "on" else "off") ++ "\n"
    else "set " ++ (if state then "-o " else "+o ") ++ entry.1 ++ "\n"
  ascii ((if isOn then "Current option settings\n" else "") ++
    String.join (optionNames.map line))

def namedOption (isOn : Bool) (words : List Bytes) : ShellTask (List Bytes) := do
  match words with
  | [] =>
    emit outputStream (optionListing isOn (← get))
    return []
  | word :: rest =>
    match optionNames.lookup (textOf word) with
    | some letter => modify (switch isOn letter)
    | none => abort ("Illegal option -o " ++ textOf word)
    return rest

def lettersOf (isOn : Bool) (extra : List Char) : List Char → List Bytes →
    ShellTask (List Char × List Bytes)
  | [], words => return ([], words)
  | letter :: more, words => do
    if letter = 'o' then
      lettersOf isOn extra more (← namedOption isOn words)
    else if extra.contains letter then
      let (found, words) ← lettersOf isOn extra more words
      return (letter :: found, words)
    else if optionLetters.contains letter then
      modify (switch isOn letter)
      lettersOf isOn extra more words
    else abort ("Illegal option -" ++ String.ofList [letter])

def switches (extra : List Char) : Nat → List Bytes →
    ShellTask (List Char × List Bytes × Option String)
  | 0, words => return ([], words, none)
  | _, [] => return ([], [], none)
  | fuel + 1, word :: rest => do
    match (textOf word).toList with
    | ['-'] => return ([], rest, some "-")
    | ['-', '-'] => return ([], rest, some "--")
    | sign :: letters =>
      if sign = '-' ∨ sign = '+' then
        let (found, rest) ← lettersOf (sign = '-') extra letters rest
        let (more, left) ← switches extra fuel rest
        return (found ++ more, left)
      else return ([], word :: rest, none)
    | [] => return ([], word :: rest, none)

def setParameters (words : List Bytes) : ShellTask Unit := do
  if words.isEmpty then
    let shell ← get
    write (listing "" (shell.bindings.map Prod.fst) shell)
  else
    let (_, parameters, mark) ← switches [] words.length words
    if mark = some "-" then modify (switch false 'x')
    if mark = some "--" ∨ !parameters.isEmpty then
      modify fun shell => { shell with parameters, optionOffset := 0 }
    setStatus 0

def optionOf? (known : List Char) (letter : Char) : Option Bool :=
  match known with
  | [] => none
  | c :: rest =>
    if c = letter ∧ c ≠ ':' then some (rest.head? == some ':') else optionOf? rest letter

def nextOption (words : List Bytes) : ShellTask Unit := do
  match words with
  | known :: name :: rest =>
    let shell ← get
    let known := (textOf known).toList
    let isSilent := known.head? == some ':'
    let given := if rest.isEmpty then shell.parameters else rest
    let index := ((textOf ((shell.bindings.lookup "OPTIND").getD [])).toNat?.getD 1) - 1
    let offset := shell.optionOffset
    let finish (index offset : Nat) (letter : Char) (status : Nat) : ShellTask Unit := do
      setVariable "OPTIND" (ascii (natText (index + 1)))
      setVariable (textOf name) (ascii (String.ofList [letter]))
      modify fun shell => { shell with optionOffset := offset, status }
    let isInside := 0 < offset
    let word := (textOf (given.getD (if isInside then index - 1 else index) [])).toList
    if !isInside ∧ (word.head? ≠ some '-' ∨ word.length < 2) then finish index 0 '?' 1
    else if !isInside ∧ word = ['-', '-'] then finish (index + 1) 0 '?' 1
    else
      let position := if isInside then offset else 1
      let after := if isInside then index else index + 1
      let letter := word.getD position '?'
      let behind := word.drop (position + 1)
      let left := if behind.isEmpty then 0 else position + 1
      match optionOf? known letter with
      | none =>
        if isSilent then setVariable "OPTARG" (ascii (String.ofList [letter]))
        else
          emit errorStream (ascii ("Illegal option -" ++ String.ofList [letter] ++ "\n"))
          modify (remove "OPTARG")
        finish after left '?' 0
      | some false =>
        setVariable "OPTARG" []
        finish after left letter 0
      | some true =>
        if !behind.isEmpty then
          setVariable "OPTARG" (ascii (String.ofList behind))
          finish after 0 letter 0
        else
          match given[after]? with
          | some value =>
            setVariable "OPTARG" value
            finish (after + 1) 0 letter 0
          | none =>
            if isSilent then
              setVariable "OPTARG" (ascii (String.ofList [letter]))
              finish after 0 ':' 0
            else
              emit errorStream
                (ascii ("No arg for -" ++ String.ofList [letter] ++ " option\n"))
              modify (remove "OPTARG")
              finish after 0 '?' 0
  | _ => abort "Usage: getopts optstring var [arg...]"

end Thumbnailing.Builtin
