import Thumbnailing.Process.Builtin
import Thumbnailing.Process.Program
import Thumbnailing.Process.Redirection

set_option autoImplicit false

namespace Thumbnailing.Shell

inductive Meaning where
  | nothing
  | special
  | regular
  | function (body : Script)
  | program (name : String)
  | missing

def programNames : List String :=
  ["sh", "cat", "sleep", "echo", "printf", "true", "false", "test", "["]

def programFolders : List String := ["/usr/bin", "/bin"]

def runningSpecials : List String := ["eval", "exec", "."]

def runningRegulars : List String := ["command", "type", "hash"]

def isSpecial (name : String) : Bool :=
  runningSpecials.contains name || Builtin.special.any fun entry => entry.1 == name

def isRegular (name : String) : Bool :=
  runningRegulars.contains name || Builtin.regular.any fun entry => entry.1 == name

def programPath? (shell : Shell) (name : String) : Option String :=
  if name.toList.contains '/' then
    programFolders.findSome? fun folder =>
      (programNames.find? fun program => name == folder ++ "/" ++ program).map fun _ => name
  else
    let path := (textOf ((shell.bindings.lookup "PATH").getD [])).toList
    let folders := (path.splitOn ':').map String.ofList
    if programNames.contains name then
      (folders.find? programFolders.contains).map fun folder => folder ++ "/" ++ name
    else none

def baseName (path : String) : String :=
  String.ofList (path.toList.reverse.takeWhile (· != '/')).reverse

def program? (shell : Shell) (name : String) : Option String :=
  (shell.programPath? name).map baseName

def meaning (shell : Shell) (isDirect : Bool) (name : String) : Meaning :=
  if isSpecial name then .special
  else
    match if isDirect then shell.functions.lookup name else none with
    | some body => .function body
    | none =>
      if isRegular name then .regular
      else
        match shell.program? name with
        | some name => .program name
        | none => .missing

def absence (shell : Shell) (name : String) : String × Nat :=
  let isThere := isFolder (ascii name) || (shell.content? (ascii name)).isSome
  if name.isEmpty then (": Permission denied", 127)
  else if name.toList.contains '/' && isThere then (name ++ ": Permission denied", 126)
  else (name ++ ": not found", 127)

def tellAbsence (name : String) : ShellTask Unit := do
  let (message, status) := (← get).absence name
  complain message
  setStatus status

def description? (shell : Shell) (name : String) : Option String :=
  if Script.keywords.contains name then some "is a shell keyword"
  else
    match shell.aliases.lookup name with
    | some value => some ("is an alias for " ++ textOf value)
    | none =>
      match shell.meaning true name with
      | .special => some "is a special shell builtin"
      | .regular => some "is a shell builtin"
      | .function _ => some "is a shell function"
      | .program _ => (shell.programPath? name).map fun path => "is " ++ path
      | _ => none

def invocation? (shell : Shell) (name : String) : Option String :=
  match shell.aliases.lookup name with
  | some value => some ("alias " ++ name ++ "=" ++ Builtin.quoted value)
  | none => (shell.description? name).map fun _ => (shell.programPath? name).filter (fun _ =>
      !isSpecial name && !isRegular name && (shell.functions.lookup name).isNone) |>.getD name

def describe (isBrief : Bool) (word : Bytes) : ShellTask Unit := do
  let shell ← get
  let name := textOf word
  match if isBrief then shell.invocation? name else shell.description? name with
  | some text => emit outputStream (ascii ((if isBrief then "" else name ++ " ") ++ text ++ "\n"))
  | none =>
    if !isBrief then emit outputStream (ascii (name ++ ": not found\n"))
    setStatus 127

def commandOptions (words : List Bytes) : ShellTask (Option Bool × List Bytes) := do
  let (found, rest) ← Builtin.options ['p', 'v', 'V'] [] words
  let letters := (found.map Prod.fst).filter (· != 'p')
  return (letters.getLast?.map (· == 'v'), rest)

def runLookup (name : String) (words : List Bytes) : ShellTask Unit := do
  setStatus 0
  match name with
  | "type" => for word in words do describe false word
  | "hash" =>
    let (_, words) ← Builtin.options ['r', 'v'] [] words
    for word in words do
      if ((← get).programPath? (textOf word)).isNone then
        complain (textOf word ++ ": not found")
        setStatus 1
  | _ =>
    match ← commandOptions words with
    | (some isBrief, word :: _) => describe isBrief word
    | _ => pure ()

def isLookup (name : String) : Bool := runningRegulars.contains name

end Thumbnailing.Shell
