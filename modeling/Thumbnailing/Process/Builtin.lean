import Thumbnailing.Process.Builtin.Signals
import Thumbnailing.Process.Builtin.Surroundings
import Thumbnailing.Process.Builtin.Switches
import Thumbnailing.Process.Builtin.Texts
import Thumbnailing.Process.Builtin.Words

set_option autoImplicit false

namespace Thumbnailing.Builtin

open Shell

def marking (start : String) (marked : Shell → List String) (mark : String → Shell → Shell)
    (words : List Bytes) : ShellTask Unit := do
  let (found, words) ← options ['p'] [] words
  if !found.isEmpty || words.isEmpty then
    let shell ← get
    write (listing start (marked shell) shell)
  else
    for word in words do
      let (name, value) ← definition word
      if let some value := value then setVariable name value
      modify (mark name)
    setStatus 0

def makeConstant (name : String) (shell : Shell) : Shell :=
  if shell.constants.contains name then shell
  else { shell with constants := name :: shell.constants }

def exportVariables : List Bytes → ShellTask Unit :=
  marking "export " (fun shell => shell.exported) exportName

def makeConstants : List Bytes → ShellTask Unit :=
  marking "readonly " (fun shell => shell.constants) makeConstant

def localVariables (words : List Bytes) : ShellTask Unit := do
  for word in words do
    match (← get).scopes with
    | [] => abort "not in a function"
    | scope :: outer =>
      if word != ascii "-" then
        let (name, value) ← definition word
        let before := (name, (← get).bindings.lookup name)
        modify fun shell => { shell with scopes := (before :: scope) :: outer }
        if let some value := value then setVariable name value
  if words.isEmpty && (← get).scopes.isEmpty then abort "not in a function"
  setStatus 0

def unset (words : List Bytes) : ShellTask Unit := do
  let (found, words) ← options ['v', 'f'] [] words
  for word in words do
    let name := textOf word
    if (found.getLast?.map Prod.fst) == some 'f' then
      modify fun shell => { shell with
        functions := shell.functions.filter fun entry => entry.1 != name }
    else
      if !Word.isName name.toList then abort (name ++ ": bad variable name")
      if (← get).constants.contains name then abort (name ++ ": is read only")
      modify (remove name)
      modify fun shell => { shell with exported := shell.exported.filter (· != name) }
  setStatus 0

def special : List (String × (List Bytes → ShellTask Unit)) := [
  (":", succeed),
  ("break", leaveLoops .breakLoop),
  ("continue", leaveLoops .nextRound),
  ("exit", exit),
  ("export", exportVariables),
  ("local", localVariables),
  ("readonly", makeConstants),
  ("return", fun words => do throw (.returned (← statusOf words))),
  ("set", setParameters),
  ("shift", shift),
  ("times", showTimes),
  ("trap", trap),
  ("unset", unset)]

def regular : List (String × (List Bytes → ShellTask Unit)) := [
  ("true", succeed),
  ("false", fun _ => setStatus 1),
  ("echo", echo),
  ("printf", print),
  ("test", test),
  ("[", bracketTest),
  ("read", readLine),
  ("kill", kill),
  ("wait", wait),
  ("jobs", succeed),
  ("cd", changeFolder),
  ("chdir", changeFolder),
  ("pwd", showFolder),
  ("umask", changeMask),
  ("ulimit", succeed),
  ("getopts", nextOption),
  ("alias", nameCommands),
  ("unalias", forgetNames)]

end Thumbnailing.Builtin
