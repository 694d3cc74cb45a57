import Thumbnailing.Number.DecimalText
import Thumbnailing.Process.Script
import Thumbnailing.Text.Utf8

set_option autoImplicit false

namespace Thumbnailing

inductive ShellStop where
  | exit (status : Nat)
  | returned (status : Nat)
  | signal (number : Nat)
  | breakLoop (depth : Nat)
  | nextRound (depth : Nat)
  | failed
  | exhausted

inductive Sink where
  | buffer (number : Nat)
  | nowhere
  | file (path : Bytes)
  deriving DecidableEq, Repr

abbrev Streams := List (Nat × Sink)

structure BackgroundJob where
  number : Nat
  ending : Binary64
  status : Nat
  keepsStreams : Bool
  isReported : Bool

structure Shell where
  name : Bytes
  parameters : List Bytes
  bindings : List (String × Bytes)
  constants : List String
  exported : List String
  functions : List (String × Script)
  -- What is run at a signal, or, under zero, at the end.
  traps : List (Nat × Bytes)
  pending : List Nat
  outerTraps : Option (List (Nat × Bytes))
  trapStatus : Option Nat
  options : List Char
  files : List (Bytes × Bytes)
  folder : Option Bytes
  streams : Streams
  input : Bytes
  inputTime : Binary64
  -- What was written to each buffer, and when, the last piece first.
  buffers : List (Nat × List (Binary64 × Bytes))
  status : Nat
  capturedStatus : Nat
  elapsed : Binary64
  jobs : List BackgroundJob
  line : Nat
  caller : Option String
  loopDepth : Nat
  scopes : List (List (String × Option Bytes))
  optionOffset : Nat
  mask : Nat
  aliases : List (String × Bytes)
  isTested : Bool

abbrev ShellTask := ExceptT ShellStop (StateM Shell)

namespace Shell

def ascii (text : String) : Bytes := Text.encodeUtf8 text

def textOf (bytes : Bytes) : String := String.ofList (Text.decodeUtf8 bytes)

def outputStream : Nat := 1

def errorStream : Nat := 2

def standardStreams : Streams := [(outputStream, .buffer 1), (errorStream, .buffer 2)]

def standardBindings : List (String × Bytes) := [
  ("IFS", [32, 9, 10]), ("OPTIND", ascii "1"), ("PATH", ascii "/usr/bin:/bin"),
  ("PS1", ascii "$ "), ("PS2", ascii "> "), ("PS4", ascii "+ ")]

def start (name : Bytes) (input : Bytes) : Shell :=
  { name, input
    parameters := []
    bindings := standardBindings
    constants := []
    exported := ["PATH"]
    functions := []
    traps := []
    pending := []
    outerTraps := none
    trapStatus := none
    options := []
    files := []
    folder := none
    streams := standardStreams
    inputTime := .zero false
    buffers := [(1, []), (2, [])]
    status := 0
    capturedStatus := 0
    elapsed := .zero false
    jobs := []
    line := 1
    caller := none
    loopDepth := 0
    scopes := []
    optionOffset := 0
    mask := 18
    aliases := []
    isTested := false }

def setStatus (status : Nat) : ShellTask Unit := modify fun shell => { shell with status }

def setLine (line : Nat) : ShellTask Unit := modify fun shell => { shell with line }

def put (name : String) (value : Bytes) (shell : Shell) : Shell :=
  { shell with bindings := (name, value) :: shell.bindings.filter fun entry => entry.1 != name }

def exportName (name : String) (shell : Shell) : Shell :=
  if shell.exported.contains name then shell
  else { shell with exported := name :: shell.exported }

def remove (name : String) (shell : Shell) : Shell :=
  { shell with bindings := shell.bindings.filter fun entry => entry.1 != name }

def restore (before : String × Option Bytes) (shell : Shell) : Shell :=
  match before.2 with
  | some value => shell.put before.1 value
  | none => shell.remove before.1

def optionLetters : List Char := "pubaCEVvxsnmiIfe".toList

def hasOption (option : Char) (shell : Shell) : Bool := shell.options.contains option

def emptyFiles : List String := ["/dev/null", "/dev/zero", "/dev/stdin", "/dev/tty"]

def programFiles : List String := ["/bin/sh", "/bin/cat", "/bin/sleep", "/usr/bin/cat",
  "/usr/bin/sleep", "/usr/bin/sh"]

def folders : List String := ["/", "/bin", "/dev", "/etc", "/home", "/tmp", "/usr", "/usr/bin",
  "/var", ".", ".."]

def withoutDots : Bytes → Bytes
  | 46 :: 47 :: rest => withoutDots rest
  | path => path

def plainPath (path : Bytes) : Bytes :=
  let trimmed := ((withoutDots path).reverse.dropWhile (· == 47)).reverse
  if !trimmed.isEmpty || path.isEmpty then trimmed
  else if path.head? == some 47 then [47]
  else [46]

def isFolder (path : Bytes) : Bool := folders.contains (textOf (plainPath path))

def content? (shell : Shell) (path : Bytes) : Option Bytes :=
  if (emptyFiles ++ programFiles).contains (textOf path) then some []
  else if path.getLast? == some 47 then none
  else shell.files.lookup (plainPath path)

def putFile (path content : Bytes) (shell : Shell) : Shell :=
  let path := plainPath path
  { shell with files := (path, content) :: shell.files.filter fun entry => entry.1 != path }

def folderOf (path : Bytes) : Bytes :=
  let inside := (path.reverse.dropWhile (· != 47)).drop 1
  if !path.contains 47 then [46]
  else if inside.isEmpty then [47]
  else inside.reverse

def isWritable (path : Bytes) : Bool := !path.isEmpty && isFolder (folderOf path)

def emitTo (sink : Sink) (bytes : Bytes) (shell : Shell) : Shell :=
  match sink with
  | .buffer number =>
    { shell with buffers := shell.buffers.map fun buffer =>
        if buffer.1 = number then (number, (shell.elapsed, bytes) :: buffer.2) else buffer }
  | .nowhere => shell
  | .file path => shell.putFile path ((shell.content? path).getD [] ++ bytes)

def written (shell : Shell) (number : Nat) : Bytes :=
  let pieces := ((shell.buffers.lookup number).getD []).reverse
  (pieces.mergeSort fun first second => !second.1.lt first.1).flatMap Prod.snd

def emit (stream : Nat) (bytes : Bytes) : ShellTask Unit :=
  modify fun shell =>
    match shell.streams.lookup stream with
    | some sink => shell.emitTo sink bytes
    | none => shell

def complain (message : String) : ShellTask Unit := do
  let shell ← get
  let caller := (shell.caller.map fun name => name ++ ": ").getD ""
  emit errorStream (shell.name ++
    ascii (": " ++ natText shell.line ++ ": " ++ caller ++ message ++ "\n"))

def abort {Result : Type} (message : String) : ShellTask Result := do
  complain message
  throw .failed

def callingAs {Result : Type} (caller : Option String) (task : ShellTask Result) :
    ShellTask Result := do
  let before := (← get).caller
  modify fun shell => { shell with caller }
  let result ← tryCatch task fun stop => do
    modify fun shell => { shell with caller := before }
    throw stop
  modify fun shell => { shell with caller := before }
  return result

def setVariable (name : String) (value : Bytes) : ShellTask Unit := do
  let shell ← get
  if shell.constants.contains name then abort (name ++ ": is read only")
  modify (put name value)
  if name = "OPTIND" then modify fun shell => { shell with optionOffset := 0 }
  if shell.hasOption 'a' then modify (exportName name)

def withStream (stream : Nat) (sink : Sink) (streams : Streams) : Streams :=
  (stream, sink) :: streams.filter fun entry => entry.1 != stream

def captured (task : ShellTask Unit) : ShellTask Bytes := do
  let streams := (← get).streams
  let number := (← get).buffers.length + 1
  modify fun shell => { shell with
    buffers := (number, []) :: shell.buffers
    streams := withStream outputStream (.buffer number) streams }
  task
  let output := written (← get) number
  modify fun shell => { shell with
    streams
    buffers := shell.buffers.filter fun buffer => buffer.1 != number }
  return output

def exitCode (status : Nat) : Nat := status % 256

def failedStatus : Nat := 2

def leave (outer inner : Shell) : Shell :=
  { outer with
    files := inner.files
    input := inner.input
    buffers := inner.buffers
    pending := inner.pending
    status := exitCode inner.status
    elapsed := inner.elapsed
    jobs := inner.jobs }

def enter (shell : Shell) : Shell :=
  -- Ignored signals stay so in a shell of its own, all other traps are gone.
  { shell with
    outerTraps := some (shell.outerTraps.getD shell.traps)
    traps := shell.traps.filter fun trap => trap.1 != 0 && trap.2.isEmpty }

def ending (task : ShellTask Unit) : ShellTask Unit :=
  tryCatch task fun
    | .exit status | .returned status => setStatus status
    | .failed => setStatus failedStatus
    | .breakLoop _ | .nextRound _ => pure ()
    | stop => throw stop

def inner (task : ShellTask Unit) : ShellTask Unit := do
  let outer ← get
  modify enter
  ending task
  modify (leave outer)

end Shell

end Thumbnailing
