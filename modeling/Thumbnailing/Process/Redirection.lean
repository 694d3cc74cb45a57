import Thumbnailing.Process.Expansion

set_option autoImplicit false

namespace Thumbnailing.Shell

inductive Route where
  | close (stream : Nat)
  | join (stream target : Nat)
  | file (stream : Nat) (arrow : Arrow) (path : Bytes)
  | document (stream : Nat) (content : Word)

namespace Route

def stream : Route → Nat
  | close stream | join stream _ | file stream .. | document stream _ => stream

def ofRedirect (capture : Capture) : Redirect → ShellTask Route
  | .join stream target => do
    let text := textOf (← expandWhole capture target)
    match text.toList with
    | ['-'] => return close stream
    | [c] =>
      if c.isDigit then return join stream (c.toNat - 48)
      else abort ("Syntax error: " ++ SyntaxFault.streamNumber.message)
    | _ => abort ("Syntax error: " ++ SyntaxFault.streamNumber.message)
  | .file stream arrow path => do return file stream arrow (← expandWhole capture path)
  | .document stream content => return document stream content

def streamPaths : List (String × Nat) := [
  ("/dev/stdout", 1), ("/dev/fd/1", 1), ("/proc/self/fd/1", 1),
  ("/dev/stderr", 2), ("/dev/fd/2", 2), ("/proc/self/fd/2", 2)]

def inputPaths : List String := ["/dev/stdin", "/dev/fd/0", "/proc/self/fd/0"]

def sinkAt (appends : Bool) (path : Bytes) : ShellTask Sink := do
  let name := textOf path
  let refuse (reason : String) : ShellTask Sink :=
    abort ("cannot create " ++ name ++ ": " ++ reason)
  let shell ← get
  match streamPaths.lookup name with
  | some number =>
    match shell.streams.lookup number with
    | some sink => return sink
    | none => refuse "No such device or address"
  | none =>
    if emptyFiles.contains name then return .nowhere
    else if isFolder path then refuse "Is a directory"
    else if !isWritable path then refuse "Directory nonexistent"
    else
      let content := if appends then (shell.content? path).getD [] else []
      modify (putFile path content)
      return .file path

def sourceAt (path : Bytes) : ShellTask Bytes := do
  let shell ← get
  if inputPaths.contains (textOf path) then return shell.input
  else if isFolder path then return []
  else
    match shell.content? path with
    | some content => return content
    | none => abort ("cannot open " ++ textOf path ++ ": No such file")

def lead (stream : Nat) (sink : Sink) : ShellTask Unit :=
  modify fun shell => { shell with streams := withStream stream sink shell.streams }

def feed (stream : Nat) (content : Bytes) : ShellTask Unit :=
  if stream = 0 then modify fun shell => { shell with input := content }
  else lead stream .nowhere

def follow (capture : Capture) : Route → ShellTask Unit
  | close stream => do
    if stream = 0 then feed 0 []
    modify fun shell => { shell with
      streams := shell.streams.filter fun entry => entry.1 != stream }
  | join stream target => do
    match (← get).streams.lookup target with
    | some sink => if stream ≠ 0 then lead stream sink
    | none => if target ≠ 0 then abort (natText target ++ ": Bad file descriptor")
  | file stream .read path => do feed stream (← sourceAt path)
  | file stream .readWrite path => do
    let _ ← sinkAt true path
    feed stream (← sourceAt path)
  | file stream arrow path => do lead stream (← sinkAt (arrow == .append) path)
  | document stream content => do feed stream (← expandWhole capture content)

end Route

def followedBy (change : Shell → Shell) (task : ShellTask Unit) : ShellTask Unit := do
  tryCatch task fun stop => do
    modify change
    throw stop
  modify change

def redirecting (capture : Capture) (redirects : List Redirect) (isLasting : Bool)
    (refused task : ShellTask Unit) : ShellTask Unit := do
  -- Runs a task with its streams redirected, for good or as long as it runs. A redirection that
  -- cannot be followed is a failure, and the task is not run but `refused`.
  let routes ← redirects.mapM (Route.ofRedirect capture)
  let before ← get
  let back (shell : Shell) : Shell :=
    if routes.any fun route => route.stream == 0 then
      { shell with streams := before.streams, input := before.input }
    else { shell with streams := before.streams }
  let isOpen ← tryCatch
    (do
      routes.forM (Route.follow capture)
      return true) fun
    | .failed => return false
    | stop => throw stop
  if !isOpen then
    modify back
    setStatus failedStatus
    refused
  else if isLasting then task
  else followedBy back task

end Thumbnailing.Shell
