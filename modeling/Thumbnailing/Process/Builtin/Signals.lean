import Thumbnailing.Process.Builtin.Words
import Thumbnailing.Process.Signal

set_option autoImplicit false

namespace Thumbnailing.Builtin

open Shell

def statusOf (words : List Bytes) : ShellTask Nat := do
  match words with
  | [] => return (← get).status
  | word :: _ => count word

def exit (words : List Bytes) : ShellTask Unit := do
  -- Ends the script. Where a trap does that, the status before it counts.
  match words, (← get).trapStatus with
  | [], some status => throw (.exit (exitCode status))
  | words, _ => throw (.exit (exitCode (← statusOf words)))

def leaveLoops (stop : Nat → ShellStop) (words : List Bytes) : ShellTask Unit := do
  let depth ← match words with
    | [] => pure 1
    | word :: _ => count word
  if depth = 0 then abort ("Illegal number: " ++ textOf (words.headD []))
  setStatus 0
  let reached := min depth (← get).loopDepth
  if 0 < reached then throw (stop reached)

def trapListing (shell : Shell) : Bytes :=
  let sorted := shell.traps.mergeSort fun first second => decide (first.1 ≤ second.1)
  ascii (String.join (sorted.map fun trap =>
    "trap -- " ++ quoted trap.2 ++ " " ++ Signal.name trap.1 ++ "\n"))

def trap (words : List Bytes) : ShellTask Unit := do
  match ← plainWords words with
  | [] => write (trapListing (← get))
  | first :: rest =>
    let isNumber := !first.isEmpty && (textOf first).toList.all Char.isDigit
    let isReset := rest.isEmpty || (isNumber && (Signal.ofText? 0 (textOf first)).isSome)
    let action := if isReset || first == ascii "-" then none else some first
    setStatus 0
    for word in if isReset then first :: rest else rest do
      match Signal.ofText? 0 (textOf word) with
      | some number =>
        modify fun shell => { shell with
          traps := (action.map fun script => (number, script)).toList ++
            shell.traps.filter fun trap => trap.1 != number }
      | none =>
        emit errorStream (ascii ("trap: " ++ textOf word ++ ": bad trap\n"))
        setStatus 1
        break

def killUsage : String :=
  "Usage: kill [-s sigspec | -signum | -sigspec] [pid | job]... or\nkill -l [exitstatus]"

def signalSelf (number : Nat) : ShellTask Unit := do
  let shell ← get
  let traps := shell.outerTraps.getD shell.traps
  let isCaught := !Signal.untrappable.contains number && (traps.lookup number).isSome
  if isCaught then set { shell with pending := shell.pending ++ [number] }
  else if Signal.stopping.contains number then throw .exhausted
  else if !Signal.harmless.contains number then throw (.signal number)

def signalJob (number : Nat) (job : BackgroundJob) (shell : Shell) : Shell :=
  let isOver := Signal.harmless.contains number || !shell.elapsed.lt job.ending
  { shell with
    jobs := shell.jobs.map fun other =>
      if other.number = job.number ∧ !isOver then
        { other with ending := shell.elapsed, status := Signal.status number }
      else other }

def jobOf (word : Bytes) : ShellTask BackgroundJob := do
  let shell ← get
  let text := String.ofList ((textOf word).toList.drop 1)
  let found := if ["", "%", "+"].contains text then shell.jobs.head?
    else text.toNat?.bind fun number => if number = 0 then none else shell.jobs.reverse[number - 1]?
  match found with
  | some job => return job
  | none => abort ("No such job: " ++ textOf word)

def signalTarget (number : Nat) (word : Bytes) : ShellTask Unit := do
  if word.head? = some 37 then
    let job ← jobOf word
    modify (signalJob number job)
  else
    let isGroup := word.head? = some 45
    let target ← count (if isGroup then word.drop 1 else word)
    let shell ← get
    let isAlive (job : BackgroundJob) : Bool :=
      !isGroup && job.number == target && !job.isReported && !job.ending.lt shell.elapsed
    match shell.jobs.find? isAlive with
    | some job => modify (signalJob number job)
    | none =>
      if target = processNumber ∧ !isGroup then signalSelf number
      else
        complain "No such process\n"
        setStatus 1

def signalNames (words : List Bytes) : ShellTask Unit := do
  match words with
  | [] =>
    let names := (Signal.numbers.drop 1).map Signal.name
    write (ascii (String.join (("0" :: names).map fun name => name ++ "\n")))
  | word :: _ =>
    let number ← count word
    let number := if 128 < number then number - 128 else number
    if 0 < number ∧ number ≤ Signal.lastRealTime then write (ascii (Signal.name number ++ "\n"))
    else abort ("invalid signal number or exit status: " ++ textOf word)

def signalChoice (words : List Bytes) : ShellTask (Option Nat × List Bytes) := do
  let first := (textOf (words.headD [])).toList
  if first.head? ≠ some '-' then return (some 15, words)
  match Signal.ofText? 1 (String.ofList (first.drop 1)) with
  | some number => return (some number, words.drop 1)
  | none =>
    let (found, rest) ← options ['l'] ['s'] words
    match (found.filter fun option => option.1 == 's').getLast? with
    | some (_, name) =>
      match Signal.ofText? 1 (textOf name) with
      | some number => return (some number, rest)
      | none => abort ("invalid signal number or name: " ++ textOf name)
    | none => return (if found.isEmpty then some 15 else none, rest)

def kill (words : List Bytes) : ShellTask Unit := do
  if words.isEmpty then abort killUsage
  match ← signalChoice words with
  | (none, rest) => signalNames rest
  | (some _, []) => abort killUsage
  | (some number, targets) =>
    setStatus 0
    for target in targets do signalTarget number target

def waitFor (job : BackgroundJob) : ShellTask Unit := do
  modify fun shell => { shell with
    elapsed := shell.elapsed.larger job.ending
    jobs := shell.jobs.map fun other =>
      if other.number = job.number then { other with isReported := true } else other
    status := job.status }
  if !job.isReported then
    if let some text := Signal.text? (job.status - 128) then
      if 128 < job.status then emit errorStream (ascii (text ++ "\n"))

def wait (words : List Bytes) : ShellTask Unit := do
  match ← plainWords words with
  | [] =>
    modify fun shell => { shell with
      elapsed := shell.jobs.foldl (fun time job => time.larger job.ending) shell.elapsed
      jobs := shell.jobs.map fun job => { job with isReported := true }
      status := 0 }
  | words =>
    for word in words do
      if word.head? = some 37 then waitFor (← jobOf word)
      else
        let number ← count word
        match (← get).jobs.find? fun job => job.number == number with
        | some job => waitFor job
        | none => setStatus 127

end Thumbnailing.Builtin
