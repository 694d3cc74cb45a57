import Thumbnailing.Process.Order
import Thumbnailing.Process.Run

set_option autoImplicit false

namespace Thumbnailing

structure ProcessRun where
  report : ProcessReport
  elapsed : Binary64

namespace ProcessRun

def ofShell (shell : Shell) (exitCode : Int) : ProcessRun :=
  -- A process is over when nothing is left that could still write to its streams.
  let held := shell.jobs.filter BackgroundJob.keepsStreams
  ⟨⟨shell.written 1, shell.written 2, exitCode⟩,
    held.foldl (fun time job => time.larger job.ending) shell.elapsed⟩

def ofTask? (task : ShellTask Unit) (shell : Shell) : Option ProcessRun :=
  match (Shell.ending task).run.run shell with
  | (.error (.signal number), shell) => some (ofShell shell (-number))
  | (.error _, _) => none
  | (.ok (), shell) => some (ofShell shell (Shell.exitCode shell.status))

end ProcessRun

namespace ProcessOrder

-- Scripts are nested only so deep.
def deepestScript : Nat := 20000

def program (shell : Shell) (word : String) : Outcome String :=
  match shell.program? word with
  | some name => .ok name
  | none =>
    let path := Shell.ascii word
    if word.isEmpty || Shell.isFolder path then
      .error (.storage .accessDenied word)
    else .error (.storage .notFound word)

def runProgram (name : String) (word : Bytes) (words : List Bytes) : ShellTask Unit :=
  let run := Shell.run deepestScript
  if name = "sh" then Shell.finishing run (Shell.interpret run words)
  else Shell.runProgram run name word words

def start (words : List String) (input : Bytes) : Outcome (Option ProcessRun) :=
  match words with
  | [] => .error .absentValue
  | word :: rest => do
    if words.any fun word => word.toList.contains '\x00' then throw .nulInPath
    let shell := Shell.start (Shell.ascii word) input
    let name ← program shell word
    return ProcessRun.ofTask? (runProgram name (Shell.ascii word) (rest.map Shell.ascii)) shell

def seconds? : Value → Option Binary64
  | .integer number => some (.ofQuotient (number < 0) number.natAbs 1)
  | .boolean isOn => some (.ofNat (if isOn then 1 else 0))
  | .real number => some number
  | _ => none

def isInTime (seconds : Binary64) (run : ProcessRun) : Bool := run.elapsed.lt seconds

def shellProgram (order : ProcessOrder) : ProcessEnding := do
  -- A limit that is no number is refused once the program has been found.
  let run ← start order.words order.input
  let some seconds := seconds? order.timeout | .error .absentValue
  return (run.filter (isInTime seconds)).map ProcessRun.report

def run (order : ProcessOrder) : Outcome ProcessReport := order.answer shellProgram

end ProcessOrder

end Thumbnailing
