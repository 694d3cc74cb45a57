import Thumbnailing.Process.Command

set_option autoImplicit false

/-!
# Running scripts

A script is run by the form of its commands. What a command needs of other scripts, such as the
body of a function or the output of an inner script, it gets from a runner of scripts, and the
depth of runs within runs is limited.
-/

namespace Thumbnailing.Shell

abbrev Runner := Script → ShellTask Unit

def testing (isTested : Bool) (task : ShellTask Unit) : ShellTask Unit := do
  let before := (← get).isTested
  modify fun shell => { shell with isTested }
  followedBy (fun shell => { shell with isTested := before }) task

def runText (run : Runner) (text : List Char) : ShellTask Unit := do
  let script := Script.ofText text 1
  if script.isNothing then setStatus 0
  let line := (← get).line
  followedBy (fun shell => { shell with line }) (run script)

def runTrap (run : Runner) (action : Bytes) : ShellTask Unit := do
  let shell ← get
  set { shell with trapStatus := some shell.status }
  followedBy (fun after => { after with trapStatus := shell.trapStatus })
    (testing false (runText run (Text.decodeUtf8 action)))
  setStatus shell.status

def runTraps (run : Runner) : ShellTask Unit := do
  let shell ← get
  if shell.outerTraps.isNone && !shell.pending.isEmpty then
    set { shell with pending := [] }
    for number in Signal.numbers.filter shell.pending.contains do
      match shell.traps.lookup number with
      | some action => if !action.isEmpty then runTrap run action
      | none => pure ()

def finishing (run : Runner) (task : ShellTask Unit) : ShellTask Unit := do
  ending task
  let shell ← get
  if let some action := shell.traps.lookup 0 then
    set { shell with traps := shell.traps.filter fun trap => trap.1 != 0 }
    tryCatch (runTrap run action) fun
      | .exit status => setStatus status
      | .failed => setStatus failedStatus
      | .exhausted => throw .exhausted
      | .signal number => throw (.signal number)
      | _ => setStatus shell.status

def capture (run : Runner) : Capture := fun text line => do
  let script := Script.ofText text line
  if let some refusal := script.refusal? then
    setLine refusal.line
    abort ("Syntax error: " ++ refusal.fault.message)
  let outer ← get
  let output ←
    if script.isNothing then pure []
    else
      let output ← captured (inner (finishing run (testing false (run script))))
      modify fun shell => { shell with capturedStatus := shell.status }
      pure output
  modify fun shell => { shell with status := outer.status, line := outer.line }
  return output

def round (task : ShellTask Unit) : ShellTask Bool := do
  let before := (← get).loopDepth
  let back : ShellTask Unit := modify fun shell => { shell with loopDepth := before }
  modify fun shell => { shell with loopDepth := before + 1 }
  let isOver ← tryCatch
    (do
      task
      return false) fun stop => do
    back
    match stop with
    | .breakLoop depth => if depth ≤ 1 then return true else throw (.breakLoop (depth - 1))
    | .nextRound depth => if depth ≤ 1 then return false else throw (.nextRound (depth - 1))
    | stop => throw stop
  back
  return isOver

def patience : Nat := 100000

def repeating (whileFails : Bool) (condition body : ShellTask Unit) : Nat → Nat →
    ShellTask Unit
  | 0, _ => throw .exhausted
  | fuel + 1, status => do
    if ← round (testing true condition) then setStatus status
    else if ((← get).status = 0) = whileFails then setStatus status
    else if !(← round body) then
      repeating whileFails condition body fuel (← get).status

def runPipe (run : Runner) (first second : Script) : ShellTask Unit := do
  -- Runs a script that hands its output to another one. All of it takes as long as the slower of
  -- the two.
  let before ← get
  let output ← captured (inner (finishing run (run first)))
  let between ← get
  set { between with
    input := output
    inputTime := between.elapsed
    elapsed := before.elapsed
    status := before.status }
  inner (finishing run (run second))
  modify fun shell => { shell with
    input := between.input
    inputTime := before.inputTime
    elapsed := shell.elapsed.larger between.elapsed }

def leadsAway (shell : Shell) (redirects : List Redirect) : Bool :=
  let isAway (stream : Nat) : Bool :=
    match shell.streams.lookup stream with
    | some (.buffer _) => false
    | _ => true
  let away := redirects.foldl (fun (away : Bool × Bool) redirect =>
    let change (stream : Nat) (isAway : Bool) : Bool × Bool :=
      if stream = 1 then (isAway, away.2) else if stream = 2 then (away.1, isAway) else away
    match redirect with
    | .join stream target =>
      match Word.plainText? target with
      | some "1" => change stream away.1
      | some "2" => change stream away.2
      | _ => change stream true
    | .file stream .. => change stream true
    | .document .. => away) (isAway 1, isAway 2)
  away.1 && away.2

def outerRedirects : Script → List Redirect
  | .command _ _ _ redirects | .group _ _ _ redirects => redirects
  | _ => []

def runBeside (run : Runner) (body : Script) : ShellTask Unit := do
  let before ← get
  modify fun shell => { shell with input := [] }
  inner (finishing run (testing false (run body)))
  let after ← get
  let number := processNumber + 1 + after.jobs.length
  let job : BackgroundJob :=
    ⟨number, after.elapsed, after.status, !before.leadsAway (outerRedirects body), false⟩
  set { after with
    input := before.input, elapsed := before.elapsed, status := 0, jobs := job :: after.jobs }

def interpret (run : Runner) (words : List Bytes) : ShellTask Unit := do
  setLine 0
  let (found, rest, _) ← Builtin.switches ['c', 'l'] words.length words
  let shell ← get
  let begin (text name : Bytes) (parameters : List Bytes) : ShellTask Unit := do
    modify fun shell => { shell with name, parameters, line := 1 }
    run (Script.ofText (Text.decodeUtf8 text) 1)
  match found.contains 'c', rest with
  | true, [] => abort "-c requires an argument"
  | true, text :: rest => begin text (rest.headD shell.name) (rest.drop 1)
  | false, path :: rest =>
    if shell.hasOption 's' then
      set { shell with input := [] }
      begin shell.input shell.name (path :: rest)
    else if isFolder path then setStatus 0
    else
      match shell.content? path with
      | some text => begin text path rest
      | none => abort ("cannot open " ++ textOf path ++ ": No such file")
  | false, [] =>
    set (Builtin.switch true 's' { shell with input := [] })
    begin shell.input shell.name []

def offspring (word : Bytes) (shell : Shell) : Shell :=
  let inherited := shell.exported.filterMap fun name =>
    (shell.bindings.lookup name).map fun value => (name, value)
  let new := start word shell.input
  { new with
    bindings := inherited ++ new.bindings.filter fun entry =>
      entry.1 != "PATH" && !inherited.any fun other => other.1 == entry.1
    exported := inherited.map Prod.fst
    traps := (enter shell).traps
    files := shell.files
    folder := shell.folder
    mask := shell.mask
    streams := shell.streams
    inputTime := shell.inputTime
    buffers := shell.buffers
    elapsed := shell.elapsed }

def runShell (run : Runner) (word : Bytes) (words : List Bytes) : ShellTask Unit := do
  let outer ← get
  set (outer.offspring word)
  let signal ← tryCatch
    (do
      finishing run (interpret run words)
      return none) fun
    | .signal number => return some number
    | stop => throw stop
  let after ← get
  set { leave outer after with jobs := outer.jobs ++ after.jobs, pending := outer.pending }
  if let some number := signal then
    if let some text := Signal.text? number then emit errorStream (ascii (text ++ "\n"))
    setStatus (Signal.status number)

def runProgram (run : Runner) (name : String) (word : Bytes) (words : List Bytes) :
    ShellTask Unit :=
  match name with
  | "sh" => runShell run word words
  | "cat" => Program.copy (textOf word) words
  | "sleep" => Program.sleep (textOf word) words
  | "echo" => Program.echo (textOf word) words
  | name =>
    match Builtin.regular.lookup name with
    | some task => task words
    | none => setStatus 127

def deepestCall : Nat := 1000

def callFunction (run : Runner) (body : Script) (parameters : List Bytes) : ShellTask Unit := do
  let before ← get
  if deepestCall ≤ before.scopes.length then
    abort ("Maximum function recursion depth (" ++ natText deepestCall ++ ") reached")
  set { before with
    parameters, loopDepth := 0, optionOffset := 0, scopes := [] :: before.scopes }
  let back (shell : Shell) : Shell :=
    let restored := (shell.scopes.headD []).foldl (fun shell entry => shell.restore entry) shell
    { restored with
      parameters := before.parameters
      loopDepth := before.loopDepth
      optionOffset := before.optionOffset
      scopes := before.scopes }
  followedBy back (tryCatch (run body) fun
    | .returned status => setStatus status
    | stop => throw stop)

def replace (run : Runner) (words : List Bytes) : ShellTask Unit := do
  match words with
  | [] => setStatus 0
  | word :: rest =>
    let shell ← get
    match shell.program? (textOf word) with
    | none =>
      tellAbsence (textOf word)
      throw (.exit (← get).status)
    | some name =>
      set { shell with traps := [] }
      let isOutermost := shell.outerTraps.isNone
      if name = "sh" ∧ isOutermost then
        set (shell.offspring word)
        finishing run (interpret run rest)
        throw (.exit (exitCode (← get).status))
      else
        callingAs none (runProgram run name word rest)
        throw (.exit (← get).status)

def source (run : Runner) (words : List Bytes) : ShellTask Unit := do
  match words with
  | [] => setStatus 0
  | path :: _ =>
    let name := textOf path
    if !name.toList.contains '/' then abort (name ++ ": not found")
    else if isFolder path then setStatus 0
    else
      match (← get).content? path with
      | none => abort ("cannot open " ++ name ++ ": No such file")
      | some text =>
        callingAs (some name) (tryCatch (runText run (Text.decodeUtf8 text)) fun
          | .returned status => setStatus status
          | stop => throw stop)

def runBuiltin (run : Runner) (name : String) (words : List Bytes) : ShellTask Unit :=
  match name with
  | "eval" => runText run (Text.decodeUtf8 (List.intercalate [32] words))
  | "exec" => replace run words
  | "." => source run words
  | name =>
    if isLookup name then runLookup name words
    else
      match (Builtin.special ++ Builtin.regular).lookup name with
      | some task => task words
      | none => setStatus 0

def onlyFailing (task : ShellTask Unit) : ShellTask Unit :=
  tryCatch task fun
    | .failed => setStatus failedStatus
    | stop => throw stop

def withoutCommand (shell : Shell) : Nat → List Bytes → Bool × List Bytes
  | 0, words => (true, words)
  | fuel + 1, words =>
    let isCommand := words.head? == some (ascii "command") &&
      (shell.functions.lookup "command").isNone
    let rest := words.drop 1
    let isMark := rest.head? == some (ascii "-p") || rest.head? == some (ascii "--")
    let rest := if isMark then rest.drop 1 else rest
    let isOption := rest.head?.any fun word => word.head? == some 45 && word.length > 1
    if !isCommand || rest.isEmpty || isOption then (true, words)
    else (false, (withoutCommand shell fuel rest).2)

def assign (run : Runner) (isLasting : Bool) (assignments : List (String × Word)) :
    ShellTask Unit := do
  for (name, word) in assignments do
    setVariable name (← expandWhole (capture run) word)
    if !isLasting then modify (exportName name)

def giveBack (before : Shell) (names : List String) (shell : Shell) : Shell :=
  let restored := names.foldl
    (fun shell name => shell.restore (name, before.bindings.lookup name)) shell
  { restored with
    exported := restored.exported.filter fun name =>
      before.exported.contains name || !names.contains name }

def trace (streams : Streams) (assignments : List (String × Word)) (words : List Bytes) :
    ShellTask Unit := do
  let shell ← get
  if shell.hasOption 'x' then
    let settings := assignments.map fun (name, _) =>
      ascii (name ++ "=") ++ (shell.bindings.lookup name).getD []
    let text := (shell.bindings.lookup "PS4").getD [] ++
      List.intercalate [32] (settings ++ words) ++ [10]
    if let some sink := streams.lookup errorStream then modify (emitTo sink text)

def perform (run : Runner) (meaning : Meaning) (isDirect : Bool) (words : List Bytes) :
    ShellTask Unit := do
  let word := words.headD []
  let name := textOf word
  match meaning with
  | .nothing => setStatus (← get).capturedStatus
  | .special =>
    let task := callingAs (some name) (runBuiltin run name (words.drop 1))
    if isDirect then task else onlyFailing task
  | .regular => onlyFailing (callingAs (some name) (runBuiltin run name (words.drop 1)))
  | .function body => callFunction run body (words.drop 1)
  | .program _ | .missing =>
    match (← get).program? name with
    | some name => runProgram run name word (words.drop 1)
    | none => tellAbsence name

def runCommand (run : Runner) (line : Nat) (assignments : List (String × Word))
    (words : List Word) (redirects : List Redirect) : ShellTask Unit := do
  -- Runs a plain command. Its words are expanded first, then its streams are redirected, and then
  -- its variables are set.
  modify fun shell => { shell with line, capturedStatus := 0 }
  let fields := (← words.mapM (expand (capture run))).flatten
  let before ← get
  let (isDirect, command) := before.withoutCommand fields.length fields
  let meaning : Meaning := match command with
    | [] => .nothing
    | word :: _ => before.meaning isDirect (textOf word)
  let (isSpecial, isLasting) := match meaning with
    | .nothing => (false, true)
    | .special => (isDirect, isDirect)
    | _ => (false, false)
  let isReplacing := command.head? == some (ascii "exec")
  let names := assignments.map Prod.fst
  let refused : ShellTask Unit := if isSpecial then throw .failed else pure ()
  let task : ShellTask Unit := do
    assign run isLasting assignments
    trace before.streams assignments fields
    perform run meaning isDirect command
  redirecting (capture run) redirects isReplacing refused
    (if isLasting || names.isEmpty then task else followedBy (giveBack before names) task)

def endsAtFailure : Script → Bool
  | .command .. | .group .. | .piped .. => true
  | _ => false

def settle (run : Runner) (script : Script) : ShellTask Unit := do
  runTraps run
  let shell ← get
  if endsAtFailure script && shell.hasOption 'e' && !shell.isTested && shell.status ≠ 0 then
    throw (.exit (exitCode shell.status))

def branch (run : Runner) (text : Bytes) : Script → ShellTask Script
  | .matching _ _ patterns yes no => do
    let isFound ← patterns.anyM fun pattern => do
      return Pattern.isMatch (← expandPattern (capture run) pattern) text
    if isFound then return yes else branch run text no
  | script => return script

def runForm (run : Runner) (script : Script) : ShellTask Unit := do
  match script with
  | .nothing => pure ()
  | .command line assignments words redirects => runCommand run line assignments words redirects
  | .sequence first second =>
    run first
    run second
  | .both first second =>
    testing true (run first)
    if (← get).status = 0 then run second
  | .either first second =>
    testing true (run first)
    if (← get).status ≠ 0 then run second
  | .negated body =>
    testing true (run body)
    setStatus (if (← get).status = 0 then 1 else 0)
  | .piped first second => runPipe run first second
  | .background body => runBeside run body
  | .repeated whileFails condition body =>
    repeating whileFails (run condition) (run body) patience 0
  | .choice condition yes no =>
    testing true (run condition)
    if (← get).status = 0 then run yes
    else if no.isNothing then setStatus 0
    else run no
  | .forEach line name words body =>
    setLine line
    let fields := (← words.mapM (expand (capture run))).flatten
    if fields.isEmpty then setStatus 0
    for field in fields do
      setVariable name field
      if ← round (run body) then break
  | .matching line subject patterns yes no => do
    setLine line
    let text ← expandWhole (capture run) subject
    let chosen ← branch run text (.matching line subject patterns yes no)
    if chosen.isNothing then setStatus 0 else run chosen
  | .group line isPlain body redirects =>
    setLine line
    if isPlain then redirecting (capture run) redirects false (pure ()) (run body)
    else
      inner (finishing run (redirecting (capture run) redirects false (pure ()) (run body)))
  | .define name body =>
    modify fun shell => { shell with
      functions := (name, body) :: shell.functions.filter fun entry => entry.1 != name
      status := 0 }
  | .refused refusal =>
    setLine refusal.line
    abort ("Syntax error: " ++ refusal.fault.message)

def run : Nat → Runner
  | 0, _ => throw .exhausted
  | depth + 1, script => do
    if !(← get).hasOption 'n' then
      runForm (run depth) script
      settle (run depth) script

end Thumbnailing.Shell
