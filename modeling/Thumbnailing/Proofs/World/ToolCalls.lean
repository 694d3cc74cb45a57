import Thumbnailing.Engine.Magick
import Thumbnailing.Proofs.World.Temporary

set_option autoImplicit false

namespace Thumbnailing

def Call.isTool : Call → Bool
  | .tool .. => true
  | _ => false

def World.toolCalls (world : World) : List Call := world.calls.filter Call.isTool

structure RunsTools (calls : Machine → List Call) (before after : World) : Prop where
  machine : after.machine = before.machine
  toolCalls : after.toolCalls = before.toolCalls ++ calls before.machine

abbrev RunsNoTool : World → World → Prop := RunsTools fun _ => []

namespace RunsTools

variable {Result Other : Type} {first rest : Machine → List Call}

theorem both {before between after : World} (earlier : RunsTools first before between)
    (later : RunsTools rest between after) :
    RunsTools (fun machine => first machine ++ rest machine) before after := by
  constructor
  · rw [later.machine, earlier.machine]
  · rw [later.toolCalls, earlier.toolCalls, earlier.machine, List.append_assoc]

theorem history : Task.IsHistory RunsNoTool where
  refl world := ⟨rfl, by simp⟩
  trans earlier later := by simpa using earlier.both later

theorem quietly {before between after : World} (earlier : RunsTools first before between)
    (later : RunsNoTool between after) : RunsTools first before after := by
  simpa using earlier.both later

theorem bind {task : Task World Result} {next : Result → Task World Other}
    (earlier : Task.Keeps (RunsTools first) task)
    (later : ∀ result, Task.Keeps RunsNoTool (next result)) :
    Task.Keeps (RunsTools first) (task >>= next) := by
  intro world
  have ran := earlier world
  rw [Task.run_bind]
  rcases h : task.run world with ⟨outcome, between⟩
  rw [h] at ran
  cases outcome with
  | error failure => exact ran
  | ok result => exact ran.quietly (later result between)

theorem rescue {task : Task World Result} {other : Failure → Task World Result}
    (earlier : Task.Keeps (RunsTools first) task)
    (later : ∀ failure, Task.Keeps RunsNoTool (other failure)) :
    Task.Keeps (RunsTools first) (task.rescue other) := by
  intro world
  have ran := earlier world
  rcases h : task.run world with ⟨outcome, between⟩
  rw [h] at ran
  cases outcome with
  | ok result => rwa [Task.run_rescue_of_ok h]
  | error failure =>
    rw [Task.run_rescue_of_error h]
    exact ran.quietly (later failure between)

end RunsTools

section Keeping

variable {relation : World → World → Prop}

theorem Tool.runCommand_keeps (history : Task.IsHistory relation) {words : List String}
    {timeout : Int} (called : Task.Keeps relation (recordCall (.tool words timeout)))
    (wrote : ∀ content, Task.Keeps relation (Files.put (outputPath words) content)) :
    Task.Keeps relation (runCommand words timeout) := by
  refine .bind history called fun _ => .bind history (.read history) fun world => ?_
  refine .bind history (Files.leave_keeps history wrote _) fun _ => ?_
  exact .bind history (.ofOutcome history _) fun report => .succeed history _

theorem Magick.commandStart_keeps (history : Task.IsHistory relation)
    (looked : ∀ program path, Task.Keeps relation (recordCall (.lookUp program path)))
    (settings : Settings) (tool : String) : Task.Keeps relation (commandStart settings tool) := by
  have looks (program : String) : Task.Keeps relation (lookUp settings program) := by
    refine .bind history (.read history) fun world => ?_
    unfold Tool.lookUp
    split
    · exact .bind history (looked _ _) fun _ => .bind history (.read history) fun _ =>
        .succeed history _
    · exact .bind history (.read history) fun _ => .succeed history _
  refine .bind history (looks "magick") fun found => ?_
  split
  · split <;> exact .succeed history _
  · exact .bind history (looks tool) fun _ => .succeed history _

theorem Magick.runTool_keeps (history : Task.IsHistory relation)
    (looked : ∀ program path, Task.Keeps relation (recordCall (.lookUp program path)))
    {settings : Settings} {words : List String}
    (ran : ∀ start, Task.Keeps relation
      (Tool.runCommand (start ++ words) settings.toolTimeoutSeconds)) (tool : String) :
    Task.Keeps relation (runTool settings tool words) := by
  refine .bind history (commandStart_keeps history looked settings tool) fun start => ?_
  refine .rescue history (ran start) fun failure => ?_
  split <;> exact .fail history _

end Keeping

namespace Magick

def startWords (machine : Machine) (tool : String) : List String :=
  match found? (machine.programs.lookup "magick") with
  | some magick => if tool = "convert" then [magick] else [magick, tool]
  | none => [(found? (machine.programs.lookup tool)).getD tool]

theorem run_lookUp (settings : Settings) (program : String) (world : World) :
    ∃ after, (lookUp settings program).run world =
        (.ok (world.machine.programs.lookup program), after) ∧ RunsNoTool world after := by
  unfold lookUp Tool.lookUp
  cases searched : searchPath settings world.machine with
  | none =>
    refine ⟨world, ?_, RunsTools.history.refl world⟩
    simp [Task.run_bind, Task.run_map, searched, Except.map]
  | some path =>
    refine ⟨world.record (.lookUp program path), ?_, rfl, ?_⟩
    · simp [Task.run_bind, Task.run_map, searched, recordCall, World.record, Except.map]
    · simp [World.record, World.toolCalls, Call.isTool]

theorem run_commandStart (settings : Settings) (tool : String) (world : World) :
    ∃ after, (commandStart settings tool).run world = (.ok (startWords world.machine tool), after) ∧
      RunsNoTool world after := by
  -- The second program is looked up on the machine that the first look has left as it was.
  obtain ⟨between, looked, quiet⟩ := run_lookUp settings "magick" world
  unfold commandStart startWords
  rw [Task.run_bind_of_ok looked]
  cases found? (world.machine.programs.lookup "magick") with
  | some magick =>
    refine ⟨between, ?_, quiet⟩
    simp only
    split <;> rfl
  | none =>
    obtain ⟨after, lookedAgain, quietAgain⟩ := run_lookUp settings tool between
    refine ⟨after, ?_, RunsTools.history.trans quiet quietAgain⟩
    simp only
    rw [Task.run_bind_of_ok lookedAgain, quiet.machine]
    rfl

end Magick

end Thumbnailing
