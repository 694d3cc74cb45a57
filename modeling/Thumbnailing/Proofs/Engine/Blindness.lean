import Thumbnailing.Proofs.Engine.Commands
import Thumbnailing.Proofs.Engine.Steps
import Thumbnailing.Proofs.World.Files

set_option autoImplicit false

namespace Thumbnailing

def World.withLog (world : World) (log : List LogRecord) : World := { world with log }

def Session.withLog (session : Session) (log : List LogRecord) : Session :=
  { session with world := session.world.withLog log }

/-- A task that runs alike whatever the detail of its state that `vary` replaces. -/
def IsBlind {State Detail Result : Type} (vary : State → Detail → State)
    (task : Task State Result) : Prop :=
  ∀ state detail, ∃ after, task.run (vary state detail) =
    ((task.run state).1, vary (task.run state).2 after)

namespace IsBlind

variable {State Detail Part Result Other : Type} {vary : State → Detail → State}

theorem bind {task : Task State Result} {next : Result → Task State Other}
    (first : IsBlind vary task) (rest : ∀ result, IsBlind vary (next result)) :
    IsBlind vary (task >>= next) := by
  intro state detail
  obtain ⟨between, started⟩ := first state detail
  rw [Task.run_bind, Task.run_bind, started]
  rcases task.run state with ⟨outcome, reached⟩
  cases outcome with
  | error failure => exact ⟨between, rfl⟩
  | ok result => exact rest result reached between

theorem onPart {part : State → Part} {replace : State → Part → State}
    {inner : Part → Detail → Part} {task : Task Part Result} (blind : IsBlind inner task)
    (starts : ∀ state detail, part (vary state detail) = inner (part state) detail)
    (ends : ∀ state after detail further,
      replace (vary state detail) (inner after further) = vary (replace state after) further) :
    IsBlind vary (task.onPart part replace) := by
  intro state detail
  obtain ⟨after, ran⟩ := blind (part state) detail
  refine ⟨after, ?_⟩
  rw [Task.run_onPart, Task.run_onPart, starts, ran, ends]

theorem run_vary {task : Task State Result} (blind : IsBlind vary task) {state after : State}
    {detail : Detail} {outcome : Outcome Result}
    (vary_vary : ∀ (state : State) (first last : Detail),
      vary (vary state first) last = vary state last)
    (ran : task.run (vary state detail) = (outcome, after)) (other : Detail) :
    ∃ further, task.run (vary state other) = (outcome, vary after further) := by
  obtain ⟨middle, first⟩ := blind state detail
  obtain ⟨last, second⟩ := blind state other
  rw [ran, Prod.mk.injEq] at first
  obtain ⟨rfl, rfl⟩ := first
  exact ⟨last, by rw [second, vary_vary]⟩

end IsBlind

theorem Task.IsClosed.blind {State Detail : Type} (vary : State → Detail → State) :
    IsClosed fun task => IsBlind vary task where
  ofOutcome _ _ detail := ⟨detail, rfl⟩
  bind := .bind

namespace Library

theorem load_isBlind : IsBlind World.withLog load := by
  intro world log
  refine ⟨log, ?_⟩
  simp only [load, Task.run_bind, Task.run_read, World.withLog]
  split
  · rfl
  · split <;> rfl

theorem ask_isBlind (method : String) : IsBlind World.withLog (ask method) := by
  intro world log
  exact ⟨log, by rw [run_ask, run_ask]; rfl⟩

theorem produce_isBlind (call : Option Nat → Call) (raster : Raster) :
    IsBlind World.withLog (produce call raster) := by
  intro world log
  refine ⟨log, ?_⟩
  simp only [produce, Task.run_bind, Task.run_attempt, run_ask, World.withLog]
  cases world.machine.fault? world.asked.length (call none).method <;> rfl

theorem openPicture_isBlind (path : String) (options : Entries) :
    IsBlind World.withLog (openPicture path options) :=
  -- The raster that is opened depends on the machine alone.
  fun world log => produce_isBlind _ _ world log

theorem transform_isBlind (transformation : Transformation) (picture : Picture) :
    IsBlind World.withLog (transform transformation picture) :=
  .bind ((Task.IsClosed.blind World.withLog).ofOutcome _) fun _ => produce_isBlind _ _

theorem perform_isBlind (call : Call) : IsBlind World.withLog (perform call) := by
  intro world log
  exact ⟨log, by rw [run_perform, run_perform]; rfl⟩

theorem setMetadata_isBlind (name : String) (value : Value) (picture : Picture) :
    IsBlind World.withLog (setMetadata name value picture) :=
  .bind (perform_isBlind _) fun _ => (Task.IsClosed.blind World.withLog).succeed _

theorem encode_isBlind (extension : String) (options : Entries) (picture : Picture) :
    IsBlind World.withLog (encode extension options picture) :=
  .bind (perform_isBlind _) fun _ => (Task.IsClosed.blind World.withLog).succeed _

end Library

theorem logAll_isBlind (records : List LogRecord) : IsBlind World.withLog (logAll records) :=
  fun _ log => ⟨log ++ records, rfl⟩

theorem Engine.blind : IsStepClass (fun task => IsBlind World.withLog task)
    (fun task => IsBlind (fun (state : World × VipsJob) log => (state.1.withLog log, state.2)) task)
    (fun task => IsBlind Session.withLog task) where
  worlds := .blind World.withLog
  jobs := .blind _
  onWorld blind := blind.onPart (fun _ _ => rfl) fun _ _ _ _ => rfl
  job _ log := ⟨log, rfl⟩
  changeJob _ _ log := ⟨log, rfl⟩
  load := Library.load_isBlind
  ask := Library.ask_isBlind
  openPicture := Library.openPicture_isBlind
  transform := Library.transform_isBlind
  setMetadata := Library.setMetadata_isBlind
  sessions := .blind Session.withLog
  inSession blind := blind.onPart (fun _ _ => rfl) fun _ _ _ _ => rfl
  onJob adds works := by
    rintro ⟨world, job⟩ log
    cases job with
    | none => exact ⟨log, rfl⟩
    | some job =>
      cases job with
      | magick command => exact adds command ⟨world, some (.magick command)⟩ log
      | vips job =>
        obtain ⟨after, ran⟩ := works (world, job) log
        refine ⟨after, ?_⟩
        simp only [Session.withLog, Engine.run_onJob_vips, ran]
  setJob _ _ log := ⟨log, rfl⟩
  logAll := logAll_isBlind

theorem Files.put_isBlind (path : Path) (content : Bytes) :
    IsBlind World.withLog (Files.put path content) := by
  intro world log
  refine ⟨log, ?_⟩
  simp only [Files.put, Files.change, Task.run_bind, Task.run_ofOutcome, Task.run_read,
    Task.run_modify, World.withLog]
  cases Files.checkName path with
  | error failure => rfl
  | ok _ =>
    cases written : Files.ofFault (world.files.write world.workingFolder path content) with
    | error failure => simp only [written]
    | ok files => simp only [written]

theorem Files.leave_isBlind (path : Path) (content : Option Bytes) :
    IsBlind World.withLog (Files.leave path content) := by
  cases content with
  | none => exact (Task.IsClosed.blind World.withLog).succeed ()
  | some content => exact put_isBlind path content

theorem Files.write_isBlind (path : Path) (content : Bytes) :
    IsBlind World.withLog (Files.write path content) := by
  intro world log
  -- Whether there is a fault depends on the machine alone.
  cases found : world.machine.writeFaults path with
  | none =>
    have blind := put_isBlind path content world log
    rwa [run_write_of_none world found, run_write_of_none (world.withLog log) found]
  | some problem =>
    rw [run_write_of_some world found, run_write_of_some (world.withLog log) found]
    have closed := Task.IsClosed.blind World.withLog
    exact IsBlind.bind (leave_isBlind path _) (fun _ => closed.fail _) world log

theorem Vips.save_isBlind (destination : Path) :
    IsBlind (fun (state : World × VipsJob) log => (state.1.withLog log, state.2))
      (Vips.save destination) := by
  have writes (extension : String) (options : Entries) (picture : Picture) :
      IsBlind World.withLog (do
        Files.write destination (← Library.encode extension options picture)) :=
    .bind (Library.encode_isBlind _ _ _) fun content => Files.write_isBlind _ content
  refine .bind Engine.blind.picture fun picture => .bind Engine.blind.job fun job => ?_
  refine Engine.blind.onWorld ?_
  split
  · exact .bind (logAll_isBlind _) fun _ => writes _ _ _
  · exact writes _ _ _

end Thumbnailing
