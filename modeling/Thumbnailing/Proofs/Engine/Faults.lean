import Thumbnailing.Proofs.Engine.Steps
import Thumbnailing.Proofs.World.Faults
import Thumbnailing.Proofs.World.Files
import Thumbnailing.Proofs.World.Temporary
import Thumbnailing.Proofs.World.ToolCalls

set_option autoImplicit false

namespace Thumbnailing

namespace World.IsQuiet

theorem logAll (records : List LogRecord) : Task.Keeps IsQuiet (logAll records) :=
  fun _ => ⟨rfl, rfl⟩

theorem recordCall (call : Call) : Task.Keeps IsQuiet (recordCall call) := fun _ => ⟨rfl, rfl⟩

theorem change (path : Path) (step : FileTree → Location → Except StorageFault FileTree) :
    Task.Keeps IsQuiet (Files.change path step) := by
  intro world
  rcases Files.change_cases path step world with ⟨failure, ran⟩ | ⟨files, -, -, ran⟩
  · rw [ran]
    exact history.refl world
  · rw [ran]
    exact ⟨rfl, rfl⟩

theorem write (path : Path) (content : Bytes) : Task.Keeps IsQuiet (Files.write path content) :=
  Files.write_keeps history (fun _ => change _ _) content

theorem saveMagick (settings : Settings) (command : MagickCommand) (destination : Path) :
    Task.Keeps IsQuiet (Magick.save settings command destination) := by
  refine .bind history (logAll _) fun _ => .discard history ?_
  refine Magick.runTool_keeps history (fun _ _ => recordCall _) (fun start => ?_) "convert"
  exact Tool.runCommand_keeps history (recordCall _) fun content => change _ _

end World.IsQuiet

namespace Engine

open World (IsQuiet)

theorem reports : IsStepClass (fun task => Reports id id task)
    (fun task => Reports id Prod.fst task) (fun task => Reports id Session.world task) where
  worlds := .reports id id
  jobs := .reports id Prod.fst
  onWorld reports := reports.onPart (fun _ => rfl) fun _ _ => rfl
  job := .bind .read fun _ => (Task.IsClosed.reports id Prod.fst).succeed _
  changeJob _ := .of_quiet fun _ => ⟨rfl, rfl⟩
  load := .of_quiet Library.load_isQuiet
  ask := Library.ask_reports
  openPicture := Library.openPicture_reports
  transform := Library.transform_reports
  setMetadata := Library.setMetadata_reports
  sessions := .reports id Session.world
  inSession reports := reports.onPart (fun _ => rfl) fun _ _ => rfl
  onJob adds works := by
    rintro ⟨world, job⟩
    cases job with
    | none => exact .of_quiet (IsQuiet.history.refl world)
    | some job =>
      cases job with
      | magick command => exact adds command ⟨world, some (.magick command)⟩
      | vips job => exact works (world, job)
  setJob _ := .of_quiet fun _ => ⟨rfl, rfl⟩
  logAll records := .of_quiet (IsQuiet.logAll records)

theorem save_reports (engine : Engine) (destination : Path) :
    Reports id Session.world (engine.save destination) := by
  refine reports.onJob (fun command => reports.inSession ?_) ?_
  · exact .of_quiet (IsQuiet.saveMagick _ _ _)
  · refine reports.jobs.bind reports.picture fun picture => reports.jobs.bind reports.job fun job => ?_
    refine reports.onWorld ?_
    have encodes (extension : String) (options : Entries) : Reports id id (do
        Files.write destination (← Library.encode extension options picture)) :=
      .bind (Library.encode_reports _ _ _) fun content => .of_quiet (IsQuiet.write _ _)
    dsimp only
    split
    · exact .bind (.of_quiet (IsQuiet.logAll _)) fun _ => encodes _ _
    · exact encodes _ _

end Engine

namespace Pipeline

theorem execute_reports (engine : Engine) (operation : Operation) :
    Reports id Session.world (execute engine operation) :=
  Engine.reports.execute engine fun destination _ => engine.save_reports destination

theorem step_reports (engine : Engine) (operation : Operation) :
    Reports engine.translated Session.world (step engine operation) :=
  (execute_reports engine operation).reword fun _ _ => rfl

theorem perform_reports (engine : Engine) (operations : List Operation) :
    Reports engine.translated id (perform engine operations) := by
  have closed := Task.IsClosed.reports engine.translated Session.world
  have steps : Reports engine.translated Session.world
      (do return (← Task.forAll (step engine) operations).filterMap id) :=
    closed.bind (closed.forAll fun operation _ => step_reports engine operation) fun _ =>
      closed.succeed _
  exact steps.onPart (fun _ => rfl) fun _ _ => rfl

def failsInLibrary (engine : Engine) (operation : Operation) (session : Session) : Bool :=
  match ((execute engine operation).run session).1 with
  | .ok _ => false
  | .error failure => Vips.isLibraryFault failure

def meetsFault (engine : Engine) : List Operation → Session → Bool
  | [], _ => false
  | operation :: rest, session =>
    failsInLibrary engine operation session ||
      match (execute engine operation).run session with
      | (.ok _, after) => meetsFault engine rest after
      | (.error _, _) => false

theorem failsInLibrary_of_call {engine : Engine} {operation : Operation} {session : Session}
    (failed : session.world.libraryFailedSince
      ((execute engine operation).run session).2.world = true) :
    failsInLibrary engine operation session = true := by
  obtain ⟨message, said⟩ := (execute_reports engine operation session).of_failed failed
  rw [failsInLibrary, said]
  rfl

theorem step_of_fault {engine : Engine} {operation : Operation} {session : Session}
    (fails : failsInLibrary engine operation session = true) : ∃ message after,
    (step engine operation).run session =
      (.error (engine.translated (.imageLibrary message)), after) := by
  unfold failsInLibrary at fails
  rcases ran : (execute engine operation).run session with ⟨outcome, after⟩
  rw [ran] at fails
  cases outcome with
  | ok outcome => cases fails
  | error failure =>
    obtain ⟨message, rfl⟩ := Vips.isLibraryFault_iff.mp fails
    exact ⟨message, after, Task.run_rescue_of_error ran⟩

theorem steps_of_fault {engine : Engine} {operations : List Operation} {session : Session}
    (meets : meetsFault engine operations session = true) : ∃ message after,
    (Task.forAll (step engine) operations).run session =
      (.error (engine.translated (.imageLibrary message)), after) := by
  -- The operations before the one that fails move the session on.
  induction operations generalizing session with
  | nil => cases meets
  | cons operation rest ih =>
    rw [meetsFault, Bool.or_eq_true] at meets
    rcases meets with fails | later
    · obtain ⟨message, after, failed⟩ := step_of_fault fails
      exact ⟨message, after, Task.run_bind_of_error failed⟩
    · rcases ran : (execute engine operation).run session with ⟨outcome, between⟩
      rw [ran] at later
      cases outcome with
      | error failure => cases later
      | ok outcome =>
        obtain ⟨message, after, failed⟩ := ih later
        refine ⟨message, after, ?_⟩
        have stepped : (step engine operation).run session = (.ok outcome, between) :=
          Task.run_rescue_of_ok ran
        rw [Task.forAll, Task.run_bind_of_ok stepped]
        exact Task.run_bind_of_error failed

theorem perform_of_fault {engine : Engine} {operations : List Operation} {world : World}
    (meets : meetsFault engine operations ⟨world, none⟩ = true) : ∃ message after,
    (perform engine operations).run world =
      (.error (engine.translated (.imageLibrary message)), after) := by
  obtain ⟨message, after, failed⟩ := steps_of_fault meets
  exact ⟨message, after.world, by rw [perform, Task.run_onPart, Task.run_bind_of_error failed]⟩

end Pipeline

namespace Vips

def probed (failure : Failure) : Failure :=
  if isLibraryFault failure then Magick.unreadable .vips else failure

def counted : Failure → Failure
  | .imageLibrary message => processingFailed ("Could not count frames: " ++ message)
  | failure => failure

theorem probe_reports (settings : Settings) (path : Path) :
    Reports probed id (probe settings path) := by
  have closed := Task.IsClosed.reports id (id : World → World)
  refine .bind (.of_quiet Library.load_isQuiet) fun _ => Reports.reword ?_ fun _ _ => rfl
  refine closed.bind (Library.openPicture_reports _ _) fun picture => ?_
  exact closed.bind (Engine.reports.orientationOf _ _) fun orientation => closed.succeed _

theorem countFrames_reports (path : Option Path) : Reports counted id (countFrames path) := by
  refine .bind (.of_quiet Library.load_isQuiet) fun _ =>
    (Engine.reports.pagesOf path).reword fun failure world => ?_
  cases failure <;> rfl

theorem countFrames_inPlace (path : Option Path) :
    Task.Keeps World.IsInPlace (countFrames path) := by
  have history := World.IsInPlace.history
  have indifferent := World.IsInPlace.indifferent
  refine .bind history indifferent.load fun _ => .rescue history ?_ fun failure => ?_
  · refine .bind history (indifferent.openPicture fun _ _ => ⟨rfl, rfl, rfl⟩) fun picture => ?_
    exact .bind history (indifferent.metadata _ _) fun pages => .ofOutcome history _
  · split <;> exact .fail history _

end Vips

end Thumbnailing
