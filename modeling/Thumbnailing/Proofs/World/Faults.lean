import Thumbnailing.Engine.Vips
import Thumbnailing.Proofs.World.Library

set_option autoImplicit false

namespace Thumbnailing

theorem Vips.isLibraryFault_iff {failure : Failure} :
    isLibraryFault failure = true ↔ ∃ message, failure = .imageLibrary message := by
  cases failure <;> simp [isLibraryFault]

def Machine.faults (machine : Machine) (number : Nat) : List String → List Failure
  | [] => []
  | method :: rest => (machine.fault? number method).toList ++ machine.faults (number + 1) rest

theorem Machine.faults_append (machine : Machine) (number : Nat) (first rest : List String) :
    machine.faults number (first ++ rest) =
      machine.faults number first ++ machine.faults (number + first.length) rest := by
  induction first generalizing number with
  | nil => rfl
  | cons method first ih =>
    simp only [List.cons_append, faults, ih, List.append_assoc, List.length_cons]
    rw [Nat.add_right_comm, Nat.add_assoc]

theorem Machine.faults_eq_nil {machine : Machine}
    (faultless : ∀ number method, machine.fault? number method = none) (number : Nat)
    (asked : List String) : machine.faults number asked = [] := by
  induction asked generalizing number with
  | nil => rfl
  | cons method rest ih => simp [faults, faultless, ih]

theorem Machine.mem_faults_single {machine : Machine} {number : Nat} {method : String}
    {failure : Failure} :
    failure ∈ machine.faults number [method] ↔ machine.fault? number method = some failure := by
  simp [faults, Option.mem_toList]

namespace World

/-- What the library failed with since an earlier world. -/
def faultsSince (before after : World) : List Failure :=
  before.machine.faults before.asked.length (after.asked.drop before.asked.length)

def libraryFailedSince (before after : World) : Bool :=
  (before.faultsSince after).any Vips.isLibraryFault

theorem faultsSince_eq {before after : World} {asked : List String}
    (questions : after.asked = before.asked ++ asked) :
    before.faultsSince after = before.machine.faults before.asked.length asked := by
  rw [faultsSince, questions, List.drop_left]

structure IsFurther (before after : World) : Prop where
  machine : after.machine = before.machine
  asked : ∃ asked, after.asked = before.asked ++ asked

theorem IsFurther.trans {before between after : World} (first : before.IsFurther between)
    (rest : between.IsFurther after) : before.IsFurther after := by
  obtain ⟨machine, early, asked⟩ := first
  obtain ⟨machineLater, late, askedLater⟩ := rest
  exact ⟨machineLater.trans machine, early ++ late, by rw [askedLater, asked, List.append_assoc]⟩

theorem faultsSince_append {before between after : World} (first : before.IsFurther between)
    (rest : between.IsFurther after) :
    before.faultsSince after = before.faultsSince between ++ between.faultsSince after := by
  obtain ⟨machine, early, asked⟩ := first
  obtain ⟨-, late, askedLater⟩ := rest
  have whole : after.asked = before.asked ++ (early ++ late) := by
    rw [askedLater, asked, List.append_assoc]
  rw [faultsSince_eq whole, faultsSince_eq asked, faultsSince_eq askedLater, Machine.faults_append,
    machine, asked, List.length_append]

structure IsQuiet (before after : World) : Prop where
  machine : after.machine = before.machine
  asked : after.asked = before.asked

theorem IsQuiet.history : Task.IsHistory IsQuiet where
  refl _ := ⟨rfl, rfl⟩
  trans first rest := ⟨rest.machine.trans first.machine, rest.asked.trans first.asked⟩

theorem IsQuiet.isFurther {before after : World} (quiet : before.IsQuiet after) :
    before.IsFurther after := ⟨quiet.machine, [], by simp [quiet.asked]⟩

theorem IsQuiet.faultsSince {before after : World} (quiet : before.IsQuiet after) :
    before.faultsSince after = [] := by
  rw [faultsSince_eq (show after.asked = before.asked ++ [] by simp [quiet.asked])]
  rfl

theorem libraryFailedSince_quiet {before between after : World} (quiet : between.IsQuiet after) :
    before.libraryFailedSince after = before.libraryFailedSince between := by
  simp only [libraryFailedSince, faultsSince, quiet.asked]

/-- A run that ended on the first question to the library that failed, in these words for the
failure, or met no such question. -/
structure IsReported {Result : Type} (words : Failure → Failure) (before : World)
    (outcome : Outcome Result) (after : World) : Prop where
  machine : after.machine = before.machine
  questions : ∃ asked, after.asked = before.asked ++ asked ∧
    ∀ failure ∈ before.machine.faults before.asked.length asked, outcome = .error (words failure)

namespace IsReported

variable {Result Other : Type} {words : Failure → Failure} {before between after : World}
  {outcome : Outcome Result}

theorem of_quiet (quiet : IsQuiet before after) : IsReported words before outcome after :=
  ⟨quiet.machine, [], by simp [quiet.asked], by simp [Machine.faults]⟩

theorem of_question {method : String} (asked : after.asked = before.asked ++ [method])
    (machine : after.machine = before.machine)
    (said : ∀ failure, before.machine.fault? before.asked.length method = some failure →
      outcome = .error (words failure)) : IsReported words before outcome after :=
  ⟨machine, [method], asked, fun failure member => said failure (Machine.mem_faults_single.mp member)⟩

theorem isFurther (reported : IsReported words before outcome after) : before.IsFurther after :=
  ⟨reported.machine, reported.questions.imp fun _ => And.left⟩

theorem after_ok {result : Other} (first : IsReported words before (.ok result) between)
    (rest : IsReported words between outcome after) : IsReported words before outcome after := by
  obtain ⟨machine, early, asked, silent⟩ := first
  obtain ⟨machineLater, late, askedLater, said⟩ := rest
  refine ⟨machineLater.trans machine, early ++ late, ?_, fun failure member => ?_⟩
  · rw [askedLater, asked, List.append_assoc]
  · rw [Machine.faults_append] at member
    rcases List.mem_append.mp member with earlier | later
    · cases silent failure earlier
    · refine said failure ?_
      rwa [asked, List.length_append, machine]

theorem then_quiet (first : IsReported words before outcome between)
    (quiet : IsQuiet between after) : IsReported words before outcome after := by
  obtain ⟨machine, asked, questions, said⟩ := first
  exact ⟨quiet.machine.trans machine, asked, quiet.asked.trans questions, said⟩

theorem reword {other : Outcome Other} (first : IsReported id before outcome after)
    (reworded : ∀ failure, outcome = .error failure → other = .error (words failure)) :
    IsReported words before other after := by
  obtain ⟨machine, asked, questions, said⟩ := first
  exact ⟨machine, asked, questions, fun failure member => reworded failure (said failure member)⟩

theorem of_failed (reported : IsReported words before outcome after)
    (failed : before.libraryFailedSince after = true) :
    ∃ message, outcome = .error (words (.imageLibrary message)) := by
  obtain ⟨-, asked, questions, said⟩ := reported
  rw [World.libraryFailedSince, faultsSince_eq questions, List.any_eq_true] at failed
  obtain ⟨failure, member, own⟩ := failed
  obtain ⟨message, rfl⟩ := Vips.isLibraryFault_iff.mp own
  exact ⟨message, said _ member⟩

end IsReported

end World

/-- Every run of a task reports the first call of the library that fails in these words. -/
def Reports {State Result : Type} (words : Failure → Failure) (world : State → World)
    (task : Task State Result) : Prop :=
  ∀ state, World.IsReported words (world state) (task.run state).1 (world (task.run state).2)

namespace Reports

variable {State Part Result Other : Type} {words : Failure → Failure} {world : State → World}

theorem of_quiet {task : Task State Result}
    (quiet : Task.Keeps (fun before after => (world before).IsQuiet (world after)) task) :
    Reports words world task := fun state => .of_quiet (quiet state)

theorem bind {task : Task State Result} {next : Result → Task State Other}
    (first : Reports words world task) (rest : ∀ result, Reports words world (next result)) :
    Reports words world (task >>= next) := by
  intro state
  have started := first state
  rw [Task.run_bind]
  rcases ran : task.run state with ⟨outcome, between⟩
  rw [ran] at started
  cases outcome with
  | ok result => exact started.after_ok (rest result between)
  | error failure =>
    obtain ⟨machine, asked, questions, said⟩ := started
    refine ⟨machine, asked, questions, fun other member => ?_⟩
    cases said other member
    rfl

theorem read : Reports words world Task.read := .of_quiet fun _ => World.IsQuiet.history.refl _

theorem reword {task : Task State Result} {other : Failure → Task State Result}
    (first : Reports id world task)
    (reworded : ∀ failure state, (other failure).run state = (.error (words failure), state)) :
    Reports words world (task.rescue other) := by
  intro state
  have started := first state
  rcases ran : task.run state with ⟨outcome, after⟩
  rw [ran] at started
  cases outcome with
  | ok result =>
    rw [Task.run_rescue_of_ok ran]
    exact started.reword nofun
  | error failure =>
    rw [Task.run_rescue_of_error ran, reworded]
    refine started.reword fun other same => ?_
    cases same
    rfl

theorem onPart {part : State → Part} {replace : State → Part → State} {inner : Part → World}
    {task : Task Part Result} (reports : Reports words inner task)
    (starts : ∀ state, world state = inner (part state))
    (ends : ∀ state after, world (replace state after) = inner after) :
    Reports words world (task.onPart part replace) := by
  intro state
  rw [Task.run_onPart, starts, ends]
  exact reports (part state)

end Reports

theorem Task.IsClosed.reports {State : Type} (words : Failure → Failure) (world : State → World) :
    IsClosed fun task => Reports words world task where
  ofOutcome _ _ := .of_quiet (World.IsQuiet.history.refl _)
  bind := .bind

namespace Library

theorem load_isQuiet : Task.Keeps World.IsQuiet load :=
  load_keeps World.IsQuiet.history fun _ => ⟨rfl, rfl⟩

theorem ask_reports (method : String) : Reports id id (ask method) := by
  intro world
  change World.IsReported id world _ _
  rw [run_ask]
  refine .of_question rfl rfl fun failure failed => ?_
  rw [failed, id]

theorem produce_reports (call : Option Nat → Call) (raster : Raster) :
    Reports id id (produce call raster) := by
  intro world
  change World.IsReported id world _ _
  rcases found : world.machine.fault? world.asked.length (call none).method with _ | failure
  next =>
    have made : (produce call raster).run world =
        (.ok ⟨world.pictureCount, raster⟩, world.yielded call) :=
      produce_eq_ok.mpr ⟨found, rfl, rfl⟩
    rw [made]
    refine .of_question rfl rfl fun failure failed => ?_
    cases found.symm.trans failed
  next =>
    rw [run_produce_of_fault found]
    refine .of_question rfl rfl fun other same => ?_
    cases found.symm.trans same
    rfl

theorem perform_reports (call : Call) : Reports id id (perform call) :=
  .bind (.of_quiet fun _ => ⟨rfl, rfl⟩) fun _ => ask_reports _

theorem openPicture_reports (path : String) (options : Entries) :
    Reports id id (openPicture path options) :=
  .bind .read fun _ => produce_reports _ _

theorem transform_reports (transformation : Transformation) (picture : Picture) :
    Reports id id (transform transformation picture) :=
  .bind ((Task.IsClosed.reports id id).ofOutcome _) fun _ => produce_reports _ _

theorem setMetadata_reports (name : String) (value : Value) (picture : Picture) :
    Reports id id (setMetadata name value picture) :=
  .bind (perform_reports _) fun _ => (Task.IsClosed.reports id id).succeed _

theorem encode_reports (extension : String) (options : Entries) (picture : Picture) :
    Reports id id (encode extension options picture) :=
  .bind (perform_reports _) fun _ => (Task.IsClosed.reports id id).succeed _

end Library

end Thumbnailing
