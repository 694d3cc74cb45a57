import Thumbnailing.Proofs.World.Faults

set_option autoImplicit false

namespace Thumbnailing

namespace World

def HasLibrary (world : World) : Prop :=
  world.libraryLoaded = true ∨ world.machine.hasLibrary = true

structure IsBlamed {Result : Type} (before : World) (outcome : Outcome Result) (after : World) :
    Prop where
  machine : after.machine = before.machine
  loaded : before.libraryLoaded = true → after.libraryLoaded = true
  questions : ∃ asked, after.asked = before.asked ++ asked ∧
    ∀ failure, outcome = .error failure →
      failure ∈ before.machine.faults before.asked.length asked

namespace IsBlamed

variable {Result Other : Type} {before between after : World} {outcome : Outcome Result}

theorem hasLibrary (blamed : IsBlamed before outcome after) (present : before.HasLibrary) :
    after.HasLibrary := by
  rcases present with loaded | installed
  · exact .inl (blamed.loaded loaded)
  · exact .inr (by rwa [blamed.machine])

theorem of_quiet {result : Result} (quiet : IsQuiet before after)
    (loaded : before.libraryLoaded = true → after.libraryLoaded = true) :
    IsBlamed before (.ok result) after :=
  ⟨quiet.machine, loaded, [], by simp [quiet.asked], nofun⟩

theorem refl (world : World) (result : Result) : IsBlamed world (.ok result) world :=
  of_quiet (IsQuiet.history.refl world) id

theorem of_question {method : String} (asked : after.asked = before.asked ++ [method])
    (machine : after.machine = before.machine) (loaded : after.libraryLoaded = before.libraryLoaded)
    (said : ∀ failure, outcome = .error failure →
      before.machine.fault? before.asked.length method = some failure) :
    IsBlamed before outcome after := by
  refine ⟨machine, loaded.trans, [method], asked, fun failure failed => ?_⟩
  exact Machine.mem_faults_single.mpr (said failure failed)

theorem after_ok {result : Other} (first : IsBlamed before (.ok result) between)
    (rest : IsBlamed between outcome after) : IsBlamed before outcome after := by
  obtain ⟨machine, loaded, early, asked, -⟩ := first
  obtain ⟨machineLater, loadedLater, late, askedLater, said⟩ := rest
  refine ⟨machineLater.trans machine, fun first => loadedLater (loaded first), early ++ late, ?_,
    fun failure failed => ?_⟩
  · rw [askedLater, asked, List.append_assoc]
  · rw [Machine.faults_append]
    refine List.mem_append_right _ ?_
    simpa [asked, machine] using said failure failed

theorem mem_faultsSince {failure : Failure}
    (blamed : before.IsBlamed (.error failure : Outcome Result) after) :
    failure ∈ before.faultsSince after := by
  obtain ⟨-, -, asked, questions, said⟩ := blamed
  rw [faultsSince_eq questions]
  exact said failure rfl

theorem isOk (blamed : IsBlamed before outcome after) (sound : before.faultsSince after = []) :
    ∃ result, outcome = .ok result := by
  cases outcome with
  | ok result => exact ⟨result, rfl⟩
  | error failure =>
    have met := blamed.mem_faultsSince
    rw [sound] at met
    cases met

end IsBlamed

end World

def BlamesFrom {State Result : Type} (world : State → World) (task : Task State Result)
    (state : State) : Prop :=
  World.IsBlamed (world state) (task.run state).1 (world (task.run state).2)

namespace BlamesFrom

variable {State Part Result Other : Type} {world : State → World} {state : State}

theorem of_ok {task : Task State Result} {result : Result}
    (ran : task.run state = (.ok result, state)) : BlamesFrom world task state := by
  rw [BlamesFrom, ran]
  exact .refl _ _

theorem bind {task : Task State Result} {next : Result → Task State Other}
    (first : BlamesFrom world task state)
    (rest : ∀ result between, task.run state = (.ok result, between) →
      BlamesFrom world (next result) between) : BlamesFrom world (task >>= next) state := by
  rw [BlamesFrom] at first
  rw [BlamesFrom, Task.run_bind]
  rcases ran : task.run state with ⟨outcome, between⟩
  rw [ran] at first
  cases outcome with
  | ok result => exact first.after_ok (rest result between ran)
  | error failure =>
    obtain ⟨machine, loaded, asked, questions, said⟩ := first
    refine ⟨machine, loaded, asked, questions, fun other same => ?_⟩
    cases same
    exact said failure rfl

theorem onPart {part : State → Part} {replace : State → Part → State} {inner : Part → World}
    {task : Task Part Result} (blames : BlamesFrom inner task (part state))
    (starts : world state = inner (part state))
    (ends : ∀ after, world (replace state after) = inner after) :
    BlamesFrom world (task.onPart part replace) state := by
  rw [BlamesFrom, Task.run_onPart, starts, ends]
  exact blames

theorem onWorld {state : World × VipsJob} {task : Task World Result}
    (blames : BlamesFrom id task state.1) : BlamesFrom Prod.fst (Vips.onWorld task) state := blames

theorem mem_faultsSince {task : Task State Result} {failure : Failure} {after : State}
    (blames : BlamesFrom world task state) (ran : task.run state = (.error failure, after)) :
    failure ∈ (world state).faultsSince (world after) := by
  rw [BlamesFrom, ran] at blames
  exact blames.mem_faultsSince

end BlamesFrom

/-- Where the library can be loaded, it alone can make the task fail. -/
def Blames {State Result : Type} (world : State → World) (task : Task State Result) : Prop :=
  ∀ state, (world state).HasLibrary → BlamesFrom world task state

namespace Blames

variable {State Part Result Other : Type} {world : State → World}

theorem succeed (result : Result) : Blames world (pure result : Task State Result) :=
  fun _ _ => .of_ok rfl

theorem read : Blames world Task.read := fun _ _ => .of_ok rfl

theorem modify {change : State → State} (aside : ∀ state, world (change state) = world state) :
    Blames world (Task.modify change) := by
  intro state _
  rw [BlamesFrom, Task.run_modify, aside]
  exact .refl _ _

theorem bind {task : Task State Result} {next : Result → Task State Other}
    (first : Blames world task) (rest : ∀ result, Blames world (next result)) :
    Blames world (task >>= next) := by
  intro state present
  have started := first state present
  refine started.bind fun result between ran => rest result between ?_
  rw [BlamesFrom, ran] at started
  exact started.hasLibrary present

theorem onPart {part : State → Part} {replace : State → Part → State} {inner : Part → World}
    {task : Task Part Result} (blames : Blames inner task)
    (starts : ∀ state, world state = inner (part state))
    (ends : ∀ state after, world (replace state after) = inner after) :
    Blames world (task.onPart part replace) := by
  intro state present
  rw [starts] at present
  exact (blames (part state) present).onPart (starts state) (ends state)

end Blames

namespace Library

theorem load_blames : Blames id load := by
  intro world present
  change World.IsBlamed world _ _
  by_cases loaded : world.libraryLoaded = true
  · rw [load_again loaded]
    exact .refl _ _
  · have installed : world.machine.hasLibrary = true := present.resolve_left loaded
    have made : load.run world = (.ok (), { world with libraryLoaded := true }) := by
      simp only [load, Task.run_bind, Task.run_read, if_neg loaded, if_pos installed]
      rfl
    rw [made]
    exact .of_quiet ⟨rfl, rfl⟩ fun _ => rfl

theorem ask_blamesFrom (method : String) (world : World) : BlamesFrom id (ask method) world := by
  rw [BlamesFrom, run_ask]
  refine .of_question rfl rfl rfl fun failure failed => ?_
  split at failed
  · rename_i other found
    cases failed
    exact found
  · cases failed

theorem produce_blamesFrom (call : Option Nat → Call) (raster : Raster) (world : World) :
    BlamesFrom id (produce call raster) world := by
  rw [BlamesFrom]
  rcases found : world.machine.fault? world.asked.length (call none).method with _ | failure
  next =>
    rw [produce_eq_ok.mpr ⟨found, rfl, rfl⟩]
    exact .of_question rfl rfl rfl nofun
  next =>
    rw [run_produce_of_fault found]
    refine .of_question rfl rfl rfl fun other same => ?_
    cases same
    exact found

theorem transform_blamesFrom {transformation : Transformation} {picture : Picture} {result : Raster}
    (drawn : transformation.result picture.raster = .ok result) (world : World) :
    BlamesFrom id (transform transformation picture) world := by
  have known : (Task.ofOutcome (transformation.result picture.raster)).run world =
      (.ok result, world) := by rw [drawn]; rfl
  refine (BlamesFrom.of_ok known).bind fun raster between same => ?_
  exact produce_blamesFrom _ raster between

theorem perform_blamesFrom (call : Call) (world : World) : BlamesFrom id (perform call) world := by
  have records : BlamesFrom id (recordCall call) world := .of_quiet ⟨rfl, rfl⟩ id
  exact records.bind fun _ between _ => ask_blamesFrom _ between

theorem setMetadata_blamesFrom (name : String) (value : Value) (picture : Picture) (world : World) :
    BlamesFrom id (setMetadata name value picture) world :=
  (perform_blamesFrom _ world).bind fun _ _ _ => .of_ok rfl

theorem metadata_blamesFrom (name : String) (picture : Picture) (world : World) :
    BlamesFrom id (metadata? name picture) world := by
  refine (ask_blamesFrom _ world).bind fun _ between _ => ?_
  split
  · exact .of_ok rfl
  · exact (ask_blamesFrom _ between).bind fun _ _ _ => .of_ok rfl

theorem openPicture_blamesFrom (path : String) (options : Entries) (world : World) :
    BlamesFrom id (openPicture path options) world := produce_blamesFrom _ _ world

theorem hasAlpha_blames (picture : Picture) : Blames id (hasAlpha picture) :=
  fun world _ => (ask_blamesFrom _ world).bind fun _ _ _ => .of_ok rfl

theorem transform_blames {transformation : Transformation}
    (drawn : ∀ raster, ∃ result, transformation.result raster = .ok result) (picture : Picture) :
    Blames id (transform transformation picture) := by
  intro world _
  obtain ⟨result, same⟩ := drawn picture.raster
  exact transform_blamesFrom same world

end Library

end Thumbnailing
