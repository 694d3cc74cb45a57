import Thumbnailing.Proofs.Engine.Saving
import Thumbnailing.Proofs.Request.Stages
import Thumbnailing.Proofs.World.Plain

set_option autoImplicit false

namespace Thumbnailing

def ProgressLooks (before after : Progress) : Prop := Looks before.world after.world

namespace ProgressLooks

variable {Result : Type}

theorem history : Task.IsHistory ProgressLooks := Looks.history.along Progress.world

theorem onWorld {task : Task World Result} (looks : Task.Keeps Looks task) :
    Task.Keeps ProgressLooks (Progress.onWorld task) := .onPart looks fun _ _ seen => seen

end ProgressLooks

namespace Engine

theorem detectGeometry_looks (engine : Engine) (source : Option String) :
    Task.Keeps Looks (engine.detectGeometry source) := by
  unfold detectGeometry
  split
  · exact .fail Looks.history _
  · split
    · exact .fail Looks.history _
    · unfold probe
      split
      · exact Looks.probe_magick _ _
      · exact Vips.probe_looks _ _

theorem countFrames_looks (engine : Engine) (path : Option Path) :
    Task.Keeps Looks (engine.countFrames path) := by
  unfold countFrames
  split
  · exact Looks.countFrames_magick _ _
  · exact Vips.countFrames_looks _

end Engine

namespace Thumbnail

open ProgressLooks

theorem measureOnce_looks (thumbnail : Thumbnail) :
    Task.Keeps ProgressLooks thumbnail.measureOnce := by
  have measured : Task.Keeps ProgressLooks thumbnail.measure := by
    unfold measure
    split
    · exact .ofOutcome history _
    · exact onWorld (thumbnail.engine.detectGeometry_looks _)
  have detected : Task.Keeps ProgressLooks thumbnail.detectGeometry :=
    .bind history measured fun _ =>
      .bind history (fun progress => Looks.history.refl progress.world) fun _ => .succeed history _
  refine .bind history (.read history) fun progress => ?_
  split
  · exact .discard history detected
  · exact .succeed history ()

theorem countFrames_looks (thumbnail : Thumbnail) : Task.Keeps Looks thumbnail.countFrames := by
  refine .bind Looks.history (thumbnail.engine.countFrames_looks _).attempt fun answer => ?_
  split
  · exact .succeed Looks.history _
  · split
    · exact .bind Looks.history (Looks.logAll _) fun _ =>
        sniff_keeps Looks.history _
    · exact .fail Looks.history _

theorem detectAnimatedSource_looks (thumbnail : Thumbnail) :
    Task.Keeps ProgressLooks thumbnail.detectAnimatedSource := by
  refine .bind history (.read history) fun progress => ?_
  split
  · exact .succeed history _
  · refine .bind history (onWorld thumbnail.countFrames_looks) fun animated => ?_
    exact .bind history (fun progress => Looks.history.refl progress.world) fun _ =>
      .succeed history _

theorem buildPipeline_looks (thumbnail : Thumbnail) (destination : Path) :
    Task.Keeps ProgressLooks (thumbnail.buildPipeline destination) := by
  refine .bind history (.ofOutcome history _) fun loaded => ?_
  refine .bind history (onWorld (.logAll _)) fun _ => .bind history (.read history) fun progress => ?_
  refine .bind history (.ofOutcome history _) fun resize => ?_
  refine .bind history (.ofOutcome history _) fun tokens => ?_
  exact .bind history (onWorld (.logAll _)) fun _ => .ofOutcome history _

def Allows (thumbnail : Thumbnail) (operation : Operation) : Prop :=
  (∀ destination, operation ≠ .save destination) ∧
    ∀ extension, operation = .convertFormat extension → thumbnail.options.format = some extension

theorem buildPipeline_allows {thumbnail : Thumbnail} {destination : Path} {pipeline : Pipeline}
    {progress after : Progress}
    (built : (thumbnail.buildPipeline destination).run progress = (.ok pipeline, after)) :
    ∃ operations, pipeline.operations = operations ++ [.save destination] ∧
      ∀ operation ∈ operations, thumbnail.Allows operation := by
  obtain ⟨loaderOptions, records, resize, tokens, -, resized, -, whole, -⟩ :=
    buildPipeline_eq_ok built
  refine ⟨_, whole, ?_⟩
  have plain {operation : Operation} (other : ∀ destination, operation ≠ .save destination)
      (kept : ∀ extension, operation ≠ .convertFormat extension) : thumbnail.Allows operation :=
    ⟨other, fun extension same => absurd same (kept extension)⟩
  have frames : ∀ operation ∈ thumbnail.frameOperations (thumbnail.isAnimated progress),
      thumbnail.Allows operation := by
    unfold frameOperations
    split
    · exact List.forall_mem_singleton.mpr (plain nofun nofun)
    · split
      · exact List.forall_mem_singleton.mpr (plain nofun nofun)
      · exact List.forall_mem_nil _
  have orient : ∀ operation ∈ thumbnail.orientOperations, thumbnail.Allows operation := by
    unfold orientOperations
    split
    · exact List.forall_mem_singleton.mpr (plain nofun nofun)
    · exact List.forall_mem_nil _
  have resizes : ∀ operation ∈ resize, thumbnail.Allows operation := by
    intro operation member
    obtain ⟨_, rfl⟩ := resizeOperations_kinds resized operation member
    exact plain nofun nofun
  have optimize : ∀ operation ∈ optimizeOperations (thumbnail.isAnimated progress),
      thumbnail.Allows operation := by
    unfold optimizeOperations
    split
    · exact List.forall_mem_singleton.mpr (plain nofun nofun)
    · exact List.forall_mem_nil _
  have directives : ∀ operation ∈ tokens.directives.map Operation.applyDirective,
      thumbnail.Allows operation := by
    intro operation member
    obtain ⟨_, -, rfl⟩ := List.mem_map.mp member
    exact plain nofun nofun
  have format : ∀ operation ∈ thumbnail.formatOperations, thumbnail.Allows operation := by
    intro operation member
    obtain ⟨extension, asked, rfl⟩ := List.mem_map.mp member
    refine ⟨nofun, fun other same => ?_⟩
    cases same
    simpa using asked
  intro operation member
  simp only [List.mem_cons, List.mem_append] at member
  rcases member with rfl | ((((first | second) | third) | fourth) | fifth) | sixth
  · exact plain nofun nofun
  · exact frames operation first
  · exact orient operation second
  · exact resizes operation third
  · exact optimize operation fourth
  · exact directives operation fifth
  · exact format operation sixth

def HasPlainFormat (thumbnail : Thumbnail) : Prop :=
  ∀ format, thumbnail.options.format = some format → '/' ∉ format.toList

theorem perform_fills {thumbnail : Thumbnail} {operations : List Operation} {destination : Path}
    (formatted : thumbnail.HasPlainFormat) (readable : destination.IsReadable)
    (allowed : ∀ operation ∈ operations, thumbnail.Allows operation) :
    Task.Keeps (Fills destination)
      (Pipeline.perform thumbnail.engine (operations ++ [.save destination])) := by
  intro world
  have looks := SessionLooks.steps thumbnail.engine
    (fun other member => (allowed _ member).1 other rfl) ⟨world, none⟩
  have stays : Task.Keeps (StaysReady thumbnail.engine)
      (Task.forAll (Pipeline.step thumbnail.engine) operations) :=
    .forAll (StaysReady.history _) fun operation member =>
      StaysReady.step _ (allowed operation member).1 fun extension same =>
        formatted extension ((allowed operation member).2 extension same)
  have ready := stays ⟨world, none⟩ fun command same => by cases same
  rw [Pipeline.perform_world]
  rcases ran : (Task.forAll (Pipeline.step thumbnail.engine) operations).run ⟨world, none⟩
    with ⟨outcome, session⟩
  rw [ran] at looks ready
  cases outcome with
  | error failure => exact Fills.ofLooks looks
  | ok results => exact Fills.history.trans (Fills.ofLooks looks) (Fills.save readable ready)

theorem produce_fills {thumbnail : Thumbnail} {destination : Path}
    (formatted : thumbnail.HasPlainFormat) (readable : destination.IsReadable)
    (progress : Progress) :
    Fills destination progress.world
      ((thumbnail.produce destination).run progress).2.world := by
  have looks := thumbnail.buildPipeline_looks destination progress
  unfold produce
  rw [Task.run_bind]
  rcases built : (thumbnail.buildPipeline destination).run progress with ⟨outcome, between⟩
  rw [built] at looks
  cases outcome with
  | error failure => exact Fills.ofLooks looks
  | ok pipeline =>
    obtain ⟨operations, whole, allowed⟩ := buildPipeline_allows built
    have performed := perform_fills formatted readable allowed between.world
    simp only [whole, Task.run_bind, Progress.run_onWorld]
    refine Fills.history.trans (Fills.ofLooks looks) ?_
    rcases ran : (Pipeline.perform thumbnail.engine (operations ++ [.save destination])).run
      between.world with ⟨outcome, after⟩
    rw [ran] at performed ⊢
    cases outcome <;> exact performed

/-- The one file that a request adds, in the folder and with the extension that were asked for. -/
structure IsNewFile (thumbnail : Thumbnail) (before after : World) (destination : Path) : Prop where
  isNamed : ∃ start, destination = (Temporary.folderFrom before
      (Temporary.folderOf thumbnail.engine.settings.temporaryFolder)).child
    (start ++ Temporary.pointed thumbnail.extension)
  isSingle : '/' ∉ destination.name.toList
  isAdded : ∃ location content,
    before.files.locate before.workingFolder destination = .ok location ∧
      before.files.node? location = none ∧ after.files = before.files.withFile location content

theorem fresh_isReadable {world : World} {folder destination : Path} {head tail : String}
    {location : Location} (orderly : world.IsOrderly) (names : ∀ name ∈ folder.steps, Path.IsName name)
    (hyphen : '-' ∈ head.toList)
    (fresh : Temporary.IsFresh world folder head tail destination location) :
    destination.IsReadable := by
  obtain ⟨⟨serial, rfl⟩, single, -, -, -⟩ := fresh
  rw [Path.name_child] at single
  have rooted : (Temporary.folderFrom world folder).root ≠ .relative :=
    Path.absolute_root (by simp)
  refine ⟨rooted, Path.ofText_text rooted (by simp [Path.child]) ?_⟩
  intro step member
  rcases List.mem_append.mp member with inside | last
  · exact Path.isName_of_absolute orderly.isNamed names inside
  · rw [List.mem_singleton.mp last]
    refine ⟨?_, single⟩
    -- A name with a hyphen in it is neither empty nor a point.
    have shown : '-' ∈ (head ++ serial ++ tail).toList := by simp [hyphen]
    have filled : (head ++ serial ++ tail).toList ≠ [] := List.ne_nil_of_mem shown
    have other : (head ++ serial ++ tail).toList ≠ ['.'] := by
      intro same
      rw [same] at shown
      simp at shown
    simp only [Path.isStep, Bool.not_eq_true', Bool.or_eq_false_iff, List.isEmpty_eq_false_iff]
    exact ⟨filled, by simpa using other⟩

structure IsAllocated (thumbnail : Thumbnail) (before after : World) (destination : Path)
    (location : Location) : Prop where
  machine : after.machine = before.machine
  workingFolder : after.workingFolder = before.workingFolder
  isFresh : Temporary.IsFresh before
    (Temporary.folderOf thumbnail.engine.settings.temporaryFolder)
    (Temporary.digestText thumbnail.basename ++ "-") (Temporary.pointed thumbnail.extension)
    destination location
  files : after.files = before.files.withFile location []
  calls : before.SavesNothing after

theorem allocated_cases {thumbnail : Thumbnail} {progress : Progress}
    (orderly : progress.world.IsOrderly) :
    (∃ failure after, thumbnail.allocated.run progress = (.error failure, after) ∧
        progress.world.IsSeen after.world) ∨
      ∃ destination after location, thumbnail.allocated.run progress = (.ok destination, after) ∧
        thumbnail.IsAllocated progress.world after.world destination location := by
  have looks : Task.Keeps ProgressLooks (do
      thumbnail.measureOnce
      discard thumbnail.detectAnimatedSource) :=
    .bind history thumbnail.measureOnce_looks fun _ =>
      .discard history thumbnail.detectAnimatedSource_looks
  -- What is looked at before the allocation is one task, so that it can be taken as a whole.
  have staged : thumbnail.allocated = (do
      thumbnail.measureOnce
      discard thumbnail.detectAnimatedSource) >>= fun _ =>
        Progress.onWorld (Temporary.allocate thumbnail.basename thumbnail.extension
          thumbnail.engine.settings.temporaryFolder) := by
    rw [bind_assoc]
    rfl
  have seen := looks progress orderly
  rcases looked : (do
      thumbnail.measureOnce
      discard thumbnail.detectAnimatedSource : Task Progress Unit).run progress
    with ⟨outcome, between⟩
  rw [looked] at seen
  rw [staged]
  cases outcome with
  | error failure => exact .inl ⟨failure, between, Task.run_bind_of_error looked, seen⟩
  | ok _ =>
    rw [Task.run_bind_of_ok looked, Progress.run_onWorld]
    rcases Temporary.run_create (Temporary.folderOf thumbnail.engine.settings.temporaryFolder)
        (Temporary.digestText thumbnail.basename ++ "-") (Temporary.pointed thumbnail.extension)
        (.file []) between.world with ⟨failure, created⟩ | ⟨destination, location, fresh, created⟩
    · refine .inl ⟨failure, between, ?_, seen⟩
      rw [Temporary.allocate, created]
    · refine .inr ⟨destination, _, location, by rw [Temporary.allocate, created], ?_⟩
      have fresh := fresh.same seen.files.symm seen.workingFolder.symm
      refine ⟨seen.machine, seen.workingFolder, fresh, ?_, seen.calls⟩
      change between.world.files.put location (.file []) = _
      rw [seen.files]
      exact FileTree.put_absent fresh.isAbsent

theorem fresh_hasPlainFormat {thumbnail : Thumbnail} {before after : World} {destination : Path}
    {location : Location} (allocated : thumbnail.IsAllocated before after destination location) :
    thumbnail.HasPlainFormat := by
  intro format asked slash
  -- The extension is part of the new file's name, and that was checked for slashes.
  obtain ⟨⟨serial, same⟩, single, -, -, -⟩ := allocated.isFresh
  refine single ?_
  have extension : '/' ∈ (Temporary.pointed thumbnail.extension).toList := by
    have written : '/' ∈ thumbnail.extension.toList := by simp [extension, asked, slash]
    unfold Temporary.pointed
    split
    · exact written
    · simp [written]
  rw [same, Path.name_child]
  simp [extension]

theorem settle_world (thumbnail : Thumbnail) (failure : Failure) (progress : Progress) :
    ∃ records, ((thumbnail.settle failure).run progress).2.world = progress.world.append records := by
  unfold settle
  split
  · split
    · exact ⟨[], (World.append_nil _).symm⟩
    · split
      · exact ⟨[], (World.append_nil _).symm⟩
      · exact ⟨_, rfl⟩
  · exact ⟨[], (World.append_nil _).symm⟩

theorem produceFile_of_ok {thumbnail : Thumbnail} {destination : Path} {progress after : Progress}
    (produced : (thumbnail.produce destination).run progress = (.ok (), after)) :
    (thumbnail.produceFile destination).run progress = (.ok (.file destination), after) :=
  Task.run_bind_of_ok (Task.run_onFailure_eq_ok.mpr produced)

theorem produceFile_of_error {thumbnail : Thumbnail} {destination : Path}
    {progress after : Progress} {failure : Failure}
    (produced : (thumbnail.produce destination).run progress = (.error failure, after)) :
    (thumbnail.produceFile destination).run progress = (.error failure, { after with
      world := { after.world with
        files := after.world.files.discard after.world.workingFolder destination } }) := by
  have cleaned : (Progress.onWorld (Files.discard destination)).run after = (.ok (), { after with
      world := { after.world with
        files := after.world.files.discard after.world.workingFolder destination } }) := rfl
  exact Task.run_bind_of_error (Task.run_onFailure_of_error produced cleaned)

theorem produceFile_cases {thumbnail : Thumbnail} {before : World} {destination : Path}
    {location : Location} {progress : Progress} (orderly : before.IsOrderly)
    (allocated : thumbnail.IsAllocated before progress.world destination location) :
    (∃ failure after, (thumbnail.produceFile destination).run progress = (.error failure, after) ∧
        after.world.files = before.files) ∨
      ∃ after, (thumbnail.produceFile destination).run progress = (.ok (.file destination), after) ∧
        thumbnail.IsNewFile before after.world destination := by
  have fresh := allocated.isFresh
  have readable : destination.IsReadable := by
    refine fresh_isReadable orderly (fun name member => ?_) (by simp) fresh
    exact Path.isName_of_ofText member
  have filled := produce_fills (fresh_hasPlainFormat allocated) readable progress
    (orderly.same allocated.machine allocated.workingFolder)
  have located : before.files.locate progress.world.workingFolder destination = .ok location := by
    rw [allocated.workingFolder]
    exact fresh.isLocated
  obtain ⟨content, files⟩ := filled.files before.files location [] fresh.isAbsent located
    allocated.files
  rcases produced : (thumbnail.produce destination).run progress with ⟨outcome, after⟩
  rw [produced] at filled files
  cases outcome with
  | ok _ =>
    obtain ⟨serial, same⟩ := fresh.isNamed
    refine .inr ⟨after, produceFile_of_ok produced, ⟨_, same⟩, fresh.isSingle, ?_⟩
    exact ⟨location, content, fresh.isLocated, fresh.isAbsent, files⟩
  | error failure =>
    -- The new file may hold a part of the picture; it is taken away with all it holds.
    refine .inl ⟨failure, _, produceFile_of_error produced, ?_⟩
    rw [files, filled.workingFolder]
    exact FileTree.discard_withFile fresh.isAbsent located

structure ReachesSaving (thumbnail : Thumbnail) (before : Progress) where
  destination : Path
  allocated : Progress
  pipeline : Pipeline
  built : Progress
  operations : List Operation
  results : List (Option DirectiveOutcome)
  session : Session
  isAllocated : thumbnail.allocated.run before = (.ok destination, allocated)
  isBuilt : (thumbnail.buildPipeline destination).run allocated = (.ok pipeline, built)
  isLast : pipeline.operations = operations ++ [.save destination]
  isCarriedOut : (Task.forAll (Pipeline.step thumbnail.engine) operations).run
    ⟨built.world, none⟩ = (.ok results, session)
  isQuiet : before.world.SavesNothing session.world

theorem produce_saves {thumbnail : Thumbnail} {destination : Path} {progress : Progress}
    (orderly : progress.world.IsOrderly) :
    progress.world.SavesNothing ((thumbnail.produce destination).run progress).2.world ∨
      ∃ pipeline built operations results session,
        (thumbnail.buildPipeline destination).run progress = (.ok pipeline, built) ∧
        pipeline.operations = operations ++ [.save destination] ∧
        (Task.forAll (Pipeline.step thumbnail.engine) operations).run ⟨built.world, none⟩ =
          (.ok results, session) ∧
        progress.world.SavesNothing session.world := by
  have seen := thumbnail.buildPipeline_looks destination progress orderly
  rcases built : (thumbnail.buildPipeline destination).run progress with ⟨outcome, between⟩
  rw [built] at seen
  cases outcome with
  | error failure =>
    left
    rw [produce, Task.run_bind_of_error built]
    exact seen.calls
  | ok pipeline =>
    obtain ⟨operations, whole, allowed⟩ := buildPipeline_allows built
    have looks := SessionLooks.steps thumbnail.engine
      (fun other member => (allowed _ member).1 other rfl) ⟨between.world, none⟩
      (orderly.same seen.machine seen.workingFolder)
    rcases ran : (Task.forAll (Pipeline.step thumbnail.engine) operations).run ⟨between.world, none⟩
      with ⟨outcome, session⟩
    rw [ran] at looks
    cases outcome with
    | ok results =>
      exact .inr ⟨pipeline, between, operations, results, session, rfl, whole, ran,
        seen.calls.trans looks.calls⟩
    | error failure =>
      -- An operation before the last one has failed, so the last one is not carried out.
      left
      have stopped : (Pipeline.perform thumbnail.engine pipeline.operations).run between.world =
          (.error failure, session.world) := by
        rw [whole, Pipeline.perform, Task.run_onPart, Task.run_bind, Task.run_forAll_append,
          Task.run_bind_of_error ran]
      rw [produce, Task.run_bind_of_ok built, Task.run_bind, Progress.run_onWorld, stopped]
      exact seen.calls.trans looks.calls

theorem secondStage_calls (thumbnail : Thumbnail) (destination : Path) (progress : Progress) :
    (((thumbnail.produceFile destination).rescue thumbnail.settle).run progress).2.world.calls =
      ((thumbnail.produce destination).run progress).2.world.calls := by
  rcases produced : (thumbnail.produce destination).run progress with ⟨outcome, after⟩
  cases outcome with
  | ok _ => rw [Task.run_rescue_of_ok (produceFile_of_ok produced)]
  | error failure =>
    rw [Task.run_rescue_of_error (produceFile_of_error produced)]
    obtain ⟨records, settled⟩ := thumbnail.settle_world failure _
    rw [settled]
    rfl

theorem make_file_or_nothing (thumbnail : Thumbnail) {before : Progress}
    (orderly : before.world.IsOrderly) :
    match thumbnail.make.run before with
    | (.ok (.file destination), after) => thumbnail.IsNewFile before.world after.world destination
    | (_, after) => after.world.files = before.world.files := by
  rw [make_stages]
  rcases allocated_cases orderly with
    ⟨failure, after, ran, seen⟩ | ⟨destination, between, location, ran, allocated⟩
  · rw [Task.run_bind_of_error ran]
    exact seen.files
  · rw [Task.run_bind_of_ok ran]
    rcases produceFile_cases orderly allocated with ⟨failure, after, given, files⟩ | ⟨after, made, new⟩
    · rw [Task.run_rescue_of_error given]
      obtain ⟨records, settled⟩ := thumbnail.settle_world failure after
      have kept : ((thumbnail.settle failure).run after).2.world.files = before.world.files := by
        rw [settled, World.append_files, files]
      rcases answered : (thumbnail.settle failure).run after with ⟨outcome, last⟩
      rw [answered] at kept
      split
      · rename_i filed
        cases filed
        exact absurd answered (thumbnail.settle_neverFile failure)
      · rename_i same
        cases same
        exact kept
    · rw [Task.run_rescue_of_ok made]
      exact new

theorem make_saves {thumbnail : Thumbnail} {before : Progress}
    (orderly : before.world.IsOrderly) :
    before.world.SavesNothing (thumbnail.make.run before).2.world ∨
      Nonempty (thumbnail.ReachesSaving before) := by
  rw [make_stages]
  rcases allocated_cases orderly with
    ⟨failure, after, ran, seen⟩ | ⟨destination, between, location, ran, allocated⟩
  · rw [Task.run_bind_of_error ran]
    exact .inl seen.calls
  · have stillOrderly := orderly.same allocated.machine allocated.workingFolder
    rcases produce_saves stillOrderly with
      quiet | ⟨pipeline, built, operations, results, session, planned, last, carried, quiet⟩
    · left
      rw [Task.run_bind_of_ok ran]
      obtain ⟨issued, called, unsaved⟩ := allocated.calls.trans quiet
      exact ⟨issued, by rw [secondStage_calls, called], unsaved⟩
    · exact .inr ⟨⟨destination, between, pipeline, built, operations, results, session, ran, planned,
        last, carried, allocated.calls.trans quiet⟩⟩

/-- A request adds one file if it ends with a path and changes no file if it does not. Files that
were there stay as they are, and a picture is saved only if all operations before that succeed. -/
theorem make_files (thumbnail : Thumbnail) (before : Progress)
    (orderly : before.world.IsOrderly) :
    (match thumbnail.make.run before with
      | (.ok (.file destination), after) =>
        thumbnail.IsNewFile before.world after.world destination
      | (_, after) => after.world.files = before.world.files) ∧
    (∀ location content, before.world.files.content? location = some content →
      (thumbnail.make.run before).2.world.files.content? location = some content) ∧
    (before.world.SavesNothing (thumbnail.make.run before).2.world ∨
      Nonempty (thumbnail.ReachesSaving before)) := by
  have files := thumbnail.make_file_or_nothing orderly
  refine ⟨files, fun location content present => ?_, make_saves orderly⟩
  rcases made : thumbnail.make.run before with ⟨outcome, after⟩
  rw [made] at files
  split at files
  · rename_i same
    cases same
    obtain ⟨other, added, -, -, whole⟩ := files.isAdded
    rw [whole]
    exact FileTree.content_withFile_of_some present
  · rename_i same
    cases same
    rw [files]
    exact present

def isFileLeft : Outcome Product → Bool
  | .ok (.file _) => true
  | _ => false

theorem bare_isOrderly {world : World} (identifies : world.machine.replies.identify.left = none)
    (counts : world.machine.replies.frames.left = none) (bare : world.machine.programs = [])
    (placed : world.workingFolder = ["work"]) : world.IsOrderly := by
  constructor
  · exact identifies
  · exact counts
  · intro path found
    rw [bare] at found
    cases found
  · intro name member
    rw [placed] at member
    rw [List.mem_singleton.mp member]
    exact ⟨by decide, by decide⟩

theorem writing_isOrderly : World.writing.IsOrderly := bare_isOrderly rfl rfl rfl rfl

theorem torn_isOrderly (ending : ProcessEnding) : (World.torn ending).IsOrderly :=
  bare_isOrderly rfl rfl rfl rfl

theorem full_isOrderly : World.full.IsOrderly := bare_isOrderly rfl rfl rfl rfl

def killed : ProcessEnding := .ok none

def refused : ProcessEnding := .ok (some ⟨[], [], 1⟩)

/-- A file is left if all goes well, and nothing of it if the tool or the write stops half way. -/
theorem plain_leaves_file :
    (∃ (after : Progress) (destination : Path),
      World.writing.IsOrderly ∧ plain.make.run (.start .writing) = (.ok (.file destination), after) ∧
        plain.IsNewFile World.writing after.world destination) ∧
    (plain.make.run (.start (.torn killed))).2.world.files = (World.torn killed).files ∧
    (plain.make.run (.start (.torn refused))).2.world.files = (World.torn refused).files ∧
    ({ plain with engine := ⟨.vips, .standard⟩ }.make.run (.start .full)).2.world.files =
      World.full.files := by
  have nothing (thumbnail : Thumbnail) {world : World} (orderly : world.IsOrderly)
      (failed : isFileLeft (thumbnail.make.run (.start world)).1 = false) :
      (thumbnail.make.run (.start world)).2.world.files = world.files := by
    have files := (make_files thumbnail (.start world) orderly).1
    split at files
    · rename_i made
      rw [made] at failed
      cases failed
    · rename_i made
      rw [made]
      exact files
  refine ⟨?_, nothing plain (torn_isOrderly _) (by decide +kernel),
    nothing plain (torn_isOrderly _) (by decide +kernel),
    nothing _ full_isOrderly (by decide +kernel)⟩
  have left : isFileLeft (plain.make.run (.start .writing)).1 = true := by decide +kernel
  have files := (make_files plain (.start .writing) writing_isOrderly).1
  rcases made : plain.make.run (.start .writing) with ⟨outcome, after⟩
  rw [made] at left files
  cases outcome with
  | error failure => cases left
  | ok product =>
    cases product with
    | source => cases left
    | file destination => exact ⟨after, destination, writing_isOrderly, rfl, files⟩

end Thumbnail

end Thumbnailing
