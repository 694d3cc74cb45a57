import Thumbnailing.Proofs.Engine.Commands
import Thumbnailing.Proofs.Engine.ResizeWords
import Thumbnailing.Proofs.World.Files
import Thumbnailing.Request.Making

set_option autoImplicit false

namespace Thumbnailing

@[simp] theorem Progress.run_onWorld {Result : Type} (task : Task World Result)
    (progress : Progress) : (onWorld task).run progress =
      ((task.run progress.world).1, { progress with world := (task.run progress.world).2 }) := rfl

namespace Thumbnail

def measureOnce (thumbnail : Thumbnail) : Task Progress Unit := do
  if (← .read).geometry.isNone then discard thumbnail.detectGeometry

def allocated (thumbnail : Thumbnail) : Task Progress Path := do
  thumbnail.measureOnce
  discard thumbnail.detectAnimatedSource
  Progress.onWorld (Temporary.allocate thumbnail.basename thumbnail.extension
    thumbnail.engine.settings.temporaryFolder)

theorem make_stages (thumbnail : Thumbnail) :
    thumbnail.make = (do
      let destination ← thumbnail.allocated
      (thumbnail.produceFile destination).rescue thumbnail.settle) := by
  apply Task.ext
  intro progress
  simp only [make, allocated, measureOnce, bind_assoc, Task.run_bind, Task.run_read]
  by_cases unknown : progress.geometry.isNone = true
  · simp only [if_pos unknown, Task.run_bind]
  · simp only [if_neg unknown, Task.run_bind, Task.run_pure]

def plain : Thumbnail :=
  ⟨.text "/work/a.png", .standard, .identity, ⟨.imageMagick, .standard⟩,
    some ⟨.absolute, ["work", "a.png"]⟩⟩

theorem sniff_keeps {relation : World → World → Prop} (history : Task.IsHistory relation)
    (path : Option Path) : Task.Keeps relation (sniff path) := by
  cases path with
  | none => exact .fail history _
  | some path =>
    refine .bind history (Files.read_keeps history path).attempt fun answer => ?_
    split
    · exact .ofOutcome history _
    · split
      · exact .succeed history _
      · exact .fail history _

theorem sniff_failsOnFiles (path : Option Path) : FailsOnFiles (sniff path) := by
  cases path with
  | none => exact .fail rfl
  | some path =>
    refine .bind_attempt (FailsOnFiles.read path) FailsOnFiles.sniff fun failure ofFiles => ?_
    simp only
    split
    · exact .succeed false
    · exact .fail ofFiles

theorem sniff_inPlace {first second : World} (place : first.IsInPlace second) (path : Option Path) :
    ((sniff path).run second).1 = ((sniff path).run first).1 := by
  cases path with
  | none => rfl
  | some path =>
    simp only [sniff, Task.run_bind, Task.run_attempt, Files.read_inPlace place path]
    cases ((Files.read path).run first).1 with
    | ok content => rfl
    | error failure =>
      simp only
      split <;> rfl

theorem sniff_world (path : Option Path) (world : World) :
    ((sniff path).run world).2 = world := by
  have history : Task.IsHistory fun before after : World => after = before :=
    ⟨fun _ => rfl, fun first rest => rest.trans first⟩
  exact sniff_keeps history path world

def fallbackRecord (failure : Failure) : LogRecord :=
  .debug .thumbnail ("Frame count failed, sniffing header instead: " ++ failure.message)

theorem run_countFrames_counted {thumbnail : Thumbnail} {count : Int} {world after : World}
    (counted : (thumbnail.engine.countFrames thumbnail.path).run world = (.ok count, after)) :
    thumbnail.countFrames.run world = (.ok (1 < count), after) := by
  simp only [countFrames, Task.run_bind, Task.run_attempt, counted]
  rfl

theorem run_countFrames_failed {thumbnail : Thumbnail} {failure : Failure} {world after : World}
    (failed : (thumbnail.engine.countFrames thumbnail.path).run world = (.error failure, after)) :
    thumbnail.countFrames.run world =
      if canSniffInstead failure then
        (((sniff thumbnail.path).run after).1, after.append [fallbackRecord failure])
      else (.error failure, after) := by
  simp only [countFrames, Task.run_bind, Task.run_attempt, failed]
  split
  · have place : after.IsInPlace (after.append [fallbackRecord failure]) := .append ⟨rfl, rfl, rfl⟩ _
    rw [← fallbackRecord, Task.run_bind_of_ok (run_log _ after), ← sniff_inPlace place, Prod.ext_iff]
    exact ⟨rfl, sniff_world _ _⟩
  · rfl

theorem run_detectAnimatedSource {thumbnail : Thumbnail} {progress : Progress}
    (unknown : progress.animatedSource = none) :
    thumbnail.detectAnimatedSource.run progress =
      ((thumbnail.countFrames.run progress.world).1,
        { progress with
          world := (thumbnail.countFrames.run progress.world).2
          animatedSource := (thumbnail.countFrames.run progress.world).1.toOption }) := by
  obtain ⟨world, geometry, warnings, known⟩ := progress
  cases unknown
  unfold detectAnimatedSource
  rw [Task.run_bind_of_ok (Task.run_read _)]
  simp only [Task.run_bind, Task.run_pure, Progress.run_onWorld]
  rcases thumbnail.countFrames.run world with ⟨outcome, after⟩
  cases outcome <;> rfl

theorem settle_neverFile (thumbnail : Thumbnail) (failure : Failure) {progress after : Progress}
    {destination : Path} :
    (thumbnail.settle failure).run progress ≠ (.ok (.file destination), after) := by
  intro settled
  unfold settle at settled
  split at settled
  · split at settled
    · cases settled
    · split at settled
      · cases settled
      · cases settled
  · cases settled

def seen (thumbnail : Thumbnail) (measured : CurrentGeometry) : CurrentGeometry :=
  -- The geometry that a resize starts from: the measured one, or that of the upright picture.
  if thumbnail.options.autoOrient then measured.autoOrient else measured

theorem measureOnce_afresh {thumbnail : Thumbnail} {before : World} {after : Progress}
    (usual : thumbnail.options.sourceParser = none)
    (ran : thumbnail.measureOnce.run (.start before) = (.ok (), after)) :
    ∃ measured probed,
      (thumbnail.engine.detectGeometry (thumbnail.path.map Path.text)).run before =
        (.ok measured, probed) ∧
      after = ⟨probed, some (thumbnail.seen measured), [], none⟩ := by
  have ran : (discard thumbnail.detectGeometry).run (.start before) = (.ok (), after) := ran
  obtain ⟨_, _, detected, same⟩ := Task.run_bind_eq_ok.mp ran
  cases same
  obtain ⟨measured, _, gauged, rest⟩ := Task.run_bind_eq_ok.mp detected
  cases rest
  simp only [measure, usual, Progress.run_onWorld, Progress.start] at gauged
  rcases h : (thumbnail.engine.detectGeometry (thumbnail.path.map Path.text)).run before
    with ⟨outcome, probed⟩
  rw [h] at gauged
  cases gauged
  exact ⟨measured, probed, rfl, rfl⟩

theorem detectAnimatedSource_afresh {thumbnail : Thumbnail} {before : World}
    {geometry : Option CurrentGeometry} {several : Bool} {after : Progress}
    (ran : thumbnail.detectAnimatedSource.run ⟨before, geometry, [], none⟩ = (.ok several, after)) :
    ∃ counted, thumbnail.countFrames.run before = (.ok several, counted) ∧
      after = ⟨counted, geometry, [], some several⟩ := by
  rw [run_detectAnimatedSource rfl] at ran
  rcases looked : thumbnail.countFrames.run before with ⟨outcome, counted⟩
  simp only [looked] at ran
  cases ran
  exact ⟨counted, rfl, rfl⟩

theorem allocated_afresh {thumbnail : Thumbnail} {before : World} {after : Progress}
    {destination : Path} (usual : thumbnail.options.sourceParser = none)
    (ran : thumbnail.allocated.run (.start before) = (.ok destination, after)) :
    ∃ measured probed several counted,
      (thumbnail.engine.detectGeometry (thumbnail.path.map Path.text)).run before =
        (.ok measured, probed) ∧
      thumbnail.countFrames.run probed = (.ok several, counted) ∧
      (Temporary.allocate thumbnail.basename thumbnail.extension
        thumbnail.engine.settings.temporaryFolder).run counted = (.ok destination, after.world) ∧
      after = ⟨after.world, some (thumbnail.seen measured), [], some several⟩ := by
  obtain ⟨_, _, first, ran⟩ := Task.run_bind_eq_ok.mp ran
  obtain ⟨_, _, second, last⟩ := Task.run_bind_eq_ok.mp ran
  obtain ⟨measured, probed, gauged, rfl⟩ := measureOnce_afresh usual first
  obtain ⟨several, _, looked, same⟩ := Task.run_bind_eq_ok.mp second
  cases same
  obtain ⟨counted, seen, rfl⟩ := detectAnimatedSource_afresh looked
  rw [Progress.run_onWorld] at last
  rcases h : (Temporary.allocate thumbnail.basename thumbnail.extension
    thumbnail.engine.settings.temporaryFolder).run counted with ⟨outcome, allocated⟩
  rw [h] at last
  cases last
  exact ⟨measured, probed, several, counted, gauged, seen, h, rfl⟩

theorem buildPipeline_eq_ok {thumbnail : Thumbnail} {destination : Path} {pipeline : Pipeline}
    {progress after : Progress}
    (built : (thumbnail.buildPipeline destination).run progress = (.ok pipeline, after)) :
    ∃ loaderOptions records resize tokens,
      SourceOptions.loaderOptions thumbnail.options.sourceOptions = .ok (loaderOptions, records) ∧
      thumbnail.resizeOperations progress = .ok resize ∧
      Tokens.ofOptions thumbnail.options.convertOptions = .ok tokens ∧
      pipeline.operations = .load thumbnail.path loaderOptions ::
        (thumbnail.frameOperations (thumbnail.isAnimated progress) ++ thumbnail.orientOperations ++
          resize ++ optimizeOperations (thumbnail.isAnimated progress) ++
          tokens.directives.map .applyDirective ++ thumbnail.formatOperations) ++
        [.save destination] ∧
      after = { progress with world := progress.world.append (records ++ tokens.warnings) } := by
  obtain ⟨⟨loaderOptions, records⟩, _, loaded, rest⟩ := Task.run_bind_eq_ok.mp built
  obtain ⟨_, logged, first, rest⟩ := Task.run_bind_eq_ok.mp rest
  obtain ⟨_, _, current, rest⟩ := Task.run_bind_eq_ok.mp rest
  obtain ⟨resize, _, resized, rest⟩ := Task.run_bind_eq_ok.mp rest
  obtain ⟨tokens, _, split, rest⟩ := Task.run_bind_eq_ok.mp rest
  obtain ⟨_, _, second, rest⟩ := Task.run_bind_eq_ok.mp rest
  -- Each step is an outcome or a line of the log, so its state is known once it has succeeded.
  clear built
  simp only [Task.run_ofOutcome, Task.run_read, Progress.run_onWorld, run_logAll, Prod.mk.injEq,
    Except.ok.injEq] at loaded first current resized split second rest
  obtain ⟨loaded, rfl⟩ := loaded
  obtain ⟨-, rfl⟩ := first
  obtain ⟨rfl, rfl⟩ := current
  obtain ⟨resized, rfl⟩ := resized
  obtain ⟨split, rfl⟩ := split
  obtain ⟨-, rfl⟩ := second
  obtain ⟨whole, rfl⟩ := rest
  cases whole
  refine ⟨loaderOptions, records, resize, tokens, loaded, resized, split, ?_, ?_⟩
  · -- What was logged does not make an output animated.
    have same : thumbnail.isAnimated { progress with world := progress.world.append records } =
      thumbnail.isAnimated progress := rfl
    simp [same]
  · simp [World.append_append]

theorem produce_eq_ok {thumbnail : Thumbnail} {destination : Path} {progress after : Progress}
    (made : (thumbnail.produce destination).run progress = (.ok (), after)) :
    ∃ pipeline built, (thumbnail.buildPipeline destination).run progress = (.ok pipeline, built) ∧
      (Pipeline.perform thumbnail.engine pipeline.operations).run built.world =
        (.ok after.warnings, after.world) := by
  obtain ⟨pipeline, built, planned, rest⟩ := Task.run_bind_eq_ok.mp made
  obtain ⟨warnings, _, performed, last⟩ := Task.run_bind_eq_ok.mp rest
  cases last
  refine ⟨pipeline, built, planned, ?_⟩
  rw [Progress.run_onWorld] at performed
  rcases h : (Pipeline.perform thumbnail.engine pipeline.operations).run built.world
    with ⟨outcome, world⟩
  rw [h] at performed
  cases performed
  rfl

theorem resizeOperations_eq_ok {thumbnail : Thumbnail} {progress : Progress}
    {geometry : CurrentGeometry} {operations : List Operation}
    (known : progress.geometry = some geometry)
    (resized : thumbnail.resizeOperations progress = .ok operations) :
    ∃ resize, Resize.resolve geometry thumbnail.target thumbnail.engine.kind = .ok resize ∧
      operations = if resize.isIdentity then [] else [.resize resize] := by
  unfold resizeOperations at resized
  split at resized
  · -- A target that asks for nothing comes to no resize of any geometry.
    rename_i nothing
    cases resized
    exact ⟨.identity, Resize.resolve_identity nothing, rfl⟩
  · simp only [requireGeometry, known] at resized
    obtain ⟨_, same, resized⟩ := Task.ok_of_bind resized
    cases same
    obtain ⟨resize, resolved, same⟩ := Task.ok_of_bind resized
    cases same
    cases h : Resize.resolve geometry thumbnail.target thumbnail.engine.kind with
    | error fault =>
      rw [h] at resolved
      cases resolved
    | ok other =>
      rw [h] at resolved
      cases resolved
      exact ⟨resize, rfl, rfl⟩

theorem resizeOperations_kinds {thumbnail : Thumbnail} {progress : Progress}
    {operations : List Operation} (resized : thumbnail.resizeOperations progress = .ok operations) :
    ∀ operation ∈ operations, ∃ resize, operation = .resize resize := by
  unfold resizeOperations at resized
  split at resized
  · cases resized
    simp
  · obtain ⟨geometry, -, resized⟩ := Task.ok_of_bind resized
    obtain ⟨resize, -, same⟩ := Task.ok_of_bind resized
    cases same
    split <;> simp

end Thumbnail

end Thumbnailing
