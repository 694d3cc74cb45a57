import Thumbnailing.Proofs.Engine.DirectiveNames
import Thumbnailing.Proofs.Engine.Usage
import Thumbnailing.Proofs.Request.FrameSelection

set_option autoImplicit false

namespace Thumbnailing

namespace Engine

theorem resize_selectsNothing {resize : Resize} {primitive : Primitive}
    (same : Primitive.ofResize resize = .ok (some primitive)) : primitive.selectsFrames = false := by
  cases resize <;> cases same <;> rfl

def SelectsNothing (step : DirectiveStep) : Prop :=
  ∀ value primitive, step value = .ok (some primitive) → primitive.selectsFrames = false

theorem SelectsNothing.directive : ∀ entry ∈ directiveSteps, SelectsNothing entry.2 := by
  intro entry member value primitive asked
  have named := IsNamed.listed entry member value primitive asked
  cases primitive with
  | selectFrame | selectAllFrames => cases named -- No directive has such a name.
  | _ => rfl

end Engine

def HasJob (told : World × VipsJob → Prop) (session : Session) : Prop :=
  ∃ job, session.job = some (.vips job) ∧ told (session.world, job)

namespace HasJob

variable {engine : Engine} {opening : Opening} {Result : Type}

theorem mono {told known : World × VipsJob → Prop} (imp : ∀ state, told state → known state)
    {session : Session} (has : HasJob told session) : HasJob known session := by
  obtain ⟨job, same, given⟩ := has
  exact ⟨job, same, imp _ given⟩

theorem onJob {told : World × VipsJob → Prop} {after : Result → World × VipsJob → Prop}
    {magick : MagickCommand → Task Session Result} {task : Vips.JobTask Result}
    (ensured : Task.Ensures told task after) :
    Task.Ensures (HasJob told) (Engine.onJob magick task) fun result => HasJob (after result) := by
  rintro ⟨world, _⟩ result final ⟨job, rfl, given⟩ ran
  rcases worked : task.run (world, job) with ⟨outcome, world', job'⟩
  simp only [Engine.onJob, worked, Prod.mk.injEq] at ran
  obtain ⟨rfl, rfl⟩ := ran
  exact ⟨job', rfl, ensured _ _ _ given worked⟩

theorem logAll (records : List LogRecord) :
    Task.Ensures (HasJob (Vips.IsReady opening)) (Engine.onWorld (logAll records))
      fun _ => HasJob (Vips.IsReady opening) := by
  rintro ⟨world, _⟩ _ _ ⟨job, rfl, ready⟩ ran
  cases ran
  refine ⟨job, rfl, ?_⟩
  rcases ready with unopened | ⟨held, opened⟩
  · exact .inl { unopened with world := unopened.world }
  · obtain ⟨edits, edited⟩ := opened.world
    exact .inr ⟨held, { opened with world := ⟨edits, { edited with calls := edited.calls } ⟩ }⟩

theorem apply {primitive : Primitive} (other : primitive.selectsFrames = false) :
    Task.Ensures (HasJob (Vips.IsReady opening)) (engine.apply primitive)
      fun _ => HasJob (Vips.IsReady opening) := by
  unfold Engine.apply
  split
  · exact .pure fun _ ready => ready
  · exact onJob (Vips.IsReady.apply other)

theorem applyResize (resize : Resize) :
    Task.Ensures (HasJob (Vips.IsReady opening)) (engine.applyResize resize)
      fun _ => HasJob (Vips.IsReady opening) := by
  refine .bind (.ofOutcome_eq _) fun primitive => .assuming fun same => ?_
  cases primitive with
  | none => exact .pure fun _ ready => ready
  | some primitive => exact apply (Engine.resize_selectsNothing same)

theorem applyDirective (isVips : engine.kind = .vips) (directive : Directive) :
    Task.Ensures (HasJob (Vips.IsReady opening)) (engine.applyDirective directive)
      fun _ => HasJob (Vips.IsReady opening) := by
  have drops (status : DirectiveStatus) (message : String) :
      Task.Ensures (HasJob (Vips.IsReady opening))
        (Engine.onWorld (Engine.drop directive status message))
        fun _ => HasJob (Vips.IsReady opening) := by
    intro session outcome after ready ran
    cases ran
    exact logAll [_] session () _ ready rfl
  have interprets : engine.applyDirective directive = engine.interpret directive := by
    simp [Engine.applyDirective, Engine.passesOptions, isVips]
  rw [interprets]
  unfold Engine.interpret
  split
  · exact drops _ _
  · exact drops _ _
  · rename_i step _ found
    refine .bind (.ofOutcome_eq _) fun primitive => .assuming fun taken => ?_
    cases primitive with
    | none => exact .bind (logAll _) fun _ => .pure fun _ ready => ready
    | some primitive =>
      obtain ⟨_, _, whole, -⟩ := List.lookup_eq_some_iff.mp found
      have listed : (directive.key, step) ∈ Engine.directiveSteps := by simp [whole]
      exact .bind (apply (Engine.SelectsNothing.directive _ listed _ _ taken)) fun _ =>
        .pure fun _ ready => ready

theorem step (isVips : engine.kind = .vips) {operation : Operation}
    (intermediate : operation.isIntermediate = true) :
    Task.Ensures (HasJob (Vips.IsReady opening)) (Pipeline.step engine operation)
      fun _ => HasJob (Vips.IsReady opening) := by
  have done {Result : Type} (result : Result) : Task.Ensures (HasJob (Vips.IsReady opening))
      (pure result) fun _ => HasJob (Vips.IsReady opening) := .pure fun _ ready => ready
  refine .rescue_fail ?_
  cases operation with
  | load | selectFrame | selectAllFrames | save => cases intermediate
  | autoOrient => exact .bind (apply rfl) fun _ => done _
  | resize resize => exact .bind (applyResize resize) fun _ => done _
  | optimizeFrames =>
    refine .bind (apply rfl) fun _ => ?_
    split
    · exact .bind (logAll _) fun _ => done _
    · exact done _
  | applyDirective directive => exact .bind (applyDirective isVips directive) fun _ => done _
  | convertFormat extension => exact .bind (apply rfl) fun _ => done _
  | unknown shown => exact .fail _

theorem save (destination : Path) :
    Task.Ensures (HasJob (Vips.IsReady opening)) (Pipeline.step engine (.save destination))
      fun _ session => opening.IsSaved session.world := by
  refine .rescue_fail (.bind (onJob (Vips.IsReady.save destination)) fun _ => .pure ?_)
  rintro session ⟨job, -, saved⟩
  exact saved

theorem onWorld {known : World → Prop} {after : Result → World → Prop} {task : Task World Result}
    (ensured : Task.Ensures known task after) :
    Task.Ensures (fun session => known session.world) (Engine.onWorld task)
      fun result session => after result session.world := by
  intro session result final given ran
  rcases worked : task.run session.world with ⟨outcome, world⟩
  simp only [Engine.onWorld, Task.run_onPart, worked, Prod.mk.injEq] at ran
  obtain ⟨rfl, rfl⟩ := ran
  exact ensured _ _ _ given worked

theorem load (isVips : engine.kind = .vips) {entries : Entries} {fact : Entries → Prop}
    (reads : Task.Ensures opening.IsAwaited (Vips.loaderOptionsFrom [] entries)
      fun options world => fact options ∧ opening.IsAwaited world) :
    Task.Ensures (fun session => opening.IsAwaited session.world)
      (Pipeline.step engine (.load opening.source entries)) fun _ session =>
        ∃ options, fact options ∧ HasJob (Vips.IsUnopened { opening with options }) session := by
  have loadsVips : Task.Ensures opening.IsAwaited (Vips.load opening.source entries)
      fun job world => fact job.loaderOptions ∧
        Vips.IsUnopened { opening with options := job.loaderOptions } (world, job) :=
    .bind Opening.load fun _ => .bind reads fun options =>
      .pure fun _ ⟨holds, awaited⟩ => ⟨holds, rfl, rfl, rfl, awaited⟩
  have loads : Task.Ensures opening.IsAwaited (engine.loadJob opening.source entries)
      fun job world => ∃ loaded, job = .vips loaded ∧ fact loaded.loaderOptions ∧
        Vips.IsUnopened { opening with options := loaded.loaderOptions } (world, loaded) := by
    unfold Engine.loadJob
    rw [isVips]
    exact .bind loadsVips fun loaded => .pure fun _ given => ⟨loaded, rfl, given⟩
  refine .rescue_fail (.bind (.bind (onWorld loads) fun job => .modify ?_) fun _ =>
    .pure fun _ holds => holds)
  rintro session ⟨loaded, rfl, holds, unopened⟩
  exact ⟨loaded.loaderOptions, holds, loaded, rfl, unopened⟩

theorem choose {primitive : Primitive} (change : Entries → Entries)
    (reopens : Vips.apply primitive = Vips.reopen change) (other : primitive ≠ .optimizeFrames) :
    Task.Ensures (HasJob (Vips.IsUnopened opening)) (engine.apply primitive)
      fun _ => HasJob (Vips.IsUnopened { opening with options := change opening.options }) := by
  rw [Engine.apply_onJob other, reopens]
  exact onJob (Vips.IsUnopened.reopen change)

theorem selectFrame (index : Int) :
    Task.Ensures (HasJob (Vips.IsUnopened opening)) (Pipeline.step engine (.selectFrame index))
      fun _ => HasJob (Vips.IsUnopened { opening with
        options := (opening.options.put "page" (.integer index)).put "n" (.integer 1) }) :=
  .rescue_fail <| .bind (choose (fun options => (options.put "page" (.integer index)).put "n"
    (.integer 1)) rfl nofun) fun _ => .pure fun _ unopened => unopened

theorem selectAllFrames :
    Task.Ensures (HasJob (Vips.IsUnopened opening)) (Pipeline.step engine .selectAllFrames)
      fun _ => HasJob (Vips.IsUnopened { opening with
        options := (opening.options.remove "page").put "n" (.integer (-1)) }) :=
  .rescue_fail <| .bind (choose (fun options => (options.remove "page").put "n"
    (.integer (-1))) rfl nofun) fun _ => .pure fun _ unopened => unopened

end HasJob

/-- How a source is opened for operations: with known names of options only, and the way a selection
of frames among the operations asks for. -/
structure IsOpenedFor (thumbnail : Thumbnail) (operations : List Operation) (options : Entries) :
    Prop where
  names : HasOpeningNames options
  oneFrame : ∀ index : Int, .selectFrame index ∈ operations → index = thumbnail.frameIndex ∧
    options.get? "page" = some (.integer index) ∧ options.get? "n" = some (.integer 1)
  allFrames : .selectAllFrames ∈ operations →
    options.get? "page" = none ∧ options.get? "n" = some (.integer (-1))

namespace Thumbnail

variable {engine : Engine} {opening : Opening}

theorem frames_opened (thumbnail : Thumbnail) (animated : Bool) {options : Entries}
    (named : HasOpeningNames options) :
    Task.Ensures (HasJob (Vips.IsUnopened { opening with options }))
      (Task.forAll (Pipeline.step engine) (thumbnail.frameOperations animated)) fun _ session =>
        ∃ options, IsOpenedFor thumbnail (thumbnail.frameOperations animated) options ∧
          HasJob (Vips.IsUnopened { opening with options }) session := by
  rcases thumbnail.frameOperations_cases animated with ⟨-, same⟩ | ⟨-, index, chosen, same⟩ | same
  · rw [same]
    refine .imp (.forAll_single HasJob.selectAllFrames) fun _ session unopened => ?_
    refine ⟨_, ⟨(named.remove "page").put (by simp [openingNames]) _, nofun, fun _ => ?_⟩, unopened⟩
    simp [Entries.get?_put, Entries.get?_remove]
  · rw [same]
    refine .imp (.forAll_single (HasJob.selectFrame index)) fun _ session unopened => ?_
    refine ⟨_, ⟨(named.put (by simp [openingNames]) _).put (by simp [openingNames]) _,
      fun other member => ?_, nofun⟩, unopened⟩
    cases List.mem_singleton.mp member
    exact ⟨chosen, by simp [Entries.get?_put], by simp [Entries.get?_put]⟩
  · rw [same]
    exact .pure fun _ unopened => ⟨options, ⟨named, nofun, nofun⟩, unopened⟩

theorem mem_frames_of_selects {operation : Operation} {source : Option Path} {entries : Entries}
    {frames middle : List Operation} {destination : Path}
    (intermediate : ∀ operation ∈ middle, operation.isIntermediate = true)
    (member : operation ∈ .load source entries :: (frames ++ (middle ++ [.save destination])))
    (selects : operation.selectsFrames = true) : operation ∈ frames := by
  rcases List.mem_cons.mp member with rfl | member
  · cases selects
  rcases List.mem_append.mp member with chosen | later
  · exact chosen
  rcases List.mem_append.mp later with inMiddle | last
  · have selectsNot := Operation.selectsFrames_of_intermediate (intermediate operation inMiddle)
    exact absurd selects (by simp [selectsNot])
  · cases List.mem_singleton.mp last
    cases selects

theorem operations_saved (opening : Opening) (isVips : engine.kind = .vips)
    (thumbnail : Thumbnail) (animated : Bool) (entries : Entries) {middle : List Operation}
    (destination : Path)
    (intermediate : ∀ operation ∈ middle, operation.isIntermediate = true) :
    Task.Ensures (fun session => opening.IsAwaited session.world)
      (Task.forAll (Pipeline.step engine) (.load opening.source entries ::
        (thumbnail.frameOperations animated ++ (middle ++ [.save destination])))) fun _ session =>
        ∃ options, IsOpenedFor thumbnail (thumbnail.frameOperations animated) options ∧
          { opening with options }.IsSaved session.world := by
  have none : HasOpeningNames [] := nofun
  refine .forAll_cons (HasJob.load isVips (none.loaderOptionsFrom entries)) ?_
  refine .forAll_append (.exists_elim fun _ named => thumbnail.frames_opened animated named) ?_
  refine .exists_elim fun options opened => ?_
  refine .imp (.of_imp (.forAll_append (.forAll fun operation member => ?_)
    (.forAll_single (HasJob.save destination))) fun _ => HasJob.mono fun _ => .inl)
    fun _ _ saved => ⟨options, opened, saved⟩
  exact HasJob.step isVips (intermediate operation member)

theorem run_eq_ok {engine : Engine} {pipeline ran : Pipeline} {world after : World}
    {outcomes : List DirectiveOutcome}
    (finished : (Pipeline.run engine).run (world, pipeline) = (.ok outcomes, after, ran)) :
    ∃ results session, (Task.forAll (Pipeline.step engine) pipeline.operations).run ⟨world, none⟩ =
      (.ok results, session) ∧ session.world = after := by
  by_cases used : pipeline.isConsumed = true
  · simp [Pipeline.run, used] at finished
  · rcases stepped : (Task.forAll (Pipeline.step engine) pipeline.operations).run ⟨world, none⟩
      with ⟨outcome, session⟩
    have performed : (Pipeline.perform engine pipeline.operations).run world =
        (outcome.map (·.filterMap id), session.world) := by
      rw [Pipeline.perform, Task.run_onPart, Task.run_bind, stepped]
      cases outcome <;> rfl
    have same : (Pipeline.run engine).run (world, pipeline) =
        (outcome.map (·.filterMap id), session.world, { pipeline with isConsumed := true }) := by
      unfold Pipeline.run
      simp only [if_neg used, performed]
    cases outcome with
    | error failure => cases same.symm.trans finished
    | ok results =>
      cases same.symm.trans finished
      exact ⟨results, session, rfl, rfl⟩

/-- A successful run on the library opens the source once, as the selection of frames among the
operations asks for. Every picture that it makes is saved or goes into the one that is. -/
theorem run_savesAll {thumbnail : Thumbnail} {destination : Path} {pipeline ran : Pipeline}
    {progress built : Progress} {engine : Engine} {world after : World}
    {outcomes : List DirectiveOutcome}
    (planned : (thumbnail.buildPipeline destination).run progress = (.ok pipeline, built))
    (isVips : engine.kind = .vips)
    (finished : (Pipeline.run engine).run (world, pipeline) = (.ok outcomes, after, ran)) :
    ∃ options edits saved extension saverOptions,
      let opening := Call.openPicture (pathText thumbnail.path) options (some world.pictureCount)
      IsOpenedFor thumbnail pipeline.operations options ∧
      after.calls = world.calls ++ opening :: (edits ++ [.encode saved extension saverOptions]) ∧
      (∀ call ∈ edits, call.isEdit = true) ∧
      AllUsed [saved] (opening :: edits) ∧
      ((opening :: edits).filterMap Call.result?).Nodup := by
  obtain ⟨entries, middle, whole, intermediate⟩ := buildPipeline_operations planned
  obtain ⟨results, session, stepped, rfl⟩ := run_eq_ok finished
  have frames {operation : Operation} (member : operation ∈ pipeline.operations)
      (selects : operation.selectsFrames = true) :
      operation ∈ thumbnail.frameOperations (thumbnail.isAnimated progress) := by
    rw [whole] at member
    exact mem_frames_of_selects intermediate member selects
  rw [whole] at stepped
  obtain ⟨options, opened, edits, saved, extension, saverOptions, between, edited, calls⟩ :=
    operations_saved ⟨world.machine, world.calls, world.pictureCount, thumbnail.path, []⟩ isVips
      thumbnail _ entries destination intermediate ⟨world, none⟩ results session ⟨rfl, rfl, rfl⟩
      stepped
  refine ⟨options, edits, saved, extension, saverOptions, ?_, ?_, edited.areEdits, edited.used,
    edited.distinct⟩
  · exact ⟨opened.names, fun index member => opened.oneFrame index (frames member rfl),
      fun member => opened.allFrames (frames member rfl)⟩
  · simp [calls, edited.calls, Opening.call]

def negative : Thumbnail :=
  { plain with
    engine := ⟨.vips, .standard⟩
    options := { ThumbnailOptions.standard with
      format := some "png", convertOptions := some (.line "-negate") }
    path := some ⟨.absolute, ["work", "a.gif"]⟩ }

def negativePath : Path := ⟨.absolute, ["tmp", "b.png"]⟩

def negativePipeline : Pipeline where
  operations := [.load negative.path [], .selectFrame 0, .autoOrient,
    .applyDirective (.ofFlag "-negate" []), .convertFormat "png", .save negativePath]
  isConsumed := false

theorem negative_savesAll :
    ∃ built outcomes after ran options edits saved,
      (negative.buildPipeline negativePath).run (.start .transparent) =
        (.ok negativePipeline, built) ∧
      negative.engine.kind = .vips ∧
      (Pipeline.run negative.engine).run (World.transparent, negativePipeline) =
        (.ok outcomes, after, ran) ∧
      options.get? "page" = some (.integer 0) ∧
      AllUsed [saved] (.openPicture "/work/a.gif" options (some 0) :: edits) := by
  have built : ∃ built, (negative.buildPipeline negativePath).run (.start .transparent) =
      (.ok negativePipeline, built) := ⟨_, Prod.ext rfl rfl⟩
  have succeeds : ((Pipeline.run negative.engine).run
      (World.transparent, negativePipeline)).1.toOption.isSome = true := by decide +kernel
  obtain ⟨built, planned⟩ := built
  rcases finished : (Pipeline.run negative.engine).run (World.transparent, negativePipeline) with
    ⟨outcome, after, ran⟩
  rw [finished] at succeeds
  cases outcome with
  | error failure => cases succeeds
  | ok outcomes =>
    obtain ⟨options, edits, saved, extension, saverOptions, opened, calls, areEdits, used, distinct⟩ :=
      run_savesAll planned rfl finished
    have chosen := opened.oneFrame 0 (by simp [negativePipeline])
    exact ⟨built, outcomes, after, ran, options, edits, saved, planned, rfl, rfl, chosen.2.1, used⟩

end Thumbnail

end Thumbnailing
