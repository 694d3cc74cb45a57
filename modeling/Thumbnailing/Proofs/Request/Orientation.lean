import Mathlib.Data.List.Basic
import Thumbnailing.Proofs.Engine.Faults
import Thumbnailing.Proofs.Engine.Orientation
import Thumbnailing.Proofs.Request.Rendering

set_option autoImplicit false

namespace Thumbnailing.Thumbnail

theorem seen_measures {raster : Raster} (single : raster.IsSinglePage)
    (thumbnail : Thumbnail) (settings : Settings) :
    (thumbnail.seen (raster.measured settings)).Measures
        (if thumbnail.options.autoOrient then Transformation.upright raster else raster) ↔
      settings.useExifOrientation = true ∨ thumbnail.options.autoOrient = false ∨
        raster.isTurned = false ∨ raster.width = raster.height := by
  obtain ⟨width, height⟩ := Raster.upright_sides single
  unfold seen
  cases thumbnail.options.autoOrient with
  | false => simp [CurrentGeometry.Measures, Raster.measured]
  | true =>
    have transposed : CurrentGeometry.isTransposed (raster.measured settings).orientation =
        (settings.useExifOrientation && raster.isTurned) := by
      cases exif : settings.useExifOrientation
      · simp [Raster.measured, exif, CurrentGeometry.isTransposed]
      · simp [Raster.measured, exif, CurrentGeometry.isTransposed_validOrientation, Raster.isTurned]
    simp only [if_true, CurrentGeometry.Measures, CurrentGeometry.autoOrient, transposed, width,
      height]
    cases settings.useExifOrientation with
    | true => cases raster.isTurned <;> simp [Raster.measured]
    | false =>
      cases raster.isTurned with
      | false => simp [Raster.measured]
      | true =>
        -- Only the picture is turned, so its sides are exchanged.
        have exchanged : (raster.height = raster.width ∧ raster.width = raster.height) ↔
            raster.width = raster.height := by omega
        simpa [Raster.measured] using exchanged

theorem countFrames_single {thumbnail : Thumbnail} {probed counted : World} {several : Bool}
    (isVips : thumbnail.engine.kind = .vips) (single : probed.machine.source.IsSinglePage)
    (loaded : probed.libraryLoaded = true)
    (looked : thumbnail.countFrames.run probed = (.ok several, counted)) :
    probed.IsFurther counted ∧ (probed.faultsSince counted = [] → several = false) := by
  have same : thumbnail.engine.countFrames thumbnail.path = Vips.countFrames thumbnail.path := by
    simp only [Engine.countFrames, isVips]
  have reported := Vips.countFrames_reports thumbnail.path probed
  rcases ran : (Vips.countFrames thumbnail.path).run probed with ⟨outcome, between⟩
  have further : probed.IsFurther between := by
    rw [ran] at reported
    exact reported.isFurther
  have one := Vips.countFrames_single single loaded ran
  rw [← same] at ran
  cases outcome with
  | ok count =>
    cases (run_countFrames_counted ran).symm.trans looked
    refine ⟨further, fun sound => ?_⟩
    cases one sound
    rfl
  | error failure =>
    rw [run_countFrames_failed ran] at looked
    split at looked
    · have quiet : between.IsQuiet counted := by
        rw [← (Prod.mk.inj looked).2]
        exact ⟨rfl, rfl⟩
      refine ⟨further.trans quiet.isFurther, fun sound => ?_⟩
      rw [World.faultsSince_append further quiet.isFurther, List.append_eq_nil_iff] at sound
      cases one sound.1
    · cases looked

theorem allocated_single {thumbnail : Thumbnail} {world : World} {allocated : Progress}
    {destination : Path} (isVips : thumbnail.engine.kind = .vips)
    (usual : thumbnail.options.sourceParser = none) (single : world.machine.source.IsSinglePage)
    (ran : thumbnail.allocated.run (.start world) = (.ok destination, allocated)) :
    allocated.world.machine = world.machine ∧
      allocated.geometry =
        some (thumbnail.seen (world.machine.source.measured thumbnail.engine.settings)) ∧
      (world.faultsSince allocated.world = [] → allocated.animatedSource = some false) := by
  obtain ⟨measured, probed, several, counted, gauged, looked, created, whole⟩ :=
    allocated_afresh usual ran
  have probes : ∃ path, (Vips.probe thumbnail.engine.settings path).run world =
      (.ok measured, probed) := by
    unfold Engine.detectGeometry at gauged
    split at gauged
    · cases gauged
    · split at gauged
      · cases gauged
      · exact ⟨_, by simpa [Engine.probe, isVips] using gauged⟩
  obtain ⟨path, probes⟩ := probes
  have measuring : world.IsFurther probed := by
    have reported := Vips.probe_reports thumbnail.engine.settings path world
    rw [probes] at reported
    exact reported.isFurther
  obtain ⟨rfl, same, loaded⟩ := Vips.probe_measures single _ path world measured probed rfl probes
  obtain ⟨counting, one⟩ := countFrames_single isVips (same ▸ single) loaded looked
  have placing : counted.IsQuiet allocated.world := by
    unfold Temporary.allocate at created
    rcases Temporary.run_create (Temporary.folderOf thumbnail.engine.settings.temporaryFolder)
      (Temporary.digestText thumbnail.basename ++ "-") (Temporary.pointed thumbnail.extension)
      (.file []) counted with ⟨failure, failed⟩ | ⟨path, location, -, put⟩
    · cases failed.symm.trans created
    · have placed : _ = allocated.world := congrArg Prod.snd (put.symm.trans created)
      rw [← placed]
      exact ⟨rfl, rfl⟩
  have machine : allocated.world.machine = world.machine :=
    placing.machine.trans (counting.machine.trans measuring.machine)
  refine ⟨machine, by rw [whole], fun sound => ?_⟩
  rw [World.faultsSince_append measuring (counting.trans placing.isFurther),
    World.faultsSince_append counting placing.isFurther, List.append_eq_nil_iff,
    List.append_eq_nil_iff] at sound
  rw [whole, one sound.2.1]

theorem resize_placed {thumbnail : Thumbnail} {destination : Path} {pipeline : Pipeline}
    {progress built : Progress} {geometry : CurrentGeometry} {earlier later : List Operation}
    {resize : Resize} (known : progress.geometry = some geometry)
    (planned : (thumbnail.buildPipeline destination).run progress = (.ok pipeline, built))
    (placed : pipeline.operations = earlier ++ .resize resize :: later) :
    Resize.resolve geometry thumbnail.target thumbnail.engine.kind = .ok resize ∧
      built.world.machine = progress.world.machine ∧
      ∃ loaderOptions records,
        SourceOptions.loaderOptions thumbnail.options.sourceOptions =
          .ok (loaderOptions, records) ∧
        earlier = .load thumbnail.path loaderOptions ::
          (thumbnail.frameOperations (thumbnail.isAnimated progress) ++
            thumbnail.orientOperations) := by
  obtain ⟨loaderOptions, records, resizes, tokens, loaded, resized, -, whole, rfl⟩ :=
    buildPipeline_eq_ok planned
  obtain ⟨decided, resolved, same⟩ := resizeOperations_eq_ok known resized
  generalize thumbnail.isAnimated progress = animated at whole ⊢
  have early : .resize resize ∉ .load thumbnail.path loaderOptions ::
      (thumbnail.frameOperations animated ++ thumbnail.orientOperations) := by
    unfold orientOperations
    rcases thumbnail.frameOperations_cases animated with
      ⟨-, frames⟩ | ⟨-, index, -, frames⟩ | frames <;>
    rw [frames] <;> split <;> simp
  have late : .resize resize ∉ optimizeOperations animated ++
      tokens.directives.map .applyDirective ++ thumbnail.formatOperations ++
      [.save destination] := by
    cases animated <;> simp [optimizeOperations, formatOperations]
  have parts : pipeline.operations = .load thumbnail.path loaderOptions ::
      (thumbnail.frameOperations animated ++ thumbnail.orientOperations) ++ (resizes ++
        (optimizeOperations animated ++ tokens.directives.map .applyDirective ++
          thumbnail.formatOperations ++ [.save destination])) := by
    simp [whole]
  rw [placed, same] at parts
  split at parts
  · have member : .resize resize ∈ earlier ++ .resize resize :: later := by simp
    rw [parts] at member
    rcases List.mem_append.mp member with before | after
    · exact absurd before early
    · exact absurd after late
  · obtain ⟨rfl, found, -⟩ := (List.append_cons_inj_of_notMem early late).mp parts.symm
    cases found
    exact ⟨resolved, rfl, loaderOptions, records, loaded, rfl⟩

theorem frames_show {engine : Engine} {opening : Opening} (thumbnail : Thumbnail) {animated : Bool}
    (bare : opening.options = []) (still : animated = false ∨ opening.machine.allPages = none) :
    Task.Ensures (HasJob (Vips.IsUnopened opening))
      (Task.forAll (Pipeline.step engine) (thumbnail.frameOperations animated))
      fun _ => HasJob (Vips.Shows opening.machine.source) := by
  have shows {options : Entries} (page : Library.opened opening.machine options =
      opening.machine.source) {session : Session}
      (unopened : HasJob (Vips.IsUnopened { opening with options }) session) :
      HasJob (Vips.Shows opening.machine.source) session := by
    refine unopened.mono fun state unopened => ?_
    simpa [page] using unopened.shows
  rcases thumbnail.frameOperations_cases animated with
    ⟨rfl, same⟩ | ⟨-, index, -, same⟩ | same
  · have alone : opening.machine.allPages = none := still.resolve_left nofun
    rw [same]
    refine .imp (.forAll_single HasJob.selectAllFrames) fun _ _ => shows ?_
    simp [Library.opened, alone]
  · rw [same]
    refine .imp (.forAll_single (HasJob.selectFrame index)) fun _ _ => shows ?_
    simp [Library.opened, Library.asksForAllPages, Entries.get?_put, Value.isNumber]
  · rw [same]
    refine .pure fun _ => shows ?_
    rw [bare]
    rfl

theorem orient_shows {engine : Engine} (thumbnail : Thumbnail) (raster : Raster) :
    Task.Ensures (HasJob (Vips.Shows raster))
      (Task.forAll (Pipeline.step engine) thumbnail.orientOperations) fun _ =>
        HasJob (Vips.Shows
          (if thumbnail.options.autoOrient then Transformation.upright raster else raster)) := by
  unfold orientOperations
  split
  · refine .forAll_single (.rescue_fail (.bind ?_ fun _ => .pure fun _ shows => shows))
    rw [Engine.apply_onJob (show Primitive.autoOrient ≠ .optimizeFrames from nofun)]
    refine (HasJob.onJob (Vips.Shows.transform .turnUpright)).imp fun _ session => ?_
    exact HasJob.mono fun _ ⟨turned, result, shows⟩ => by cases result; exact shows
  · exact .pure fun _ shows => shows

theorem earlier_shows {engine : Engine} (isVips : engine.kind = .vips) (opening : Opening)
    (thumbnail : Thumbnail) {animated : Bool}
    (still : animated = false ∨ opening.machine.allPages = none) :
    Task.Ensures (fun session => opening.IsAwaited session.world)
      (Task.forAll (Pipeline.step engine) (.load opening.source [] ::
        (thumbnail.frameOperations animated ++ thumbnail.orientOperations))) fun _ =>
        HasJob (Vips.Shows (if thumbnail.options.autoOrient
          then Transformation.upright opening.machine.source else opening.machine.source)) := by
  have reads : Task.Ensures opening.IsAwaited (Vips.loaderOptionsFrom [] [])
      fun options world => options = [] ∧ opening.IsAwaited world :=
    .pure fun _ awaited => ⟨rfl, awaited⟩
  refine .forAll_cons (HasJob.load isVips reads) (.forAll_append (.exists_elim ?_)
    (thumbnail.orient_shows _))
  exact fun options bare => thumbnail.frames_show bare still

def WorksOn (session : Session) (found : Picture) : Prop :=
  ∃ job after, session.job = some (.vips job) ∧
    Vips.picture.run (session.world, job) = (.ok found, after)

/-- On a source of one page, a resize is decided with the sides of the picture that it acts on,
unless the picture is turned upright although its orientation did not count for the measuring. The
library may fail on the way if it cannot be led to open anything but that page. -/
theorem resize_worksOn {thumbnail : Thumbnail} {world : World} {destination : Path}
    {allocated built : Progress} {pipeline : Pipeline} {earlier later : List Operation}
    {resize : Resize} {results : List (Option DirectiveOutcome)} {session : Session}
    {found : Picture} (isVips : thumbnail.engine.kind = .vips)
    (usual : thumbnail.options.sourceParser = none)
    (bare : ∃ records,
      SourceOptions.loaderOptions thumbnail.options.sourceOptions = .ok ([], records))
    (single : world.machine.source.IsSinglePage)
    (prepared : thumbnail.allocated.run (.start world) = (.ok destination, allocated))
    (answered : world.faultsSince allocated.world = [] ∨ world.machine.allPages = none)
    (planned : (thumbnail.buildPipeline destination).run allocated = (.ok pipeline, built))
    (placed : pipeline.operations = earlier ++ .resize resize :: later)
    (ran : (Task.forAll (Pipeline.step thumbnail.engine) earlier).run ⟨built.world, none⟩ =
      (.ok results, session))
    (worked : WorksOn session found) :
    ∃ geometry, allocated.geometry = some geometry ∧
      Resize.resolve geometry thumbnail.target .vips = .ok resize ∧
      (geometry.Measures found.raster ↔
        thumbnail.engine.settings.useExifOrientation = true ∨
          thumbnail.options.autoOrient = false ∨ world.machine.source.isTurned = false ∨
          world.machine.source.width = world.machine.source.height) := by
  obtain ⟨machine, known, still⟩ := allocated_single isVips usual single prepared
  obtain ⟨resolved, kept, loaderOptions, records, loaded, rfl⟩ := resize_placed known planned placed
  obtain ⟨_, nothing⟩ := bare
  cases nothing.symm.trans loaded
  have whole : thumbnail.isAnimated allocated = false ∨ built.world.machine.allPages = none := by
    rw [kept, machine]
    exact answered.imp_left fun sound => by simp [isAnimated, still sound]
  obtain ⟨job, same, shows⟩ := earlier_shows isVips
    ⟨built.world.machine, built.world.calls, built.world.pictureCount, thumbnail.path, []⟩ thumbnail
    whole ⟨built.world, none⟩ results session ⟨rfl, rfl, rfl⟩ ran
  obtain ⟨other, after, also, pictured⟩ := worked
  cases same.symm.trans also
  refine ⟨_, known, isVips ▸ resolved, ?_⟩
  rw [shows found after pictured, kept, machine]
  exact seen_measures single thumbnail _

def askew (exif : Bool) : Thumbnail :=
  { plain with
    engine := ⟨.vips, { Settings.standard with useExifOrientation := exif }⟩
    target := ⟨some 100, some 50, .force⟩ }

theorem turned_isSound (after : World) : World.turned.faultsSince after = [] :=
  Machine.faults_eq_nil (fun _ _ => rfl) _ _

theorem turned_isSinglePage : World.turned.machine.source.IsSinglePage :=
  ⟨.inl rfl, .inr ⟨6, rfl⟩⟩

theorem askew_allocated (exif : Bool) : ∃ destination allocated,
    (askew exif).allocated.run (.start .turned) = (.ok destination, allocated) := by
  have succeeds : ((askew exif).allocated.run (.start .turned)).1.toOption.isSome = true := by
    cases exif <;> decide +kernel
  rcases prepared : (askew exif).allocated.run (.start .turned) with ⟨outcome, allocated⟩
  rw [prepared] at succeeds
  cases outcome with
  | error failure => cases succeeds
  | ok destination => exact ⟨destination, allocated, rfl⟩

theorem askew_reaches (exif : Bool) {allocated : Progress} (destination : Path)
    (machine : allocated.world.machine = World.turned.machine)
    (known : allocated.geometry =
      some ((askew exif).seen (World.turned.machine.source.measured (askew exif).engine.settings)))
    (still : allocated.animatedSource = some false) :
    ∃ pipeline built earlier later resize results session found,
      ((askew exif).buildPipeline destination).run allocated = (.ok pipeline, built) ∧
      pipeline.operations = earlier ++ .resize resize :: later ∧
      (Task.forAll (Pipeline.step (askew exif).engine) earlier).run ⟨built.world, none⟩ =
        (.ok results, session) ∧
      WorksOn session found ∧ found.width = 30 := by
  obtain ⟨⟨_, folder, files, loaded, count, calls, log⟩, _, warnings, _⟩ := allocated
  cases machine
  cases known
  cases still
  -- Whether the library is loaded already makes no difference to what it opens.
  cases exif <;> cases loaded <;>
    exact ⟨⟨[.load plain.path [], .autoOrient, .resize _, .save destination], false⟩, _,
      [.load plain.path [], .autoOrient], [.save destination], _, _, _, _, Prod.ext rfl rfl,
      rfl, Prod.ext rfl rfl, ⟨_, _, rfl, Prod.ext rfl rfl⟩, rfl⟩

theorem askew_measured : ∃ destination allocated pipeline built earlier later resize results session
    found geometry,
    World.turned.machine.source.IsSinglePage ∧
    (askew true).allocated.run (.start .turned) = (.ok destination, allocated) ∧
    ((askew true).buildPipeline destination).run allocated = (.ok pipeline, built) ∧
    pipeline.operations = earlier ++ .resize resize :: later ∧
    (Task.forAll (Pipeline.step (askew true).engine) earlier).run ⟨built.world, none⟩ =
      (.ok results, session) ∧
    WorksOn session found ∧ allocated.geometry = some geometry ∧
    geometry.Measures found.raster := by
  obtain ⟨destination, allocated, prepared⟩ := askew_allocated true
  obtain ⟨machine, known, still⟩ := allocated_single rfl rfl turned_isSinglePage prepared
  obtain ⟨pipeline, built, earlier, later, resize, results, session, found, planned, placed, ran,
    worked, -⟩ := askew_reaches true destination machine known (still (turned_isSound _))
  obtain ⟨geometry, kept, -, measures⟩ := resize_worksOn rfl rfl ⟨[], rfl⟩ turned_isSinglePage
    prepared (.inl (turned_isSound _)) planned placed ran worked
  exact ⟨destination, allocated, pipeline, built, earlier, later, resize, results, session, found,
    geometry, turned_isSinglePage, prepared, planned, placed, ran, worked, kept,
    measures.mpr (.inl rfl)⟩

theorem askew_mismeasured : ∃ destination allocated pipeline built earlier later resize results
    session found geometry,
    World.turned.machine.source.IsSinglePage ∧
    (askew false).allocated.run (.start .turned) = (.ok destination, allocated) ∧
    ((askew false).buildPipeline destination).run allocated = (.ok pipeline, built) ∧
    pipeline.operations = earlier ++ .resize resize :: later ∧
    (Task.forAll (Pipeline.step (askew false).engine) earlier).run ⟨built.world, none⟩ =
      (.ok results, session) ∧
    WorksOn session found ∧ allocated.geometry = some geometry ∧
    ¬ geometry.Measures found.raster := by
  obtain ⟨destination, allocated, prepared⟩ := askew_allocated false
  obtain ⟨machine, known, still⟩ := allocated_single rfl rfl turned_isSinglePage prepared
  obtain ⟨pipeline, built, earlier, later, resize, results, session, found, planned, placed, ran,
    worked, narrow⟩ := askew_reaches false destination machine known (still (turned_isSound _))
  refine ⟨destination, allocated, pipeline, built, earlier, later, resize, results, session, found,
    _, turned_isSinglePage, prepared, planned, placed, ran, worked, known, fun measures => ?_⟩
  exact absurd (narrow.symm.trans measures.1) (by decide)

end Thumbnailing.Thumbnail
