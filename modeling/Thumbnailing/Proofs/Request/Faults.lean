import Thumbnailing.Proofs.Engine.Faults
import Thumbnailing.Proofs.Request.Failures

set_option autoImplicit false

namespace Thumbnailing

def Raises {Result : Type} (kind : ErrorKind) (outcome : Outcome Result) : Prop :=
  ∃ error, outcome = .error (.service error) ∧ error.kind = kind

namespace Thumbnail

variable {thumbnail : Thumbnail}

theorem measureOnce_reports (isVips : thumbnail.engine.kind = .vips) :
    Reports Vips.probed Progress.world thumbnail.measureOnce := by
  have closed := Task.IsClosed.reports Vips.probed Progress.world
  have gauges (source : Option String) :
      Reports Vips.probed id (thumbnail.engine.detectGeometry source) := by
    have quietly := Task.IsClosed.reports Vips.probed (id : World → World)
    cases source with
    | none => exact quietly.fail _
    | some source =>
      unfold Engine.detectGeometry
      simp only
      split
      · exact quietly.fail _
      · simp only [Engine.probe, isVips]
        exact Vips.probe_reports _ _
  have measures : Reports Vips.probed Progress.world thumbnail.measure := by
    unfold measure
    split
    · exact closed.ofOutcome _
    · exact (gauges _).onPart (fun _ => rfl) fun _ _ => rfl
  have notes (geometry : CurrentGeometry) : Reports Vips.probed Progress.world
      (.modify fun progress => { progress with geometry := some geometry }) :=
    .of_quiet fun _ => ⟨rfl, rfl⟩
  have detects : Reports Vips.probed Progress.world thumbnail.detectGeometry :=
    closed.bind measures fun _ => closed.bind (notes _) fun _ => closed.succeed _
  refine closed.bind .read fun progress => ?_
  split
  · exact closed.bind detects fun _ => closed.succeed ()
  · exact closed.succeed ()

theorem countFrames_sniffs (isVips : thumbnail.engine.kind = .vips) {world : World}
    (failed : world.libraryFailedSince (thumbnail.countFrames.run world).2 = true) :
    (thumbnail.countFrames.run world).1 = ((sniff thumbnail.path).run world).1 := by
  have asked : thumbnail.engine.countFrames thumbnail.path = Vips.countFrames thumbnail.path := by
    simp only [Engine.countFrames, isVips]
  have reported := Vips.countFrames_reports thumbnail.path world
  have place := Vips.countFrames_inPlace thumbnail.path world
  rw [← asked] at reported place
  rcases ran : (thumbnail.engine.countFrames thumbnail.path).run world with ⟨outcome, between⟩
  rw [ran] at reported place
  cases outcome with
  | ok count =>
    rw [run_countFrames_counted ran] at failed
    obtain ⟨message, said⟩ := reported.of_failed failed
    cases said
  | error failure =>
    rw [run_countFrames_failed ran] at failed ⊢
    by_cases sniffed : canSniffInstead failure = true
    · rw [if_pos sniffed]
      exact sniff_inPlace place _
    · rw [if_neg sniffed] at failed
      obtain ⟨message, said⟩ := reported.of_failed failed
      cases said
      exact absurd rfl sniffed

theorem detectAnimatedSource_sniffs (isVips : thumbnail.engine.kind = .vips) {progress : Progress}
    (failed : progress.world.libraryFailedSince
      (thumbnail.detectAnimatedSource.run progress).2.world = true) :
    (thumbnail.detectAnimatedSource.run progress).1 =
      ((sniff thumbnail.path).run progress.world).1 := by
  cases known : progress.animatedSource with
  | some animated =>
    -- An answer that is known is given without a call.
    unfold detectAnimatedSource at failed
    rw [Task.run_bind_of_ok (Task.run_read progress)] at failed
    simp only [known] at failed
    rw [World.libraryFailedSince, Task.run_pure,
      (World.IsQuiet.history.refl progress.world).faultsSince] at failed
    cases failed
  | none =>
    rw [run_detectAnimatedSource known] at failed ⊢
    exact countFrames_sniffs isVips failed

theorem onFailure_reports {words : Failure → Failure} {task : Task Progress Unit} {path : Path}
    (first : Reports words Progress.world task) :
    Reports words Progress.world (task.onFailure (Progress.onWorld (Files.discard path))) := by
  intro progress
  have started := first progress
  rcases ran : task.run progress with ⟨outcome, between⟩
  rw [ran] at started
  cases outcome with
  | ok result => rwa [Task.run_onFailure_eq_ok.mpr ran]
  | error failure =>
    rw [Task.run_onFailure_of_error ran rfl]
    exact started.then_quiet ⟨rfl, rfl⟩

theorem produceFile_reports (thumbnail : Thumbnail) (destination : Path) :
    Reports thumbnail.engine.translated Progress.world (thumbnail.produceFile destination) := by
  have closed := Task.IsClosed.reports thumbnail.engine.translated Progress.world
  have logs (records : List LogRecord) : Reports thumbnail.engine.translated Progress.world
      (Progress.onWorld (logAll records)) := .of_quiet fun _ => ⟨rfl, rfl⟩
  have builds : Reports thumbnail.engine.translated Progress.world
      (thumbnail.buildPipeline destination) := by
    refine closed.bind (closed.ofOutcome _) fun _ => closed.bind (logs _) fun _ => ?_
    refine closed.bind .read fun progress => closed.bind (closed.ofOutcome _) fun resize => ?_
    refine closed.bind (closed.ofOutcome _) fun tokens => closed.bind (logs _) fun _ => ?_
    exact closed.ofOutcome _
  have performs (operations : List Operation) :
      Reports thumbnail.engine.translated Progress.world
        (Progress.onWorld (Pipeline.perform thumbnail.engine operations)) :=
    (Pipeline.perform_reports _ _).onPart (fun _ => rfl) fun _ _ => rfl
  have notes (warnings : List DirectiveOutcome) : Reports thumbnail.engine.translated
      Progress.world (.modify fun progress => { progress with warnings }) :=
    .of_quiet fun _ => ⟨rfl, rfl⟩
  have produces : Reports thumbnail.engine.translated Progress.world
      (thumbnail.produce destination) :=
    closed.bind builds fun _ => closed.bind (performs _) fun _ => notes _
  exact closed.bind (onFailure_reports produces) fun _ => closed.succeed _

theorem settle_isQuiet (thumbnail : Thumbnail) (failure : Failure) (progress : Progress) :
    progress.world.IsQuiet ((thumbnail.settle failure).run progress).2.world := by
  unfold settle
  split
  · split
    · exact World.IsQuiet.history.refl _
    · split
      · exact World.IsQuiet.history.refl _
      · exact ⟨rfl, rfl⟩
  · exact World.IsQuiet.history.refl _

def IsSettled (thumbnail : Thumbnail) (outcome : Outcome Product) : Prop :=
  if thumbnail.options.whiny then Raises .processingFailed outcome else outcome = .ok .source

theorem settle_processingFailed (thumbnail : Thumbnail) (message : String) (progress : Progress) :
    thumbnail.IsSettled ((thumbnail.settle (Vips.processingFailed message)).run progress).1 := by
  unfold IsSettled
  cases complains : thumbnail.options.whiny with
  | true =>
    simp only [settle, Vips.processingFailed, Failure.ofKind, complains]
    exact ⟨_, rfl, rfl⟩
  | false =>
    simp only [settle, Vips.processingFailed, Failure.ofKind, complains]
    rfl

theorem secondStage_settles (isVips : thumbnail.engine.kind = .vips) {destination : Path}
    {progress filled : Progress} {message : String}
    (failed : (thumbnail.produceFile destination).run progress =
      (.error (thumbnail.engine.translated (.imageLibrary message)), filled)) :
    thumbnail.IsSettled
      (((thumbnail.produceFile destination).rescue thumbnail.settle).run progress).1 := by
  rw [Engine.translated_vips isVips] at failed
  rw [Task.run_rescue_of_error failed]
  exact thumbnail.settle_processingFailed _ filled

theorem produceFile_of_call {destination : Path} {progress : Progress}
    (failed : progress.world.libraryFailedSince
      (((thumbnail.produceFile destination).rescue thumbnail.settle).run progress).2.world = true) :
    ∃ message filled, (thumbnail.produceFile destination).run progress =
      (.error (thumbnail.engine.translated (.imageLibrary message)), filled) := by
  have reported := thumbnail.produceFile_reports destination progress
  rcases ran : (thumbnail.produceFile destination).run progress with ⟨outcome, filled⟩
  rw [ran] at reported
  cases outcome with
  | ok product =>
    rw [Task.run_rescue_of_ok ran] at failed
    obtain ⟨message, said⟩ := reported.of_failed failed
    cases said
  | error failure =>
    rw [Task.run_rescue_of_error ran,
      World.libraryFailedSince_quiet (thumbnail.settle_isQuiet failure filled)] at failed
    obtain ⟨message, said⟩ := reported.of_failed failed
    cases said
    exact ⟨message, filled, rfl⟩

theorem produceFile_of_fault {destination : Path} {progress built : Progress} {pipeline : Pipeline}
    (planned : (thumbnail.buildPipeline destination).run progress = (.ok pipeline, built))
    (meets : Pipeline.meetsFault thumbnail.engine pipeline.operations ⟨built.world, none⟩ = true) :
    ∃ message filled, (thumbnail.produceFile destination).run progress =
      (.error (thumbnail.engine.translated (.imageLibrary message)), filled) := by
  obtain ⟨message, after, failed⟩ := Pipeline.perform_of_fault meets
  have performed : (Progress.onWorld (Pipeline.perform thumbnail.engine pipeline.operations)).run
      built = (.error (thumbnail.engine.translated (.imageLibrary message)),
        { built with world := after }) := by
    rw [Progress.run_onWorld, failed]
  have produced : (thumbnail.produce destination).run progress =
      (.error (thumbnail.engine.translated (.imageLibrary message)),
        { built with world := after }) := by
    rw [produce, Task.run_bind_of_ok planned, Task.run_bind_of_error performed]
  exact ⟨message, _, Task.run_bind_of_error (Task.run_onFailure_of_error produced rfl)⟩

/-- What becomes of errors of the library when a thumbnail is made. The start is any progress, so
that faults may also begin after the source was measured or its frames were counted. -/
structure HeedsFaults (thumbnail : Thumbnail) (before : Progress) : Prop where
  -- Only the caller's own parser of sources can make one leave.
  leaves : ∀ failure, (thumbnail.make.run before).1 = .error failure →
    Vips.isLibraryFault failure = true → thumbnail.ParserFails failure
  measuring : before.world.libraryFailedSince (thumbnail.measureOnce.run before).2.world = true →
    Raises .unreadableSource (thumbnail.make.run before).1
  counting : ∀ measured, thumbnail.measureOnce.run before = (.ok (), measured) →
    measured.world.libraryFailedSince
      (thumbnail.detectAnimatedSource.run measured).2.world = true →
    (thumbnail.detectAnimatedSource.run measured).1 = ((sniff thumbnail.path).run measured.world).1
  -- An operation ends at once on a call that fails, wherever in a pipeline faults begin.
  calling : ∀ operation session, session.world.libraryFailedSince
      ((Pipeline.execute thumbnail.engine operation).run session).2.world = true →
    Pipeline.failsInLibrary thumbnail.engine operation session = true
  working : ∀ operation session,
    Pipeline.failsInLibrary thumbnail.engine operation session = true →
    Raises .processingFailed ((Pipeline.step thumbnail.engine operation).run session).1
  -- A cut outside the picture is an error of the library that no call is remembered of.
  performing : ∀ destination looked pipeline built,
    thumbnail.allocated.run before = (.ok destination, looked) →
    (thumbnail.buildPipeline destination).run looked = (.ok pipeline, built) →
    Pipeline.meetsFault thumbnail.engine pipeline.operations ⟨built.world, none⟩ = true →
    thumbnail.IsSettled (thumbnail.make.run before).1
  producing : ∀ destination looked, thumbnail.allocated.run before = (.ok destination, looked) →
    looked.world.libraryFailedSince (thumbnail.make.run before).2.world = true →
    thumbnail.IsSettled (thumbnail.make.run before).1

theorem make_heedsFaults (thumbnail : Thumbnail) (isVips : thumbnail.engine.kind = .vips)
    (before : Progress) : thumbnail.HeedsFaults before where
  leaves := make_mayFail isVips before
  measuring failed := by
    obtain ⟨message, said⟩ := (measureOnce_reports isVips before).of_failed failed
    rcases ran : thumbnail.measureOnce.run before with ⟨outcome, measured⟩
    rw [ran] at said
    cases said
    rw [make_stages, allocated, Task.run_bind_of_error (Task.run_bind_of_error ran)]
    exact ⟨_, rfl, rfl⟩
  counting _ _ := detectAnimatedSource_sniffs isVips
  calling _ _ := Pipeline.failsInLibrary_of_call
  working operation session fails := by
    obtain ⟨message, after, failed⟩ := Pipeline.step_of_fault fails
    rw [failed, Engine.translated_vips isVips]
    exact ⟨_, rfl, rfl⟩
  performing destination looked pipeline built first planned meets := by
    obtain ⟨message, filled, failed⟩ := produceFile_of_fault planned meets
    rw [make_stages, Task.run_bind_of_ok first]
    exact secondStage_settles isVips failed
  producing destination looked first failed := by
    rw [make_stages, Task.run_bind_of_ok first] at failed ⊢
    obtain ⟨message, filled, failed⟩ := produceFile_of_call failed
    exact secondStage_settles isVips failed

def ofLibrary : Thumbnail := { plain with engine := ⟨.vips, .standard⟩ }

/-- A single question to the library fails: the first one of the measuring, the first one of the
counting, or the first one of the work itself. Or else every encoding fails. -/
theorem broken_isReported :
    Raises .unreadableSource (ofLibrary.make.run (.start (.lapsing 0))).1 ∧
    (∃ measured, ofLibrary.measureOnce.run (.start (.lapsing 2)) = (.ok (), measured) ∧
      (ofLibrary.detectAnimatedSource.run measured).1 =
        ((sniff ofLibrary.path).run measured.world).1 ∧
      (ofLibrary.make.run (.start (.lapsing 2))).1.isOk = true) ∧
    Raises .processingFailed (ofLibrary.make.run (.start (.lapsing 4))).1 ∧
    Raises .processingFailed (ofLibrary.make.run (.start (.broken "write_to_buffer"))).1 := by
  have later (world : World)
      (reached : (ofLibrary.allocated.run (.start world)).1.isOk = true)
      (failed : (ofLibrary.allocated.run (.start world)).2.world.libraryFailedSince
        (ofLibrary.make.run (.start world)).2.world = true) :
      Raises .processingFailed (ofLibrary.make.run (.start world)).1 := by
    rcases first : ofLibrary.allocated.run (.start world) with ⟨outcome, looked⟩
    rw [first] at reached failed
    cases outcome with
    | error failure => cases reached
    | ok destination =>
      exact (make_heedsFaults ofLibrary rfl _).producing destination looked first failed
  refine ⟨(make_heedsFaults ofLibrary rfl _).measuring (by decide +kernel), ⟨_, rfl, ?_, ?_⟩,
    later (.lapsing 4) (by decide +kernel) (by decide +kernel),
    later (.broken "write_to_buffer") (by decide +kernel) (by decide +kernel)⟩
  · exact (make_heedsFaults ofLibrary rfl (.start (.lapsing 2))).counting _ rfl (by decide +kernel)
  · decide +kernel

end Thumbnail

end Thumbnailing
