import Thumbnailing.Proofs.Request.Planning

set_option autoImplicit false

namespace Thumbnailing

abbrev NeverFailsInLibrary {State Result : Type} (task : Task State Result) : Prop :=
  Task.FailsWithin (fun failure => Vips.isLibraryFault failure = false) task

theorem Failure.isLibraryFault_of_isOfFiles {failure : Failure}
    (ofFiles : failure.isOfFiles = true) : Vips.isLibraryFault failure = false := by
  cases failure with
  | imageLibrary message => cases ofFiles
  | _ => rfl

theorem IsProper.isLibraryFault {Result : Type} {outcome : Outcome Result} {failure : Failure}
    (proper : IsProper outcome) (failed : outcome = .error failure) :
    Vips.isLibraryFault failure = false := by
  rw [failed, IsProper.error_iff] at proper
  obtain ⟨error, rfl⟩ := proper
  rfl

namespace Vips

theorem load_neverFailsInLibrary : NeverFailsInLibrary Library.load := by
  refine .bind .read fun world => ?_
  split
  · exact .succeed ()
  · split
    · exact .modify _
    · exact .fail rfl

theorem probe_neverFailsInLibrary (settings : Settings) (path : Path) :
    NeverFailsInLibrary (probe settings path) := by
  refine .bind load_neverFailsInLibrary fun _ => (Task.FailsWithin.anyhow _).rescue fun failure _ => ?_
  refine .fail ?_
  split
  · rfl
  · rename_i other
    exact Bool.eq_false_iff.mpr other

theorem countFrames_neverFailsInLibrary (path : Option Path) :
    NeverFailsInLibrary (countFrames path) := by
  refine .bind load_neverFailsInLibrary fun _ => (Task.FailsWithin.anyhow _).rescue fun failure _ => ?_
  cases failure <;> exact .fail rfl

theorem isLibraryFault_translated (failure : Failure) :
    isLibraryFault (translated failure) = false := by
  cases failure <;> rfl

end Vips

theorem Engine.translated_vips {engine : Engine} (isVips : engine.kind = .vips) :
    engine.translated = Vips.translated := by
  funext failure
  simp only [translated, isVips]

namespace Thumbnail

variable {thumbnail : Thumbnail}

def ParserFails (thumbnail : Thumbnail) (failure : Failure) : Prop :=
  ∃ parse, thumbnail.options.sourceParser = some parse ∧
    parse (thumbnail.path.map Path.text) thumbnail.engine.kind = .error failure

def MayFail (thumbnail : Thumbnail) (failure : Failure) : Prop :=
  Vips.isLibraryFault failure = true → thumbnail.ParserFails failure

theorem mayFail_of_other {failure : Failure} (other : Vips.isLibraryFault failure = false) :
    thumbnail.MayFail failure := by
  intro own
  rw [other] at own
  cases own

theorem detectGeometry_neverFailsInLibrary (isVips : thumbnail.engine.kind = .vips)
    (source : Option String) : NeverFailsInLibrary (thumbnail.engine.detectGeometry source) := by
  cases source with
  | none => exact .fail rfl
  | some source =>
    unfold Engine.detectGeometry
    simp only
    split
    · exact .fail rfl
    · simp only [Engine.probe, isVips]
      exact Vips.probe_neverFailsInLibrary _ _

theorem measureOnce_mayFail (isVips : thumbnail.engine.kind = .vips) :
    Task.FailsWithin thumbnail.MayFail thumbnail.measureOnce := by
  have measures : Task.FailsWithin thumbnail.MayFail thumbnail.measure := by
    unfold measure
    split
    · rename_i parse usual
      exact .ofOutcome fun failure failed _ => ⟨parse, usual, failed⟩
    · exact .mono (.onPart (detectGeometry_neverFailsInLibrary isVips _)) fun _ => mayFail_of_other
  have detects : Task.FailsWithin thumbnail.MayFail thumbnail.detectGeometry :=
    .bind measures fun _ => .bind (.modify _) fun _ => .succeed _
  refine .bind .read fun progress => ?_
  split
  · exact .bind detects fun _ => .succeed ()
  · exact .succeed ()

theorem detectAnimatedSource_neverFailsInLibrary (isVips : thumbnail.engine.kind = .vips) :
    NeverFailsInLibrary thumbnail.detectAnimatedSource := by
  have sniffs : NeverFailsInLibrary (sniff thumbnail.path) :=
    (sniff_failsOnFiles _).mono fun _ => Failure.isLibraryFault_of_isOfFiles
  have counts : NeverFailsInLibrary thumbnail.countFrames := by
    have counted : NeverFailsInLibrary (thumbnail.engine.countFrames thumbnail.path) := by
      simp only [Engine.countFrames, isVips]
      exact Vips.countFrames_neverFailsInLibrary _
    refine .bind_attempt counted (fun count => .succeed _) fun failure other => ?_
    simp only
    split
    · exact .bind (.modify _) fun _ => sniffs
    · exact .fail other
  refine .bind .read fun progress => ?_
  cases progress.animatedSource with
  | some known => exact .succeed known
  | none => exact .bind (.onPart counts) fun _ => .bind (.modify _) fun _ => .succeed _

theorem resizeOperations_ordinary {progress : Progress} {failure : Failure}
    (failed : thumbnail.resizeOperations progress = .error failure) :
    Vips.isLibraryFault failure = false := by
  unfold resizeOperations at failed
  split at failed
  · cases failed
  · unfold requireGeometry at failed
    cases known : progress.geometry with
    | none =>
      rw [known] at failed
      cases failed
      rfl
    | some current =>
      rw [known] at failed
      change arithmetically _ >>= _ = _ at failed
      cases resolved : Resize.resolve current thumbnail.target thumbnail.engine.kind with
      | ok resize =>
        rw [resolved] at failed
        cases failed
      | error fault =>
        rw [resolved] at failed
        cases failed
        rfl

theorem buildPipeline_neverFailsInLibrary (thumbnail : Thumbnail) (destination : Path) :
    NeverFailsInLibrary (thumbnail.buildPipeline destination) := by
  have loads : IsProper (SourceOptions.loaderOptions thumbnail.options.sourceOptions) := by
    cases thumbnail.options.sourceOptions with
    | none => exact .ok _
    | some options =>
      cases options with
      | table entries => exact .ok _
      | written options => exact IsProper.bind_iff.mpr ⟨.tokens _, fun _ _ => .ok _⟩
  refine .bind (.ofOutcome fun _ => loads.isLibraryFault) fun _ => ?_
  refine .bind (.onPart (.modify _)) fun _ => .bind .read fun progress => ?_
  refine .bind (.ofOutcome fun _ => resizeOperations_ordinary) fun resize => ?_
  refine .bind (.ofOutcome fun _ => (IsProper.tokens _).isLibraryFault) fun tokens => ?_
  exact .bind (.onPart (.modify _)) fun _ => .ofOutcome fun failure failed => by cases failed

theorem produceFile_neverFailsInLibrary (isVips : thumbnail.engine.kind = .vips)
    (destination : Path) : NeverFailsInLibrary (thumbnail.produceFile destination) := by
  have steps (operation : Operation) :
      NeverFailsInLibrary (Pipeline.step thumbnail.engine operation) := by
    refine (Task.FailsWithin.anyhow _).rescue fun failure _ => .fail ?_
    rw [Engine.translated_vips isVips]
    exact Vips.isLibraryFault_translated failure
  have performs (operations : List Operation) :
      NeverFailsInLibrary (Pipeline.perform thumbnail.engine operations) :=
    .onPart (.bind (.forAll fun operation _ => steps operation) fun _ => .succeed _)
  have produces : NeverFailsInLibrary (thumbnail.produce destination) :=
    .bind (thumbnail.buildPipeline_neverFailsInLibrary _) fun _ =>
      .bind (.onPart (performs _)) fun _ => .modify _
  exact .bind (.onFailure produces (.onPart (.modify _))) fun _ => .succeed _

theorem make_mayFail (isVips : thumbnail.engine.kind = .vips) :
    Task.FailsWithin thumbnail.MayFail thumbnail.make := by
  have creates : NeverFailsInLibrary (Temporary.allocate thumbnail.basename thumbnail.extension
      thumbnail.engine.settings.temporaryFolder) :=
    (FailsOnFiles.create _ _ _ _).mono fun _ => Failure.isLibraryFault_of_isOfFiles
  have settles (failure : Failure) (other : Vips.isLibraryFault failure = false) :
      NeverFailsInLibrary (thumbnail.settle failure) := by
    unfold settle
    split
    · split
      · exact .fail rfl
      · split
        · exact .fail rfl
        · exact .bind (.onPart (.modify _)) fun _ => .succeed _
    · exact .fail other
  have second (destination : Path) :
      NeverFailsInLibrary ((thumbnail.produceFile destination).rescue thumbnail.settle) :=
    (produceFile_neverFailsInLibrary isVips destination).rescue settles
  have looks : NeverFailsInLibrary (do
      discard thumbnail.detectAnimatedSource
      let destination ← Progress.onWorld (Temporary.allocate thumbnail.basename
        thumbnail.extension thumbnail.engine.settings.temporaryFolder)
      (thumbnail.produceFile destination).rescue thumbnail.settle) :=
    .bind (.bind (detectAnimatedSource_neverFailsInLibrary isVips) fun _ => .succeed ()) fun _ =>
      .bind (.onPart creates) second
  rw [make_stages]
  simp only [allocated, bind_assoc]
  exact .bind (measureOnce_mayFail isVips) fun _ => looks.mono fun _ => mayFail_of_other

end Thumbnail

end Thumbnailing
