import Thumbnailing.Proofs.Engine.Commands
import Thumbnailing.Proofs.Request.Stages
import Thumbnailing.Proofs.World.Plain

set_option autoImplicit false

namespace Thumbnailing

def Failure.isProcessing (failure : Failure) : Bool := failure.kind?.any ErrorKind.isProcessing

abbrev NeverFailsProcessing {State Result : Type} (task : Task State Result) : Prop :=
  Task.FailsWithin (fun failure => failure.isProcessing = false) task

theorem Failure.isProcessing_of_isOfFiles {failure : Failure} (ofFiles : failure.isOfFiles = true) :
    failure.isProcessing = false := by
  cases failure with
  | service error => cases ofFiles
  | _ => rfl

namespace Thumbnail

theorem countFrames_neverFailsProcessing (thumbnail : Thumbnail) :
    NeverFailsProcessing thumbnail.countFrames := by
  refine .bind_attempt (.anyhow _) (fun count => .succeed _) ?_
  intro failure _
  simp only
  split
  · refine .bind (.modify _) fun _ => ?_
    exact (sniff_failsOnFiles _).mono fun _ => Failure.isProcessing_of_isOfFiles
  · rename_i hopeless
    refine .fail ?_
    cases failure with
    | service error =>
      have kind : error.kind = .engineUnavailable := by
        simpa [canSniffInstead, Failure.kind?, Failure.isStorage] using hopeless
      simp [Failure.isProcessing, Failure.kind?, kind, ErrorKind.isProcessing]
    | _ => rfl

theorem detectAnimatedSource_neverFailsProcessing (thumbnail : Thumbnail) :
    NeverFailsProcessing thumbnail.detectAnimatedSource := by
  refine .bind .read fun progress => ?_
  cases progress.animatedSource with
  | some known => exact .succeed known
  | none =>
    refine .bind (.onPart thumbnail.countFrames_neverFailsProcessing) fun animated => ?_
    exact .bind (.modify _) fun _ => .succeed animated

def withWhiny (thumbnail : Thumbnail) (whiny : Bool) : Thumbnail :=
  { thumbnail with options := { thumbnail.options with whiny } }

theorem allocated_ordinary {thumbnail : Thumbnail} {progress : Progress} {failure : Failure}
    (failed : (thumbnail.allocated.run progress).1 = .error failure)
    (processing : failure.isProcessing = true) :
    (thumbnail.measureOnce.run progress).1 = .error failure := by
  unfold allocated at failed
  rw [Task.run_bind] at failed
  rcases measured : thumbnail.measureOnce.run progress with ⟨outcome, between⟩
  rw [measured] at failed
  cases outcome with
  | error other =>
    cases failed
    rfl
  | ok _ =>
    have rest : NeverFailsProcessing (do
        discard thumbnail.detectAnimatedSource
        Progress.onWorld (Temporary.allocate thumbnail.basename thumbnail.extension
          thumbnail.engine.settings.temporaryFolder)) := by
      refine .bind (.bind thumbnail.detectAnimatedSource_neverFailsProcessing fun _ => .succeed ()) ?_
      intro _
      exact .onPart ((FailsOnFiles.create _ _ _ _).mono fun _ => Failure.isProcessing_of_isOfFiles)
    -- What follows the measuring never fails at processing, so the failure is from before.
    have ordinary : failure.isProcessing = false := rest between failure failed
    rw [processing] at ordinary
    cases ordinary

theorem produceFile_isFile {thumbnail : Thumbnail} {destination : Path} {product : Product}
    {progress after : Progress}
    (made : (thumbnail.produceFile destination).run progress = (.ok product, after)) :
    product = .file destination := by
  obtain ⟨_, between, _, rest⟩ := Task.run_bind_eq_ok.mp made
  cases rest
  rfl

theorem settle_ordinary (thumbnail : Thumbnail) {failure : Failure}
    (ordinary : failure.isProcessing = false) : thumbnail.settle failure = .fail failure := by
  cases failure with
  | service error =>
    have kind : error.kind.isProcessing = false := ordinary
    simp [settle, kind]
  | _ => rfl

theorem settle_whiny (thumbnail : Thumbnail) {error : ServiceError}
    (processing : error.kind.isProcessing = true) :
    (thumbnail.withWhiny true).settle (.service error) = .fail (thumbnail.complaint error) := by
  have asked : (thumbnail.withWhiny true).options.whiny = true := rfl
  simp only [settle, processing, asked]
  rfl

theorem settle_lenient (thumbnail : Thumbnail) {error : ServiceError}
    (processing : error.kind.isProcessing = true) (progress : Progress) :
    ((thumbnail.withWhiny false).settle (.service error)).run progress =
      (.ok .source,
        { progress with world := progress.world.append [thumbnail.givenUpRecord error] }) := by
  have asked : (thumbnail.withWhiny false).options.whiny = false := rfl
  simp only [settle, processing, asked]
  rfl

/-- A caller who wants no complaints gets the same as one who does, except that failed processing
is answered with the source if the source could be measured. -/
theorem make_lenient (thumbnail : Thumbnail) (progress : Progress) :
    match (thumbnail.withWhiny true).make.run progress with
    | (.ok product, after) =>
      (∃ destination, product = .file destination) ∧
        (thumbnail.withWhiny false).make.run progress = (.ok product, after)
    | (.error failure, after) =>
      if failure.isProcessing && (thumbnail.measureOnce.run progress).1.isOk then
        ∃ records, (thumbnail.withWhiny false).make.run progress =
          (.ok .source, { after with world := after.world.append records })
      else (thumbnail.withWhiny false).make.run progress = (.error failure, after) := by
  have early (whiny : Bool) : (thumbnail.withWhiny whiny).allocated = thumbnail.allocated := rfl
  have late (whiny : Bool) (destination : Path) :
    (thumbnail.withWhiny whiny).produceFile destination = thumbnail.produceFile destination := rfl
  -- Both callers do the same until a failure of the second stage is settled.
  simp only [make_stages, early, late]
  rcases first : thumbnail.allocated.run progress with ⟨outcome, between⟩
  cases outcome with
  | error failure =>
    simp only [Task.run_bind_of_error first]
    by_cases processing : failure.isProcessing = true
    · have unmeasured : (thumbnail.measureOnce.run progress).1.isOk = false := by
        rw [allocated_ordinary (by rw [first]) processing]
        rfl
      simp [unmeasured]
    · simp [processing]
  | ok destination =>
    simp only [Task.run_bind_of_ok first]
    have measured : (thumbnail.measureOnce.run progress).1.isOk = true := by
      obtain ⟨answer, _, run, _⟩ := Task.run_bind_eq_ok.mp first
      rw [run]
      rfl
    rcases second : (thumbnail.produceFile destination).run between with ⟨outcome, after⟩
    cases outcome with
    | ok product =>
      simp only [Task.run_rescue_of_ok second]
      exact ⟨⟨destination, produceFile_isFile second⟩, trivial⟩
    | error failure =>
      simp only [Task.run_rescue_of_error second]
      cases processing : failure.isProcessing with
      | false =>
        simp [settle_ordinary _ processing, processing]
      | true =>
        -- Only errors of the service count as failed processing.
        cases failure with
        | service error =>
          have complained : (thumbnail.complaint error).isProcessing = true := processing
          simp only [settle_whiny thumbnail processing, settle_lenient thumbnail processing,
            Task.run_fail, complained, measured]
          exact ⟨_, rfl⟩
        | _ => cases processing

def raisesProcessing : Outcome Product → Bool
  | .ok _ => false
  | .error failure => failure.isProcessing

theorem slow_measuring_escapes :
    ¬ ∀ (thumbnail : Thumbnail) (before after : Progress) (failure : Failure),
      (thumbnail.withWhiny true).make.run before = (.error failure, after) →
      failure.isProcessing = true →
      ((thumbnail.withWhiny false).make.run before).1 = .ok .source := by
  intro claimed
  have raised (whiny : Bool) :
      raisesProcessing ((plain.withWhiny whiny).make.run (.start .slow)).1 = true := by
    cases whiny <;> decide +kernel
  have strict := raised true
  have lenient := raised false
  rcases run : (plain.withWhiny true).make.run (.start .slow) with ⟨outcome, after⟩
  rw [run] at strict
  cases outcome with
  | ok product => cases strict
  | error failure =>
    rw [claimed plain (.start .slow) after failure run strict] at lenient
    cases lenient

end Thumbnail

end Thumbnailing
