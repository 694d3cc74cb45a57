import Thumbnailing.Proofs.Engine.Pages
import Thumbnailing.Proofs.Engine.Usage
import Thumbnailing.Proofs.World.Blame

set_option autoImplicit false

namespace Thumbnailing

namespace CurrentGeometry

theorem isTransposed_validOrientation (orientation : Int) :
    isTransposed (validOrientation orientation) = isTransposed orientation := by
  unfold validOrientation
  split
  · rfl
  · rename_i outside
    have beyond : isTransposed orientation = false := by
      simp only [isTransposed, Bool.and_eq_false_iff, decide_eq_false_iff_not]
      omega
    rw [beyond]
    rfl

def Measures (geometry : CurrentGeometry) (raster : Raster) : Prop :=
  raster.width = geometry.width ∧ raster.height = geometry.height

end CurrentGeometry

namespace Raster

/-- A picture of one page, whose orientation is a number if it is known. -/
structure IsSinglePage (raster : Raster) : Prop where
  pages : raster.metadata.get? "n-pages" = none ∨
    raster.metadata.get? "n-pages" = some (.integer 1)
  orientation : raster.metadata.get? "orientation" = none ∨
    ∃ number, raster.metadata.get? "orientation" = some (.integer number)

def orientation (raster : Raster) : Int :=
  (((raster.metadata.get? "orientation").bind Value.integer?).getD 1)

def isTurned (raster : Raster) : Bool := CurrentGeometry.isTransposed raster.orientation

def measured (raster : Raster) (settings : Settings) : CurrentGeometry where
  width := raster.width
  height := raster.height
  orientation :=
    if settings.useExifOrientation then CurrentGeometry.validOrientation raster.orientation else 1

theorem upright_sides {raster : Raster} (single : raster.IsSinglePage) :
    (Transformation.upright raster).width =
        (if raster.isTurned then raster.height else raster.width) ∧
      (Transformation.upright raster).height =
        (if raster.isTurned then raster.width else raster.height) := by
  have numbers (number : Int) : [5, 6, 7, 8].any (Value.integer number).isNumber =
      CurrentGeometry.isTransposed number := by
    rw [Bool.eq_iff_iff]
    simp only [List.any_cons, List.any_nil, Value.isNumber, CurrentGeometry.isTransposed,
      Bool.or_eq_true, Bool.and_eq_true, beq_iff_eq, decide_eq_true_eq, Bool.false_eq_true, or_false]
    omega
  rcases single.orientation with absent | ⟨number, known⟩
  · have plain : raster.isTurned = false := by
      simp [isTurned, orientation, absent, CurrentGeometry.isTransposed]
    simp [Transformation.upright, absent, plain]
  · have turned : raster.isTurned = CurrentGeometry.isTransposed number := by
      simp [isTurned, orientation, known, Value.integer?]
    rw [turned]
    simp only [Transformation.upright, known, numbers]
    split <;> exact ⟨rfl, rfl⟩

end Raster

namespace Vips

theorem orientationFrom_single {raster : Raster} (single : raster.IsSinglePage) :
    orientationFrom (raster.metadata.get? "orientation") =
      .ok (CurrentGeometry.validOrientation raster.orientation) := by
  rcases single.orientation with absent | ⟨number, known⟩
  · simp [orientationFrom, absent, Raster.orientation, CurrentGeometry.validOrientation]
  · have recorded : raster.orientation = number := by
      simp [Raster.orientation, known, Value.integer?]
    rw [known, recorded]
    rfl

theorem orientationOf_single {machine : Machine} {settings : Settings} {picture : Picture}
    (single : picture.raster.IsSinglePage) :
    Task.Ensures (fun world => world.machine = machine ∧ world.libraryLoaded = true)
      (orientationOf settings picture)
      fun orientation world => orientation = (picture.raster.measured settings).orientation ∧
        world.machine = machine ∧ world.libraryLoaded = true := by
  unfold orientationOf
  split
  · rename_i exif
    intro world orientation after ready ran
    obtain ⟨recorded, between, looked, ran⟩ := Task.run_bind_eq_ok.mp ran
    obtain ⟨rfl, methods, rfl⟩ := Library.metadata_eq_ok looked
    rw [Task.run_ofOutcome, Picture.metadata?, orientationFrom_single single] at ran
    cases ran
    exact ⟨by simp [Raster.measured, exif], ready⟩
  · rename_i unread
    exact .pure fun world ready => ⟨by simp [Raster.measured, unread], ready⟩

theorem probe_measures {machine : Machine} (single : machine.source.IsSinglePage)
    (settings : Settings) (path : Path) :
    Task.Ensures (fun world => world.machine = machine) (probe settings path)
      fun measured world => measured = machine.source.measured settings ∧
        world.machine = machine ∧ world.libraryLoaded = true := by
  have loads : Task.Ensures (fun world => world.machine = machine) Library.load
      fun _ world => world.machine = machine ∧ world.libraryLoaded = true := by
    intro world _ after same loaded
    rw [Library.load_eq_ok loaded]
    exact ⟨same, rfl⟩
  have opens : Task.Ensures (fun world => world.machine = machine ∧ world.libraryLoaded = true)
      (Library.openPicture path.text sequential)
      fun picture world => picture.raster = machine.source ∧
        world.machine = machine ∧ world.libraryLoaded = true := by
    rintro world picture after ⟨rfl, loaded⟩ ran
    obtain ⟨-, rfl, rfl⟩ := Library.openPicture_eq_ok.mp ran
    exact ⟨rfl, rfl, loaded⟩
  refine .bind loads fun _ => .rescue_fail (.bind opens fun picture => .assuming fun same => ?_)
  refine .bind (orientationOf_single (same ▸ single)) fun orientation => ?_
  refine .assuming fun known => .pure fun world ready => ?_
  cases known
  exact ⟨by rw [← same]; rfl, ready⟩

theorem pagesOf_single {world : World} (path : Option Path)
    (single : world.machine.source.IsSinglePage) :
    BlamesFrom id (pagesOf path) world ∧
      ∀ {count after}, (pagesOf path).run world = (.ok count, after) → count = 1 := by
  have counted {picture found between after}
      (opened : (Library.openPicture (pathText path) sequential).run world = (.ok picture, between))
      (looked : (Library.metadata? "n-pages" picture).run between = (.ok found, after)) :
      pageCountFrom found = .ok 1 := by
    obtain ⟨-, rfl, -⟩ := Library.openPicture_eq_ok.mp opened
    obtain ⟨rfl, -⟩ := Library.metadata_eq_ok looked
    change pageCountFrom (world.machine.source.metadata.get? "n-pages") = .ok 1
    rcases single.pages with absent | one
    · rw [absent]
      rfl
    · rw [one]
      rfl
  constructor
  · refine (Library.openPicture_blamesFrom _ _ world).bind fun picture between opened => ?_
    refine (Library.metadata_blamesFrom _ _ between).bind fun found after looked => ?_
    rw [counted opened looked]
    exact .of_ok rfl
  · intro count after ran
    obtain ⟨picture, between, opened, ran⟩ := Task.run_bind_eq_ok.mp ran
    obtain ⟨found, last, looked, ran⟩ := Task.run_bind_eq_ok.mp ran
    rw [Task.run_ofOutcome, counted opened looked] at ran
    cases ran
    rfl

theorem countFrames_single {world after : World} {outcome : Outcome Int} {path : Option Path}
    (single : world.machine.source.IsSinglePage) (loaded : world.libraryLoaded = true)
    (ran : (countFrames path).run world = (outcome, after)) (sound : world.faultsSince after = []) :
    outcome = .ok 1 := by
  obtain ⟨blames, one⟩ := pagesOf_single path single
  rw [countFrames, Task.run_bind_of_ok (Library.load_again loaded)] at ran
  rcases paged : (pagesOf path).run world with ⟨failure | count, between⟩
  · rw [Task.run_rescue_of_error paged] at ran
    have ended : between = after := by cases failure <;> exact congrArg Prod.snd ran
    have met : failure ∈ world.faultsSince between := blames.mem_faultsSince paged
    rw [ended, sound] at met
    cases met
  · cases one paged
    exact congrArg Prod.fst (ran.symm.trans (Task.run_rescue_of_ok paged))

def Shows (raster : Raster) (state : World × VipsJob) : Prop :=
  ∀ found after, picture.run state = (.ok found, after) → found.raster = raster

theorem IsUnopened.shows {opening : Opening} {state : World × VipsJob}
    (unopened : IsUnopened opening state) :
    Shows (Library.opened opening.machine opening.options) state := by
  obtain ⟨world, source, options, kept, saverOptions, format⟩ := state
  obtain ⟨rfl, rfl, rfl, same, -, -⟩ := unopened
  intro found after ran
  rw [(picture_eq_ok ran).1, ← same]
  rfl

theorem Shows.transform {raster : Raster} (transformation : Transformation) :
    Task.Ensures (Shows raster) (transform transformation)
      fun _ state => ∃ result, transformation.result raster = .ok result ∧ Shows result state := by
  intro state _ final shows ran
  obtain ⟨source, between, found, -⟩ := Task.run_bind_eq_ok.mp ran
  have resulted := transform_eq_ok ran
  rw [← (picture_eq_ok found).1, shows source between found] at resulted
  exact ⟨seen final, resulted, fun _ _ again => (picture_eq_ok again).1⟩

end Vips

end Thumbnailing
