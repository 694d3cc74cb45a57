import Thumbnailing.Engine.Vips
import Thumbnailing.Proofs.Entries
import Thumbnailing.Proofs.World.Library
import Thumbnailing.Proofs.World.Plain

set_option autoImplicit false

namespace Thumbnailing

/-- Several pages of one height, which the metadata hold. -/
structure Raster.IsStrip (raster : Raster) (pages page : Int) : Prop where
  several : 2 ≤ pages
  filled : 0 < page
  recorded : raster.metadata.get? Vips.pageHeightName = some (.integer page)
  height : raster.height = pages * page

def Raster.withPages (raster : Raster) (page : Int) : Raster :=
  { raster with metadata := raster.metadata.put Vips.pageHeightName (.integer page) }

theorem Raster.withPages_recorded (raster : Raster) (page : Int) :
    (raster.withPages page).metadata.get? Vips.pageHeightName = some (.integer page) := by
  simp [withPages, Entries.get?_put]

namespace Vips

def pageHeightOf (raster : Raster) : Outcome Int := pageHeight ⟨0, raster⟩

theorem pageHeightOf_recorded {raster : Raster} {page : Int}
    (recorded : raster.metadata.get? pageHeightName = some (.integer page)) :
    pageHeightOf raster = .ok (if 0 < page ∧ page < raster.height ∧ raster.height % page = 0 then
      page else raster.height) := by
  simp only [pageHeightOf, pageHeight, Picture.metadata?, recorded]
  rfl

theorem pageHeightOf_cases {raster : Raster} {page : Int}
    (measured : pageHeightOf raster = .ok page) :
    page = raster.height ∨ (0 < page ∧ page < raster.height ∧ raster.height % page = 0) := by
  unfold pageHeightOf pageHeight pageHeightFrom at measured
  split at measured
  · cases measured
    exact .inl rfl
  · obtain ⟨height, -, same⟩ := Task.ok_of_bind measured
    cases same
    split
    · rename_i whole
      exact .inr whole
    · exact .inl rfl

theorem pageHeightOf_strip {raster : Raster} {pages page : Int} (strip : raster.IsStrip pages page) :
    pageHeightOf raster = .ok page ∧ page < raster.height := by
  have below : page < raster.height := by
    have filled := strip.filled
    have twice := Int.mul_le_mul_of_nonneg_right strip.several (Int.le_of_lt filled)
    rw [strip.height]
    omega
  have whole : raster.height % page = 0 := by simp [strip.height]
  rw [pageHeightOf_recorded strip.recorded, if_pos ⟨strip.filled, below, whole⟩]
  exact ⟨rfl, below⟩

/-- The picture that the next step works on: the one held, or the one that is opened for it. -/
def seen (state : World × VipsJob) : Raster :=
  match state.2.picture with
  | some picture => picture.raster
  | none => Library.opened state.1.machine state.2.loaderOptions

variable {Result Other : Type} {state after : World × VipsJob}

theorem seen_of_held {picture : Picture} (held : state.2.picture = some picture) :
    seen state = picture.raster := by
  simp [seen, held]

theorem onWorld_eq_ok {task : Task World Result} {result : Result}
    (ran : (onWorld task).run state = (.ok result, after)) :
    ∃ world, task.run state.1 = (.ok result, world) ∧ after = (world, state.2) := by
  rcases worked : task.run state.1 with ⟨outcome, world⟩
  simp only [onWorld, Task.run_onPart, worked, Prod.mk.injEq] at ran
  exact ⟨world, by rw [ran.1], ran.2.symm⟩

theorem ofOutcome_eq_ok {outcome : Outcome Result} {next : Result → JobTask Other} {result : Other}
    (ran : (Task.ofOutcome outcome >>= next).run state = (.ok result, after)) :
    ∃ found, outcome = .ok found ∧ (next found).run state = (.ok result, after) := by
  obtain ⟨found, between, same, ran⟩ := Task.run_bind_eq_ok.mp ran
  simp only [Task.run_ofOutcome, Prod.mk.injEq] at same
  obtain ⟨rfl, rfl⟩ := same
  exact ⟨found, rfl, ran⟩

theorem picture_eq_ok {found : Picture} (ran : picture.run state = (.ok found, after)) :
    found.raster = seen state ∧ after.2.picture = some found := by
  obtain ⟨world, source, options, kept, saverOptions, format⟩ := state
  obtain ⟨_, _, current, ran⟩ := Task.run_bind_eq_ok.mp ran
  cases current
  cases kept with
  | some held =>
    cases ran
    exact ⟨rfl, rfl⟩
  | none =>
    obtain ⟨made, between, opened, kept⟩ := Task.run_bind_eq_ok.mp ran
    cases kept
    obtain ⟨_, worked, rfl⟩ := onWorld_eq_ok opened
    obtain ⟨_, ready, loaded, opens⟩ := Task.run_bind_eq_ok.mp worked
    obtain ⟨-, rfl, -⟩ := Library.openPicture_eq_ok.mp opens
    rw [Library.load_eq_ok loaded]
    exact ⟨rfl, rfl⟩

theorem found_eq_ok {next : Picture → JobTask Result} {result : Result}
    (ran : (picture >>= next).run state = (.ok result, after)) :
    ∃ source between, source.raster = seen state ∧ seen between = seen state ∧
      (next source).run between = (.ok result, after) := by
  obtain ⟨source, between, found, ran⟩ := Task.run_bind_eq_ok.mp ran
  obtain ⟨same, held⟩ := picture_eq_ok found
  exact ⟨source, between, same, (seen_of_held held).trans same, ran⟩

theorem measuredPage_eq_ok {picture : Picture} {page : Int}
    (ran : (measuredPage picture).run state = (.ok page, after)) :
    pageHeight picture = .ok page ∧ ∃ methods, after = (state.1.asking methods, state.2) := by
  obtain ⟨recorded, between, looked, ran⟩ := Task.run_bind_eq_ok.mp ran
  obtain ⟨_, worked, rfl⟩ := onWorld_eq_ok looked
  obtain ⟨rfl, methods, rfl⟩ := Library.metadata_eq_ok worked
  rw [Task.run_ofOutcome, Prod.mk.injEq] at ran
  exact ⟨ran.1, methods, ran.2.symm⟩

theorem page_eq_ok {picture : Picture} {next : Int → JobTask Result} {result : Result} {page : Int}
    (measured : pageHeight picture = .ok page)
    (ran : (measuredPage picture >>= next).run state = (.ok result, after)) :
    ∃ methods, (next page).run (state.1.asking methods, state.2) = (.ok result, after) := by
  obtain ⟨_, between, looked, ran⟩ := Task.run_bind_eq_ok.mp ran
  obtain ⟨again, methods, rfl⟩ := measuredPage_eq_ok looked
  cases measured.symm.trans again
  exact ⟨methods, ran⟩

theorem measured_eq_ok {next : Picture → Int → JobTask Result} {result : Result} {page : Int}
    (measured : pageHeightOf (seen state) = .ok page)
    (ran : (do
      let source ← picture
      let height ← measuredPage source
      next source height).run state = (.ok result, after)) :
    ∃ source between, source.raster = seen state ∧ seen between = seen state ∧
      (next source page).run between = (.ok result, after) := by
  obtain ⟨source, between, same, still, ran⟩ := found_eq_ok ran
  rw [← same] at measured
  obtain ⟨methods, ran⟩ := page_eq_ok measured ran
  exact ⟨source, (between.1.asking methods, between.2), same, still, ran⟩

theorem alpha_eq_ok {next : Picture → Bool → JobTask Result} {result : Result}
    (ran : (do
      let source ← picture
      let transparent ← onWorld (Library.hasAlpha source)
      next source transparent).run state = (.ok result, after)) :
    ∃ source between, source.raster = seen state ∧ seen between = seen state ∧
      (next source source.raster.hasAlpha).run between = (.ok result, after) := by
  obtain ⟨source, between, same, still, ran⟩ := found_eq_ok ran
  obtain ⟨_, _, asked, ran⟩ := Task.run_bind_eq_ok.mp ran
  obtain ⟨_, worked, rfl⟩ := onWorld_eq_ok asked
  obtain ⟨rfl, rfl⟩ := Library.hasAlpha_eq_ok worked
  exact ⟨source, (between.1.asking ["hasalpha"], between.2), same, still, ran⟩

theorem run_picture_of_held {picture : Picture} (held : state.2.picture = some picture) :
    Vips.picture.run state = (.ok picture, state) := by
  obtain ⟨world, source, options, _, saverOptions, format⟩ := state
  obtain rfl := held
  rfl

theorem transform_eq_ok {transformation : Transformation}
    (ran : (transform transformation).run state = (.ok (), after)) :
    transformation.result (seen state) = .ok (seen after) := by
  obtain ⟨source, between, found, ran⟩ := Task.run_bind_eq_ok.mp ran
  obtain ⟨made, later, transformed, kept⟩ := Task.run_bind_eq_ok.mp ran
  cases kept
  obtain ⟨_, worked, rfl⟩ := onWorld_eq_ok transformed
  rw [← (picture_eq_ok found).1]
  exact (Library.transform_eq_ok worked).1

theorem withPageHeight_eq_ok {source marked : Picture} {page : Int} {world world' : World}
    (ran : (withPageHeight source page).run world = (.ok marked, world')) :
    marked.raster = source.raster.withPages page := by
  obtain ⟨copy, between, copied, ran⟩ := Task.run_bind_eq_ok.mp ran
  obtain ⟨rfl, -⟩ := Library.setMetadata_eq_ok ran
  have same := (Library.transform_eq_ok copied).1
  rw [Transformation.result_copy] at same
  simp only [Picture.putMetadata, Raster.withPages, Except.ok.inj same]

def strip (width height page : Int) : Picture :=
  ⟨0, ⟨width, height, 3, false, [(pageHeightName, .integer page)]⟩⟩

def holding (picture : Picture) : World × VipsJob := (.plain, ⟨none, [], some picture, [], none⟩)

def scaledPage (page : Int) (scale : Amount) : Except ArithmeticFault Int := do
  return max 1 (← (← scale.times page).roundEven)

theorem arithmetically_ok {outcome : Except ArithmeticFault Result} {result : Result} :
    arithmetically outcome = .ok result ↔ outcome = .ok result := by
  cases outcome with
  | error fault => exact ⟨nofun, nofun⟩
  | ok found =>
    constructor <;> intro same <;> cases same <;> rfl

theorem scaled_eq_ok {raster result : Raster} {xScale yScale : Amount}
    (scaled : Transformation.scaled raster xScale yScale = .ok result) :
    ∃ width height, Transformation.scaledSide raster.width xScale = .ok width ∧
      Transformation.scaledSide raster.height yScale = .ok height ∧
      result = raster.resized width height := by
  obtain ⟨width, wide, rest⟩ := Task.ok_of_bind scaled
  obtain ⟨height, high, same⟩ := Task.ok_of_bind rest
  cases same
  exact ⟨width, height, wide, high, rfl⟩

theorem scaledSide_pos {side length : Int} {scale : Amount}
    (scaled : Transformation.scaledSide side scale = .ok length) : 0 < length := by
  obtain ⟨_, -, rest⟩ := Task.ok_of_bind scaled
  obtain ⟨_, -, rest⟩ := Task.ok_of_bind rest
  obtain ⟨_, -, rest⟩ := Task.ok_of_bind rest
  cases rest
  omega

theorem scale_eq_ok {xScale yScale : Amount} {page : Int}
    (measured : pageHeightOf (seen state) = .ok page) (several : page ≠ (seen state).height)
    (ran : (scale xScale yScale).run state = (.ok (), after)) :
    ∃ picture width height rounded, after.2.picture = some picture ∧
      Transformation.scaledSide (seen state).width xScale = .ok width ∧
      Transformation.scaledSide (seen state).height yScale = .ok height ∧
      scaledPage page yScale = .ok rounded ∧
      picture.raster = ((seen state).resized width height).withPages rounded := by
  obtain ⟨source, between, same, -, ran⟩ := measured_eq_ok measured ran
  rw [← same] at several ⊢
  obtain ⟨resized, later, transformed, ran⟩ := Task.run_bind_eq_ok.mp ran
  obtain ⟨_, worked, rfl⟩ := onWorld_eq_ok transformed
  obtain ⟨resulted, -, -⟩ := Library.transform_eq_ok worked
  obtain ⟨width, height, wide, high, result⟩ := scaled_eq_ok (arithmetically_ok.mp resulted)
  rw [if_neg (show ¬ page = source.height from several)] at ran
  obtain ⟨scaled, rounded, ran⟩ := ofOutcome_eq_ok ran
  obtain ⟨marked, last, wrote, kept⟩ := Task.run_bind_eq_ok.mp ran
  cases kept
  obtain ⟨_, set, rfl⟩ := onWorld_eq_ok wrote
  refine ⟨marked, width, height, max 1 scaled, rfl, wide, high, ?_, ?_⟩
  · obtain ⟨product, times, nearest⟩ := Task.ok_of_bind (arithmetically_ok.mp rounded)
    simp only [scaledPage, times]
    exact congrArg (Except.map (max 1)) nearest
  · rw [withPageHeight_eq_ok set, result]

end Vips

end Thumbnailing
