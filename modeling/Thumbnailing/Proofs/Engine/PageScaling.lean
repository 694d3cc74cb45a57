import Thumbnailing.Proofs.Engine.PageCuts

set_option autoImplicit false

namespace Thumbnailing

/-- The ways to resize; a box that is to be filled has positive sides. -/
inductive Primitive.Resizes : Primitive → Prop
  | fit (width height : Option Int) : Resizes (.resizeToFit width height)
  | limit (width height : Option Int) : Resizes (.resizeToLimit width height)
  | exact (width height : Option Int) : Resizes (.resizeExact width height)
  | scale (xScale yScale : Option Amount) : Resizes (.scale xScale yScale)
  | fill {width height : Int} (wide : 1 ≤ width) (high : 1 ≤ height) (crop : String) :
    Resizes (.resizeToFill (some width) (some height) crop)

namespace Vips

/-- The strip is scaled to the height that its pages are scaled to, times their number. -/
def KeepsPages (pages page : Int) (scale : Amount) : Prop :=
  ∃ height, scaledPage page scale = .ok height ∧
    Transformation.scaledSide (pages * page) scale = .ok (pages * height)

def fitFactor (raster : Raster) (page : Int) (target : Option Int × Option Int) (rule : SizeRule) :
    Outcome (Option Amount) :=
  (pageScale ⟨0, raster⟩ page target rule).map fun factor =>
    if factor != Transformation.one then some (.real factor) else none

def fillFactor (raster : Raster) (page : Int) (width height : Option Int) : Outcome Binary64 := do
  let horizontal ← ratio width raster.width
  let vertical ← ratio height page
  return horizontal.larger vertical

def pageFactor (raster : Raster) (page : Int) : Primitive → Outcome (Option Amount)
  | .resizeToFit width height => fitFactor raster page (width, height) .both
  | .resizeToLimit width height => fitFactor raster page (width, height) .down
  | .resizeExact _ height => (ratio height page).map fun factor => some (.real factor)
  | .resizeToFill width height _ =>
    (fillFactor raster page width height).map fun factor => some (.real factor)
  | .scale _ yScale => .ok yScale
  | _ => .ok none

variable {state after : World × VipsJob} {pages page : Int}

theorem scaledPage_pos {height : Int} {scale : Amount} (scaled : scaledPage page scale = .ok height) :
    0 < height := by
  obtain ⟨_, -, rest⟩ := Task.ok_of_bind scaled
  obtain ⟨_, -, same⟩ := Task.ok_of_bind rest
  cases same
  omega

theorem scale_isStrip_iff (strip : (seen state).IsStrip pages page) {xScale yScale : Amount}
    (ran : (scale xScale yScale).run state = (.ok (), after)) :
    (∃ height, (seen after).IsStrip pages height) ↔ KeepsPages pages page yScale := by
  obtain ⟨measured, below⟩ := pageHeightOf_strip strip
  obtain ⟨picture, width, height, rounded, held, -, high, paged, result⟩ :=
    scale_eq_ok measured (Int.ne_of_lt below) ran
  rw [strip.height] at high
  rw [seen_of_held held, result]
  constructor
  · rintro ⟨other, scaled⟩
    have same := (Raster.withPages_recorded _ rounded).symm.trans scaled.recorded
    cases same
    have whole : height = pages * rounded := scaled.height
    exact ⟨rounded, paged, by rw [high, whole]⟩
  · rintro ⟨other, pagedToo, whole⟩
    cases paged.symm.trans pagedToo
    cases high.symm.trans whole
    exact ⟨rounded, strip.several, scaledPage_pos paged, Raster.withPages_recorded _ rounded, rfl⟩

theorem fitBox_isStrip_iff (strip : (seen state).IsStrip pages page) {width height : Option Int}
    {rule : SizeRule} (ran : (fitBox width height rule).run state = (.ok (), after)) :
    ∃ factor, fitFactor (seen state) page (width, height) rule = .ok factor ∧
      ((∃ height, (seen after).IsStrip pages height) ↔
        ∀ scale ∈ factor, KeepsPages pages page scale) := by
  obtain ⟨measured, below⟩ := pageHeightOf_strip strip
  obtain ⟨source, between, same, still, ran⟩ := measured_eq_ok measured ran
  rw [← same] at below
  rw [if_neg (show ¬ page = source.height from Int.ne_of_lt below)] at ran
  obtain ⟨factor, scaled, ran⟩ := ofOutcome_eq_ok ran
  rw [← still] at strip
  have own : fitFactor (seen state) page (width, height) rule =
      .ok (if factor != Transformation.one then some (.real factor) else none) := by
    rw [← same]
    exact congrArg (Except.map _) scaled
  refine ⟨_, own, ?_⟩
  split at ran
  · rename_i other
    simpa [other] using scale_isStrip_iff strip ran
  · rename_i whole
    cases ran
    simpa [whole] using ⟨page, strip⟩

theorem resizeExact_isStrip_iff (strip : (seen state).IsStrip pages page)
    {width height : Option Int} (ran : (resizeExact width height).run state = (.ok (), after)) :
    ∃ factor, ratio height page = .ok factor ∧
      ((∃ height, (seen after).IsStrip pages height) ↔ KeepsPages pages page (.real factor)) := by
  obtain ⟨measured, -⟩ := pageHeightOf_strip strip
  obtain ⟨source, between, same, still, ran⟩ := found_eq_ok ran
  obtain ⟨xScale, -, ran⟩ := ofOutcome_eq_ok ran
  rw [← same] at measured
  obtain ⟨methods, ran⟩ := page_eq_ok measured ran
  obtain ⟨yScale, high, ran⟩ := ofOutcome_eq_ok ran
  have found : seen (between.1.asking methods, between.2) = seen state := still
  exact ⟨yScale, high, scale_isStrip_iff (found ▸ strip) ran⟩

theorem cutPages_isStrip_iff {scaled : Picture} {width height recorded : Int} (wide : 1 ≤ width)
    (high : 1 ≤ height) (several : 2 ≤ pages) (holds : HoldsPages state scaled page)
    (marked : scaled.metadata? pageHeightName = some (.integer recorded))
    (ran : (cutPages width height).run state = (.ok (), after)) :
    (∃ height, (seen after).IsStrip pages height) ↔
      ∃ height, scaled.raster.IsStrip pages height := by
  have upright := holds.upright
  have proper := pageBoxes_cutsPages wide high holds.across upright holds.measured
  have whole := proper.perPage
  obtain ⟨filled, -⟩ := pages_fill upright holds.measured
  obtain ⟨_, _, _, joined, -, -, -, held, -, joinedPage, joinedHeight⟩ :=
    cutPages_eq_ok holds (pageCuts_eq scaled page width height) proper ran
  rw [seen_of_held held]
  generalize (pageBoxes scaled.raster page width height).length = count at whole joinedHeight
  constructor
  · rintro ⟨other, strip⟩
    cases joinedPage.symm.trans strip.recorded
    have same : (count : Int) = pages :=
      Int.eq_of_mul_eq_mul_right (Int.ne_of_gt strip.filled)
        (joinedHeight.symm.trans strip.height)
    rw [same] at whole
    have measured := holds.measured.symm.trans (pageHeightOf_recorded marked)
    split at measured
    · cases measured
      exact ⟨page, several, filled, marked, whole.symm⟩
    · -- Pages as high as the whole strip are no more than one.
      have alone : page = scaled.raster.height := Except.ok.inj measured
      rw [← alone] at whole
      have twice := Int.mul_le_mul_of_nonneg_right several (Int.le_of_lt filled)
      omega
  · rintro ⟨other, strip⟩
    cases holds.measured.symm.trans (pageHeightOf_strip strip).1
    have same : (count : Int) = pages :=
      Int.eq_of_mul_eq_mul_right (Int.ne_of_gt filled) (whole.trans strip.height)
    exact ⟨min height page, several, by omega, joinedPage, by rw [← same]; exact joinedHeight⟩

theorem fillBox_isStrip_iff (strip : (seen state).IsStrip pages page) {width height : Int}
    (wide : 1 ≤ width) (high : 1 ≤ height) {crop : String}
    (ran : (fillBox (some width) (some height) crop).run state = (.ok (), after)) :
    ∃ factor, fillFactor (seen state) page (some width) (some height) = .ok factor ∧
      ((∃ height, (seen after).IsStrip pages height) ↔ KeepsPages pages page (.real factor)) := by
  obtain ⟨measured, below⟩ := pageHeightOf_strip strip
  rw [run_fillBox_pages crop measured (Int.ne_of_lt below)] at ran
  obtain ⟨_, covered, first, ran⟩ := Task.run_bind_eq_ok.mp ran
  obtain ⟨between, horizontal, vertical, still, across, down, scales⟩ := cover_eq_ok measured first
  rw [← still] at measured below strip
  obtain ⟨scaled, _, _, holds, marked⟩ := scale_holdsPages measured (Int.ne_of_lt below) scales
  refine ⟨horizontal.larger vertical, by rw [fillFactor, across, down]; rfl, ?_⟩
  rw [cutPages_isStrip_iff wide high strip.several holds marked ran, ← seen_of_held holds.held]
  exact scale_isStrip_iff strip scales

/-- A strip that is resized has as many pages as before exactly if its height and the height of a page,
which are rounded apart, have stayed in step. -/
theorem resize_isStrip_iff {primitive : Primitive} (resizes : primitive.Resizes)
    (strip : (seen state).IsStrip pages page)
    (ran : (Vips.apply primitive).run state = (.ok (), after)) :
    ∃ factor, pageFactor (seen state) page primitive = .ok factor ∧
      ((∃ height, (seen after).IsStrip pages height) ↔
        ∀ scale ∈ factor, KeepsPages pages page scale) := by
  cases resizes with
  | fit width height => exact fitBox_isStrip_iff strip ran
  | limit width height => exact fitBox_isStrip_iff strip ran
  | exact width height =>
    obtain ⟨factor, high, kept⟩ := resizeExact_isStrip_iff strip ran
    exact ⟨some (.real factor), by simp [pageFactor, high, Except.map], by simpa using kept⟩
  | fill wide high crop =>
    obtain ⟨factor, covers, kept⟩ := fillBox_isStrip_iff strip wide high ran
    exact ⟨some (.real factor), by simp [pageFactor, covers, Except.map], by simpa using kept⟩
  | scale xScale yScale =>
    cases xScale with
    | none =>
      obtain ⟨_, _, _, fails⟩ := Task.run_bind_eq_ok.mp ran
      cases fails
    | some x =>
      cases yScale with
      | none =>
        obtain ⟨_, _, _, fails⟩ := Task.run_bind_eq_ok.mp ran
        cases fails
      | some y => exact ⟨some y, rfl, by simpa using scale_isStrip_iff strip ran⟩

theorem even_pages_kept :
    ∃ after height,
      (Vips.apply (.resizeToLimit (some 5) none)).run (holding (strip 10 32 16)) = (.ok (), after) ∧
      (seen after).IsStrip 2 height := by
  have isStrip : (seen (holding (strip 10 32 16))).IsStrip 2 16 :=
    ⟨by decide, by decide, rfl, by decide⟩
  have succeeds : ((Vips.apply (.resizeToLimit (some 5) none)).run
      (holding (strip 10 32 16))).1.isOk = true := by decide +kernel
  rcases ran : (Vips.apply (.resizeToLimit (some 5) none)).run (holding (strip 10 32 16)) with
    ⟨outcome, after⟩
  rw [ran] at succeeds
  cases outcome with
  | error failure => cases succeeds
  | ok =>
    obtain ⟨factor, found, kept⟩ := resize_isStrip_iff (.limit (some 5) none) isStrip ran
    have half : pageFactor (seen (holding (strip 10 32 16))) 16 (.resizeToLimit (some 5) none) =
        .ok (some (.real .half)) := by rfl
    cases half.symm.trans found
    have inStep : KeepsPages 2 16 (.real .half) := ⟨8, by rfl, by rfl⟩
    obtain ⟨height, same⟩ := kept.mpr (by simpa using inStep)
    exact ⟨after, height, rfl, same⟩

theorem odd_pages_torn :
    (seen (holding (strip 10 30 15))).IsStrip 2 15 ∧
    ∃ after, (Vips.apply (.resizeToLimit (some 5) none)).run (holding (strip 10 30 15)) =
        (.ok (), after) ∧ ¬ ∃ height, (seen after).IsStrip 2 height := by
  have isStrip : (seen (holding (strip 10 30 15))).IsStrip 2 15 :=
    ⟨by decide, by decide, rfl, by decide⟩
  refine ⟨isStrip, _, rfl, ?_⟩
  rintro ⟨height, torn⟩
  have recorded : some (Value.integer 8) = some (.integer height) := torn.recorded
  have rows : (15 : Int) = 2 * height := torn.height
  cases recorded
  exact absurd rows (by decide)

end Vips

end Thumbnailing
