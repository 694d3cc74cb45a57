import Thumbnailing.Proofs.Engine.SaverNotes
import Thumbnailing.Proofs.Engine.Pages

set_option autoImplicit false

namespace Thumbnailing

theorem Binary64.isMultipleOf_truncated {x : Binary64} {base : Nat} {n : Int}
    (integral : x.isMultipleOf base = true) (whole : x.truncate = .ok n) (divisor : Nat) :
    x.isMultipleOf divisor = true ↔ (divisor : Int) ∣ n := by
  cases x with
  | infinite negative => cases integral
  | undefined => cases integral
  | finite negative significand exponent =>
    have filled : 0 < (scaleDown significand 1 (-exponent)).2 := by
      unfold scaleDown
      split
      · simp [powerOfTwo_pos]
      · exact Nat.one_pos
    cases whole
    simp only [isMultipleOf, beq_iff_eq, ← Nat.dvd_iff_mod_eq_zero] at integral ⊢
    obtain ⟨quotient, same⟩ := Nat.dvd_trans (Nat.dvd_mul_right _ base) integral
    rw [same, Nat.mul_dvd_mul_iff_left filled, Nat.mul_div_cancel_left _ filled]
    cases negative <;> simp [signed, Int.natCast_dvd_natCast]

theorem Amount.isMultipleOf_truncated {amount : Amount} {base : Nat} {n : Int}
    (integral : amount.isMultipleOf base = true) (whole : amount.truncate = .ok n) (divisor : Nat) :
    amount.isMultipleOf divisor = true ↔ (divisor : Int) ∣ n := by
  cases amount with
  | whole m =>
    cases whole
    rw [isMultipleOf, beq_iff_eq]
    exact Int.dvd_iff_emod_eq_zero.symm
  | real x => exact x.isMultipleOf_truncated integral whole divisor

theorem Vips.quarters_odd {degrees : Amount} {angle : Int}
    (quarter : degrees.isMultipleOf 90 = true) (turned : quarters degrees = .ok angle) :
    (angle = 90 ∨ angle = 270) ↔ degrees.isMultipleOf 180 = false := by
  obtain ⟨n, whole, same⟩ := Task.ok_of_bind turned
  cases same
  have truncated : degrees.truncate = .ok n := arithmetically_ok.mp whole
  have single := (Amount.isMultipleOf_truncated quarter truncated 90).mp quarter
  have double := Amount.isMultipleOf_truncated quarter truncated 180
  rw [← Bool.not_eq_true, double]
  omega

def Raster.isSideways (raster : Raster) : Bool :=
  (raster.metadata.get? "orientation").any fun orientation => [5, 6, 7, 8].any orientation.isNumber

namespace Primitive

def exchangesSides (raster : Raster) : Primitive → Bool
  | .rotate degrees => degrees.isMultipleOf 90 && !degrees.isMultipleOf 180
  | .autoOrient => raster.isSideways
  | _ => false

/-- A turn by an angle that is no number of quarters, after which the sides are up to the library. -/
def turnsAskew : Primitive → Bool
  | .rotate degrees => !degrees.isMultipleOf 90
  | _ => false

end Primitive

structure Raster.HasSidesOf (exchanged : Bool) (before after : Raster) : Prop where
  width : after.width = if exchanged then before.height else before.width
  height : after.height = if exchanged then before.width else before.height
  page : after.metadata.get? Vips.pageHeightName = before.metadata.get? Vips.pageHeightName

namespace Vips

variable {state after : World × VipsJob}

theorem upright_sides (raster : Raster) :
    raster.HasSidesOf raster.isSideways (Transformation.upright raster) := by
  have page : (raster.metadata.remove "orientation").get? pageHeightName =
      raster.metadata.get? pageHeightName := by
    rw [Entries.get?_remove]
    rfl
  unfold Transformation.upright Raster.isSideways
  cases raster.metadata.get? "orientation" with
  | none => exact ⟨rfl, rfl, page⟩
  | some orientation =>
    simp only [Option.any_some]
    by_cases lies : [5, 6, 7, 8].any orientation.isNumber = true
    · rw [if_pos lies, lies]
      exact ⟨rfl, rfl, page⟩
    · rw [if_neg lies, Bool.eq_false_iff.mpr lies]
      exact ⟨rfl, rfl, page⟩

theorem transform_sides {transformation : Transformation} {result : Raster} {exchanged : Bool}
    (made : transformation.result (seen state) = .ok result)
    (sides : (seen state).HasSidesOf exchanged result)
    (ran : (transform transformation).run state = (.ok (), after)) :
    (seen state).HasSidesOf exchanged (seen after) := by
  cases (transform_eq_ok ran).symm.trans made
  exact sides

theorem replace_eq_ok {task : Task World Picture}
    (ran : (do setPicture (← onWorld task)).run state = (.ok (), after)) :
    ∃ made world, task.run state.1 = (.ok made, world) ∧ seen after = made.raster := by
  obtain ⟨made, later, ready, kept⟩ := Task.run_bind_eq_ok.mp ran
  cases kept
  obtain ⟨world, worked, rfl⟩ := onWorld_eq_ok ready
  exact ⟨made, world, worked, rfl⟩

theorem rotate_sides {degrees : Amount} (quarter : degrees.isMultipleOf 90 = true)
    (ran : (rotate degrees).run state = (.ok (), after)) :
    (seen state).HasSidesOf (!degrees.isMultipleOf 180) (seen after) := by
  obtain ⟨source, between, -, still, ran⟩ := found_eq_ok ran
  rw [if_pos quarter] at ran
  obtain ⟨angle, turned, ran⟩ := ofOutcome_eq_ok ran
  have odd := quarters_odd quarter turned
  rw [← still]
  by_cases none : angle = 0
  · rw [if_neg (by simp [none])] at ran
    cases ran
    have even : degrees.isMultipleOf 180 = true := by simpa [none] using odd
    simpa [even] using ⟨rfl, rfl, rfl⟩
  · rw [if_pos (by simpa using none)] at ran
    refine transform_sides rfl ?_ ran
    cases even : degrees.isMultipleOf 180 with
    | true =>
      rw [if_neg (by simp [odd, even])]
      exact ⟨rfl, rfl, rfl⟩
    | false =>
      rw [if_pos (by simp [odd, even])]
      exact ⟨rfl, rfl, rfl⟩

theorem rotate_askew_page {degrees : Amount} (askew : ¬ degrees.isMultipleOf 90 = true)
    (ran : (rotate degrees).run state = (.ok (), after)) :
    (seen after).metadata.get? pageHeightName = (seen state).metadata.get? pageHeightName := by
  obtain ⟨source, between, -, still, ran⟩ := found_eq_ok ran
  rw [if_neg askew] at ran
  rw [← still, ← Except.ok.inj (transform_eq_ok ran)]

theorem negate_sides (ran : negate.run state = (.ok (), after)) :
    (seen state).HasSidesOf false (seen after) := by
  obtain ⟨source, between, same, still, ran⟩ := alpha_eq_ok ran
  rw [← still]
  split at ran
  · obtain ⟨made, _, worked, held⟩ := replace_eq_ok ran
    obtain ⟨colours, _, first, worked⟩ := Task.run_bind_eq_ok.mp worked
    obtain ⟨inverted, _, second, worked⟩ := Task.run_bind_eq_ok.mp worked
    obtain ⟨transparency, _, third, last⟩ := Task.run_bind_eq_ok.mp worked
    have extracted := Except.ok.inj (Library.transform_eq_ok first).1
    have invertedToo := Except.ok.inj (Library.transform_eq_ok second).1
    have joined := Except.ok.inj (Library.transform_eq_ok last).1
    rw [held, ← joined, ← invertedToo, ← extracted, still, ← same]
    exact ⟨rfl, rfl, rfl⟩
  · exact transform_sides rfl ⟨rfl, rfl, rfl⟩ ran

theorem flatten_sides {background : String}
    (ran : (flatten background).run state = (.ok (), after)) :
    (seen state).HasSidesOf false (seen after) := by
  obtain ⟨source, between, -, still, ran⟩ := alpha_eq_ok ran
  rw [← still]
  split at ran
  · refine transform_sides rfl ?_ ran
    exact ⟨rfl, rfl, rfl⟩
  · cases ran
    exact ⟨rfl, rfl, rfl⟩

theorem apply_sides {name : String} {primitive : Primitive}
    (named : name ∈ primitive.directiveNames)
    (ran : (Vips.apply primitive).run state = (.ok (), after)) :
    (seen after).metadata.get? pageHeightName = (seen state).metadata.get? pageHeightName ∧
      (primitive.turnsAskew = false →
        (seen state).HasSidesOf (primitive.exchangesSides (seen state)) (seen after)) := by
  have sides (kept : (seen state).HasSidesOf (primitive.exchangesSides (seen state)) (seen after)) :
      (seen after).metadata.get? pageHeightName = (seen state).metadata.get? pageHeightName ∧
        (primitive.turnsAskew = false →
          (seen state).HasSidesOf (primitive.exchangesSides (seen state)) (seen after)) :=
    ⟨kept.page, fun _ => kept⟩
  cases primitive with
  | strip | setQuality | interlace =>
    cases ran
    exact sides ⟨rfl, rfl, rfl⟩
  | flip | flop | gaussianBlur | sharpen | setColourSpace =>
    exact sides (transform_sides rfl ⟨rfl, rfl, rfl⟩ ran)
  | autoOrient => exact sides (transform_sides rfl (upright_sides _) ran)
  | flatten => exact sides (flatten_sides ran)
  | negate => exact sides (negate_sides ran)
  | rotate degrees =>
    by_cases quarter : degrees.isMultipleOf 90 = true
    · have kept := rotate_sides quarter ran
      exact sides (by simpa [Primitive.exchangesSides, quarter] using kept)
    · refine ⟨?_, fun straight => absurd straight (by simp [Primitive.turnsAskew, quarter])⟩
      exact rotate_askew_page quarter ran
  | _ => cases named

end Vips

namespace Engine

variable {engine : Engine} {directive : Directive} {world : World} {job : VipsJob}

def exchangesSides (engine : Engine) (directive : Directive) (raster : Raster) : Bool :=
  match engine.request directive with
  | .ok (some primitive) => primitive.exchangesSides raster
  | _ => false

def turnsAskew (engine : Engine) (directive : Directive) : Bool :=
  match engine.request directive with
  | .ok (some primitive) => primitive.turnsAskew
  | _ => false

theorem apply_named_eq_ok {primitive : Primitive} {name : String}
    (named : name ∈ primitive.directiveNames) {after : Session}
    (ran : (engine.apply primitive).run ⟨world, some (.vips job)⟩ = (.ok (), after)) :
    ∃ later, after.job = some (.vips later) ∧
      (Vips.apply primitive).run (world, job) = (.ok (), after.world, later) := by
  have other : primitive ≠ .optimizeFrames := by
    rintro rfl
    cases named
  rw [apply_onJob other, run_onJob_vips, Prod.mk.injEq] at ran
  obtain ⟨done, rfl⟩ := ran
  exact ⟨_, rfl, by rw [← done]⟩

theorem applyDirective_sides (isVips : engine.kind = .vips) {outcome : DirectiveOutcome}
    {after : Session}
    (ran : (engine.applyDirective directive).run ⟨world, some (.vips job)⟩ = (.ok outcome, after)) :
    ∃ later, after.job = some (.vips later) ∧
      (Vips.seen (after.world, later)).metadata.get? Vips.pageHeightName =
        (Vips.seen (world, job)).metadata.get? Vips.pageHeightName ∧
      (engine.turnsAskew directive = false →
        (Vips.seen (world, job)).HasSidesOf
          (engine.exchangesSides directive (Vips.seen (world, job)))
          (Vips.seen (after.world, later))) := by
  rcases engine.applyDirective_cases directive with
    ⟨primitive, records, message, asked, comes⟩ | ⟨records, status, message, asked, -, comes⟩ |
    ⟨failure, -, comes⟩
  · rw [comes, Task.run_bind_of_ok (run_onWorld_logAll records _)] at ran
    obtain ⟨_, between, applied, last⟩ := Task.run_bind_eq_ok.mp ran
    cases last
    have named := request_named isVips asked
    obtain ⟨later, still, worked⟩ := apply_named_eq_ok named applied
    obtain ⟨page, sides⟩ := Vips.apply_sides named worked
    refine ⟨later, still, page, fun straight => ?_⟩
    simp only [turnsAskew, exchangesSides, asked] at straight ⊢
    exact sides straight
  · rw [comes, Task.run_bind_of_ok (run_onWorld_logAll records _)] at ran
    cases ran
    refine ⟨job, rfl, rfl, fun _ => ?_⟩
    simp only [exchangesSides, asked]
    exact ⟨rfl, rfl, rfl⟩
  · rw [comes] at ran
    cases ran

/-- A directive leaves a strip with as many pages as before exactly if it leaves its height. That it
does, unless it turns the strip on the side, or askew, after which the library decides. -/
theorem applyDirective_isStrip_iff (isVips : engine.kind = .vips) {pages page : Int}
    (strip : (Vips.seen (world, job)).IsStrip pages page) {outcome : DirectiveOutcome}
    {after : Session}
    (ran : (engine.applyDirective directive).run ⟨world, some (.vips job)⟩ = (.ok outcome, after)) :
    ∃ later, after.job = some (.vips later) ∧
      ((∃ height, (Vips.seen (after.world, later)).IsStrip pages height) ↔
        (Vips.seen (after.world, later)).height = (Vips.seen (world, job)).height) ∧
      (engine.turnsAskew directive = false →
        (Vips.seen (after.world, later)).height =
          if engine.exchangesSides directive (Vips.seen (world, job)) then
            (Vips.seen (world, job)).width
          else (Vips.seen (world, job)).height) := by
  obtain ⟨later, still, same, sides⟩ := applyDirective_sides isVips ran
  refine ⟨later, still, ?_, fun straight => (sides straight).height⟩
  have recorded := same.trans strip.recorded
  constructor
  · rintro ⟨height, kept⟩
    cases recorded.symm.trans kept.recorded
    rw [kept.height, strip.height]
  · intro high
    exact ⟨page, strip.several, strip.filled, recorded, high.trans strip.height⟩

def stripSession (width height page : Int) : Session :=
  ⟨(Vips.holding (Vips.strip width height page)).1,
    some (.vips (Vips.holding (Vips.strip width height page)).2)⟩

theorem flipped_pages_kept :
    ∃ outcome after later height,
      (libvips.applyDirective (.ofFlag "-flip" [])).run (stripSession 4 6 3) = (.ok outcome, after) ∧
      after.job = some (.vips later) ∧ (Vips.seen (after.world, later)).IsStrip 2 height := by
  have isStrip : (Vips.seen (Vips.holding (Vips.strip 4 6 3))).IsStrip 2 3 :=
    ⟨by decide, by decide, rfl, by decide⟩
  have succeeds : ((libvips.applyDirective (.ofFlag "-flip" [])).run (stripSession 4 6 3)).1.isOk =
      true := by decide +kernel
  rcases ran : (libvips.applyDirective (.ofFlag "-flip" [])).run (stripSession 4 6 3) with
    ⟨outcome, after⟩
  rw [ran] at succeeds
  cases outcome with
  | error failure => cases succeeds
  | ok outcome =>
    obtain ⟨later, still, kept, high⟩ := applyDirective_isStrip_iff rfl isStrip ran
    obtain ⟨height, same⟩ := kept.mpr (high (by decide +kernel))
    exact ⟨outcome, after, later, height, rfl, still, same⟩

theorem turned_pages_torn :
    (Vips.seen (Vips.holding (Vips.strip 4 6 3))).IsStrip 2 3 ∧
    ∃ outcome after later,
      (libvips.applyDirective (.ofFlag "-rotate" ["90"])).run (stripSession 4 6 3) =
        (.ok outcome, after) ∧ outcome.isApplied = true ∧ after.job = some (.vips later) ∧
      ¬ ∃ height, (Vips.seen (after.world, later)).IsStrip 2 height := by
  refine ⟨⟨by decide, by decide, rfl, by decide⟩, _, _, _, rfl, rfl, rfl, ?_⟩
  rintro ⟨height, torn⟩
  have recorded : some (Value.integer 3) = some (.integer height) := torn.recorded
  have rows : (4 : Int) = 2 * height := torn.height
  cases recorded
  exact absurd rows (by decide)

def turningNames : List String := ["rotate", "auto_orient"]

theorem straight_of_key (isVips : engine.kind = .vips) (other : directive.key ∉ turningNames)
    (raster : Raster) :
    engine.turnsAskew directive = false ∧ engine.exchangesSides directive raster = false := by
  unfold turnsAskew exchangesSides
  split
  · rename_i primitive asked
    have named := request_named isVips asked
    cases primitive with
    | rotate | autoOrient =>
      simp only [Primitive.directiveNames, List.mem_singleton] at named
      exact absurd other (by simp [named, turningNames])
    | _ => exact ⟨rfl, rfl⟩
  · exact ⟨rfl, rfl⟩

theorem applyDirectives_isStrip (isVips : engine.kind = .vips) {directives : List Directive}
    (straight : ∀ directive ∈ directives, directive.key ∉ turningNames) {pages page : Int}
    (strip : (Vips.seen (world, job)).IsStrip pages page) {outcomes : List DirectiveOutcome}
    {after : Session}
    (ran : (Task.forAll engine.applyDirective directives).run ⟨world, some (.vips job)⟩ =
      (.ok outcomes, after)) :
    ∃ later, after.job = some (.vips later) ∧
      (Vips.seen (after.world, later)).IsStrip pages page := by
  induction directives generalizing world job outcomes with
  | nil =>
    cases ran
    exact ⟨job, rfl, strip⟩
  | cons directive rest ih =>
    rw [List.forall_mem_cons] at straight
    obtain ⟨outcome, ⟨between, still⟩, first, ran⟩ := Task.run_bind_eq_ok.mp ran
    obtain ⟨others, _, ran, last⟩ := Task.run_bind_eq_ok.mp ran
    cases last
    obtain ⟨later, held, same, sides⟩ := applyDirective_sides isVips first
    obtain ⟨level, upright⟩ := straight_of_key isVips straight.1 (Vips.seen (world, job))
    have high := (sides level).height
    rw [upright] at high
    cases held
    exact ih straight.2
      ⟨strip.several, strip.filled, same.trans strip.recorded, high.trans strip.height⟩ ran

end Engine

end Thumbnailing
