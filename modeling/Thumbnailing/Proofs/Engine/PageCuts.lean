import Thumbnailing.Proofs.Engine.PageBoxes
import Thumbnailing.Proofs.World.Blame

set_option autoImplicit false

namespace Thumbnailing

def Call.crop? : Call → Option (Box × Nat)
  | .transform (.cut left top width height) number _ => some (⟨left, top, width, height⟩, number)
  | _ => none

namespace World

def Crops (crops : List (Box × Nat)) (before after : World) : Prop :=
  ∃ issued, after.calls = before.calls ++ issued ∧ issued.filterMap Call.crop? = crops

namespace Crops

variable {Result : Type} {crops others : List (Box × Nat)} {before between after : World}

theorem append (first : before.Crops crops between) (rest : between.Crops others after) :
    before.Crops (crops ++ others) after := by
  obtain ⟨issued, called, rfl⟩ := first
  obtain ⟨later, calledLater, rfl⟩ := rest
  exact ⟨issued ++ later, by rw [calledLater, called, List.append_assoc], List.filterMap_append⟩

theorem history : Task.IsHistory (Crops []) where
  refl _ := ⟨[], by simp⟩
  trans first rest := first.append rest

theorem of_call {call : Call} (called : after.calls = before.calls ++ [call]) :
    before.Crops call.crop?.toList after := by
  refine ⟨[call], called, ?_⟩
  cases found : call.crop? <;> simp [found]

theorem indifferent : Library.IsIndifferent (Crops []) where
  toIsHistory := history
  loads _ := ⟨[], by simp⟩
  asks _ _ := ⟨[], by simp⟩
  counts _ _ := ⟨[], by simp⟩

theorem recordCall {call : Call} (other : call.crop? = none) :
    Task.Keeps (Crops []) (recordCall call) := by
  intro world
  have called : world.Crops call.crop?.toList (world.record call) := of_call rfl
  rwa [other] at called

theorem transform {transformation : Transformation} {picture : Picture}
    (other : ∀ result, (Call.transform transformation picture.number result).crop? = none) :
    Task.Keeps (Crops []) (Library.transform transformation picture) :=
  indifferent.transform fun result => recordCall (other result)

theorem withPageHeight (picture : Picture) (height : Int) :
    Task.Keeps (Crops []) (Vips.withPageHeight picture height) :=
  .bind history (transform fun _ => rfl) fun _ => indifferent.setMetadata (recordCall rfl)

end Crops

end World

/-- A run that cuts these boxes out, in this order and no others, or the first few of them if it
fails. -/
def CutsOut {State Result : Type} (crops : List (Box × Nat)) (world : State → World)
    (task : Task State Result) (state : State) : Prop :=
  ∃ cut, cut <+: crops ∧ (world state).Crops cut (world (task.run state).2) ∧
    ∀ result, (task.run state).1 = .ok result → cut = crops

namespace CutsOut

variable {State Result Other : Type} {crops others : List (Box × Nat)} {world : State → World}
  {state : State}

theorem of_quiet {task : Task State Result}
    (quiet : Task.Keeps (fun before after => (world before).Crops [] (world after)) task)
    (state : State) : CutsOut [] world task state :=
  ⟨[], List.nil_prefix, quiet state, fun _ _ => rfl⟩

theorem bind {task : Task State Result} {next : Result → Task State Other}
    (first : CutsOut crops world task state)
    (rest : ∀ result between, task.run state = (.ok result, between) →
      CutsOut others world (next result) between) :
    CutsOut (crops ++ others) world (task >>= next) state := by
  obtain ⟨cut, early, made, whole⟩ := first
  rw [CutsOut, Task.run_bind]
  rcases ran : task.run state with ⟨failure | result, between⟩
  · rw [ran] at made
    exact ⟨cut, early.trans (List.prefix_append _ _), made, fun _ failed => by cases failed⟩
  · rw [ran] at made whole
    obtain rfl := whole result rfl
    obtain ⟨later, behind, madeLater, wholeLater⟩ := rest result between ran
    refine ⟨cut ++ later, (List.prefix_append_right_inj cut).mpr behind, made.append madeLater, ?_⟩
    intro last ended
    rw [wholeLater last ended]

theorem quietly {task : Task State Result} {next : Result → Task State Other}
    (first : CutsOut crops world task state)
    (rest : ∀ result, Task.Keeps (fun before after => (world before).Crops [] (world after))
      (next result)) : CutsOut crops world (task >>= next) state := by
  simpa using first.bind fun result between _ => of_quiet (rest result) between

theorem cut {source : Picture} {box : Box} (inside : box.IsInside source.raster) (world : World) :
    CutsOut [(box, source.number)] id (Library.transform box.cut source) world := by
  have known : (Task.ofOutcome (box.cut.result source.raster)).run world =
      (.ok (source.raster.resized box.width box.height), world) := by
    rw [Box.cut_result inside]
    rfl
  obtain ⟨result, called⟩ := Library.produce_calls (.transform box.cut source.number)
    (source.raster.resized box.width box.height) world
  refine ⟨_, List.prefix_rfl, ?_, fun _ _ => rfl⟩
  rw [Library.transform, Task.run_bind_of_ok known]
  exact World.Crops.of_call called

theorem cuts {source : Picture} {boxes : List Box}
    (inside : ∀ box ∈ boxes, box.IsInside source.raster) (world : World) :
    CutsOut (boxes.map fun box => (box, source.number)) id
      (Task.forAll (fun cut => Library.transform cut source) (boxes.map Box.cut)) world := by
  induction boxes generalizing world with
  | nil => exact of_quiet (.succeed World.Crops.history []) world
  | cons box rest ih =>
    rw [List.forall_mem_cons] at inside
    exact (cut inside.1 world).bind fun frame between _ =>
      (ih inside.2 between).quietly fun frames => .succeed World.Crops.history _

theorem onWorld {task : Task World Result} {state : World × VipsJob}
    (cuts : CutsOut crops id task state.1) : CutsOut crops Prod.fst (Vips.onWorld task) state :=
  cuts

end CutsOut

namespace Vips

def JobCrops (before after : World × VipsJob) : Prop := before.1.Crops [] after.1

namespace JobCrops

theorem history : Task.IsHistory JobCrops := World.Crops.history.along Prod.fst

theorem onWorld {Result : Type} {task : Task World Result}
    (keeps : Task.Keeps (World.Crops []) task) : Task.Keeps JobCrops (onWorld task) :=
  fun state => keeps state.1

theorem setPicture (picture : Picture) : Task.Keeps JobCrops (setPicture picture) :=
  fun state => World.Crops.history.refl state.1

theorem picture : Task.Keeps JobCrops picture := by
  refine .bind history (.bind history (.read history) fun _ => .succeed history _) fun job => ?_
  split
  · exact .succeed history _
  · have indifferent := World.Crops.indifferent
    have opens (path : String) (options : Entries) :
        Task.Keeps (World.Crops []) (do Library.load; Library.openPicture path options) :=
      .bind World.Crops.history indifferent.load fun _ =>
        indifferent.openPicture fun _ => World.Crops.recordCall rfl
    refine .bind history (onWorld (opens _ _)) fun picture => ?_
    exact .bind history (setPicture picture) fun _ => .succeed history picture

theorem measuredPage (picture : Picture) : Task.Keeps JobCrops (measuredPage picture) :=
  .bind history (onWorld (World.Crops.indifferent.metadata _ _)) fun _ => .ofOutcome history _

theorem scale (xScale yScale : Amount) : Task.Keeps JobCrops (scale xScale yScale) := by
  refine .bind history picture fun source => .bind history (measuredPage source) fun height => ?_
  refine .bind history (onWorld (World.Crops.transform fun _ => rfl)) fun resized => ?_
  split
  · exact setPicture resized
  · refine .bind history (.ofOutcome history _) fun scaled => ?_
    exact .bind history (onWorld (World.Crops.withPageHeight _ _)) fun marked => setPicture marked

end JobCrops

def cutCalls (source : Picture) : List Box → List Picture → List Call :=
  List.zipWith fun box frame => .transform box.cut source.number (some frame.number)

/-- The calls that put frames below each other, and then record the height of a page on a copy. -/
def joinCalls (frames : List Picture) (first piled joined : Picture) (page : Int) : List Call := [
  .transform (.stack frames) first.number (some piled.number),
  .transform .copy piled.number (some joined.number),
  .setMetadata joined.number pageHeightName (.integer page)]

theorem withPageHeight_calls {source marked : Picture} {page : Int} {world after : World}
    (ran : (withPageHeight source page).run world = (.ok marked, after)) :
    after.calls = world.calls ++ [.transform .copy source.number (some marked.number),
      .setMetadata marked.number pageHeightName (.integer page)] := by
  obtain ⟨copy, between, copied, ran⟩ := Task.run_bind_eq_ok.mp ran
  obtain ⟨rfl, rfl⟩ := Library.setMetadata_eq_ok ran
  obtain ⟨-, numbered, rfl⟩ := Library.transform_eq_ok copied
  have own : (copy.putMetadata pageHeightName (.integer page)).number = copy.number := rfl
  rw [own, numbered]
  simp [World.yielded, World.record]

theorem run_cuts_eq_ok {source : Picture} {boxes : List Box}
    (inside : ∀ box ∈ boxes, box.IsInside source.raster) {frames : List Picture}
    {world after : World}
    (ran : (Task.forAll (fun cut => Library.transform cut source) (boxes.map Box.cut)).run world =
      (.ok frames, after)) :
    frames.map Picture.raster =
        boxes.map (fun box => source.raster.resized box.width box.height) ∧
      after.calls = world.calls ++ cutCalls source boxes frames := by
  induction boxes generalizing world frames with
  | nil =>
    cases ran
    simp [cutCalls]
  | cons box rest ih =>
    rw [List.forall_mem_cons] at inside
    obtain ⟨frame, between, first, ran⟩ := Task.run_bind_eq_ok.mp ran
    obtain ⟨others, _, later, last⟩ := Task.run_bind_eq_ok.mp ran
    cases last
    obtain ⟨drawn, numbered, rfl⟩ := Library.transform_eq_ok first
    rw [Box.cut_result inside.1, Except.ok.injEq] at drawn
    obtain ⟨alike, called⟩ := ih inside.2 later
    constructor
    · simp [alike, drawn]
    · rw [called, cutCalls, List.zipWith_cons_cons, numbered]
      simp [World.yielded, World.record]

theorem widest_alike {result : Raster} {frames : List Picture}
    (alike : ∀ frame ∈ frames, frame.raster = result) :
    frames.foldl (fun width frame => max width frame.width) result.width = result.width := by
  induction frames with
  | nil => rfl
  | cons frame rest ih =>
    rw [List.forall_mem_cons] at alike
    simpa [Picture.width, alike.1] using ih alike.2

theorem height_alike {result : Raster} {frames : List Picture}
    (alike : ∀ frame ∈ frames, frame.raster = result) (above : Int) :
    frames.foldl (fun height frame => height + frame.height) above =
      above + frames.length * result.height := by
  induction frames generalizing above with
  | nil => simp
  | cons frame rest ih =>
    rw [List.forall_mem_cons] at alike
    have own : frame.height = result.height := by simp [Picture.height, alike.1]
    rw [List.foldl_cons, ih alike.2, own]
    simp only [List.length_cons, Int.natCast_add, Int.add_mul]
    omega

theorem stacked_alike {result : Raster} {frames : List Picture}
    (alike : ∀ frame ∈ frames, frame.raster = result) :
    Transformation.stacked result frames =
      result.resized result.width (frames.length * result.height) := by
  rw [Transformation.stacked, widest_alike alike, height_alike alike, Int.zero_add]

theorem stack_eq_ok {result : Raster} {first : Picture} {rest : List Picture} {piled : Picture}
    {world after : World} (alike : ∀ frame ∈ first :: rest, frame.raster = result)
    (ran : (Library.transform (.stack (first :: rest)) first).run world = (.ok piled, after)) :
    piled.raster = result.resized result.width ((first :: rest).length * result.height) ∧
      piled.number = world.pictureCount ∧
      after = world.yielded (.transform (.stack (first :: rest)) first.number) := by
  obtain ⟨drawn, numbered, rfl⟩ := Library.transform_eq_ok ran
  have stacked : (Transformation.stack (first :: rest)).result first.raster =
      .ok (Transformation.stacked first.raster (first :: rest)) := rfl
  rw [stacked, (List.forall_mem_cons.mp alike).1, stacked_alike alike, Except.ok.injEq] at drawn
  exact ⟨drawn.symm, numbered, rfl⟩

theorem frames_alike {raster : Raster} {page width height : Int} {boxes : List Box}
    {frames : List Picture} (proper : CutsPages raster page width height boxes)
    (drawn : frames.map Picture.raster =
      boxes.map fun box => raster.resized box.width box.height) :
    ∀ frame ∈ frames,
      frame.raster = raster.resized (min width raster.width) (min height page) := by
  intro frame member
  have own := List.mem_map_of_mem (f := Picture.raster) member
  rw [drawn] at own
  obtain ⟨box, within, same⟩ := List.mem_map.mp own
  obtain ⟨across, down⟩ := proper.alike box within
  rw [← same, across, down]

/-- The job holds a picture with pages of a known height, whatever its sides and metadata are. -/
structure HoldsPages (state : World × VipsJob) (scaled : Picture) (page : Int) : Prop where
  held : state.2.picture = some scaled
  across : 0 < scaled.width
  upright : 0 < scaled.height
  measured : pageHeight scaled = .ok page

def cover (width height : Int) : JobTask Unit := do
  let source ← picture
  let page ← measuredPage source
  let horizontal ← .ofOutcome (ratio (some width) source.width)
  let vertical ← .ofOutcome (ratio (some height) page)
  scale (.real (horizontal.larger vertical)) (.real (horizontal.larger vertical))

variable {state after : World × VipsJob} {scaled : Picture} {page width height : Int}
  {boxes : List Box}

theorem run_fillBox_pages (crop : String) (measured : pageHeightOf (seen state) = .ok page)
    (several : page ≠ (seen state).height) :
    (fillBox (some width) (some height) crop).run state =
      (do cover width height; cutPages width height).run state := by
  unfold fillBox cover
  rw [Task.andThen_assoc, Task.run_bind, Task.run_bind]
  rcases found : picture.run state with ⟨_ | source, between⟩
  · rfl
  · obtain ⟨same, -⟩ := picture_eq_ok found
    rw [← same] at measured several
    dsimp only
    rw [Task.andThen_assoc, Task.run_bind, Task.run_bind]
    rcases looked : (measuredPage source).run between with ⟨_ | height, later⟩
    · rfl
    · cases measured.symm.trans (measuredPage_eq_ok looked).1
      have whole : ¬ page = source.height := several
      simp only [if_neg whole, Task.andThen_assoc]
      rfl

theorem cover_eq_ok (measured : pageHeightOf (seen state) = .ok page)
    (ran : (cover width height).run state = (.ok (), after)) :
    ∃ between horizontal vertical, seen between = seen state ∧
      ratio (some width) (seen state).width = .ok horizontal ∧
      ratio (some height) page = .ok vertical ∧
      (scale (.real (horizontal.larger vertical)) (.real (horizontal.larger vertical))).run between =
        (.ok (), after) := by
  obtain ⟨source, between, same, still, ran⟩ := measured_eq_ok measured ran
  obtain ⟨horizontal, across, ran⟩ := ofOutcome_eq_ok ran
  obtain ⟨vertical, down, ran⟩ := ofOutcome_eq_ok ran
  exact ⟨between, horizontal, vertical, still, same ▸ across, down, ran⟩

theorem scale_holdsPages {xScale yScale : Amount} (measured : pageHeightOf (seen state) = .ok page)
    (several : page ≠ (seen state).height)
    (ran : (scale xScale yScale).run state = (.ok (), after)) :
    ∃ scaled page recorded, HoldsPages after scaled page ∧
      scaled.metadata? pageHeightName = some (.integer recorded) := by
  obtain ⟨scaled, across, upright, rounded, holds, wide, high, -, result⟩ :=
    scale_eq_ok measured several ran
  have marked := Raster.withPages_recorded ((seen state).resized across upright) rounded
  rw [← result] at marked
  refine ⟨scaled, _, rounded, ⟨holds, ?_, ?_, pageHeightOf_recorded marked⟩, marked⟩
  · rw [Picture.width, result]
    exact scaledSide_pos wide
  · rw [Picture.height, result]
    exact scaledSide_pos high

theorem cover_holdsPages (measured : pageHeightOf (seen state) = .ok page)
    (several : page ≠ (seen state).height)
    (ran : (cover width height).run state = (.ok (), after)) :
    ∃ scaled page, HoldsPages after scaled page := by
  obtain ⟨between, _, _, still, -, -, ran⟩ := cover_eq_ok measured ran
  rw [← still] at measured several
  obtain ⟨scaled, page, -, holds, -⟩ := scale_holdsPages measured several ran
  exact ⟨scaled, page, holds⟩

theorem cover_crops (width height : Int) : Task.Keeps JobCrops (cover width height) := by
  have history := JobCrops.history
  refine .bind history .picture fun source => .bind history (.measuredPage source) fun page => ?_
  refine .bind history (.ofOutcome history _) fun horizontal => ?_
  exact .bind history (.ofOutcome history _) fun vertical => .scale _ _

theorem cutPages_eq_ok (holds : HoldsPages state scaled page)
    (cuts : pageCuts scaled page width height = boxes.map Box.cut)
    (proper : CutsPages scaled.raster page width height boxes)
    (ran : (cutPages width height).run state = (.ok (), after)) :
    ∃ frames first piled joined, frames.head? = some first ∧
      frames.map Picture.raster =
        boxes.map (fun box => scaled.raster.resized box.width box.height) ∧
      after.1.calls = state.1.calls ++ (cutCalls scaled boxes frames ++
        joinCalls frames first piled joined (min height page)) ∧
      after.2.picture = some joined ∧ joined.width = min width scaled.width ∧
      joined.metadata? pageHeightName = some (.integer (min height page)) ∧
      joined.height = boxes.length * min height page := by
  unfold cutPages at ran
  rw [Task.run_bind_of_ok (run_picture_of_held holds.held)] at ran
  obtain ⟨methods, ran⟩ := page_eq_ok holds.measured ran
  obtain ⟨frames, between, cut, ran⟩ := Task.run_bind_eq_ok.mp ran
  obtain ⟨_, worked, rfl⟩ := onWorld_eq_ok cut
  rw [cuts] at worked
  obtain ⟨drawn, called⟩ := run_cuts_eq_ok proper.inside worked
  have count : frames.length = boxes.length := by simpa using congrArg List.length drawn
  cases frames with
  | nil => exact absurd (List.eq_nil_of_length_eq_zero count.symm) (proper.filled holds.upright)
  | cons first rest =>
    obtain ⟨piled, later, joined, ran⟩ := Task.run_bind_eq_ok.mp ran
    obtain ⟨marked, last, wrote, kept⟩ := Task.run_bind_eq_ok.mp ran
    cases kept
    obtain ⟨_, piles, rfl⟩ := onWorld_eq_ok joined
    obtain ⟨_, marks, rfl⟩ := onWorld_eq_ok wrote
    obtain ⟨together, numbered, rfl⟩ := stack_eq_ok (frames_alike proper drawn) piles
    have whole := withPageHeight_eq_ok marks
    rw [together, count] at whole
    refine ⟨_, first, piled, marked, rfl, drawn, ?_, rfl, ?_, ?_, ?_⟩
    · rw [World.asking_calls] at called
      simp [withPageHeight_calls marks, World.yielded, World.record, called, joinCalls, numbered]
    · simp [Picture.width, whole, Raster.withPages, Raster.resized]
    · simp only [Picture.metadata?, whole, Raster.withPages_recorded]
    · simp [Picture.height, whole, Raster.withPages, Raster.resized]

theorem measuredPage_blamesFrom {picture : Picture} (measured : pageHeight picture = .ok page) :
    BlamesFrom Prod.fst (measuredPage picture) state := by
  refine (Library.metadata_blamesFrom pageHeightName picture state.1).onWorld.bind ?_
  intro recorded between looked
  obtain ⟨_, worked, rfl⟩ := onWorld_eq_ok looked
  obtain ⟨rfl, -⟩ := Library.metadata_eq_ok worked
  rw [show pageHeightFrom picture (picture.metadata? pageHeightName) = .ok page from measured]
  exact .of_ok rfl

theorem withPageHeight_blamesFrom (picture : Picture) (height : Int) (world : World) :
    BlamesFrom id (withPageHeight picture height) world :=
  (Library.transform_blamesFrom (Transformation.result_copy _) world).bind fun _ between _ =>
    Library.setMetadata_blamesFrom _ _ _ between

theorem cuts_blameFrom {source : Picture} (inside : ∀ box ∈ boxes, box.IsInside source.raster)
    (world : World) :
    BlamesFrom id (Task.forAll (fun cut => Library.transform cut source) (boxes.map Box.cut))
      world := by
  induction boxes generalizing world with
  | nil => exact .of_ok rfl
  | cons box rest ih =>
    rw [List.forall_mem_cons] at inside
    exact (Library.transform_blamesFrom (Box.cut_result inside.1) world).bind fun _ between _ =>
      (ih inside.2 between).bind fun _ _ _ => .of_ok rfl

theorem cutPages_cutsOut (holds : HoldsPages state scaled page)
    (cuts : pageCuts scaled page width height = boxes.map Box.cut)
    (proper : CutsPages scaled.raster page width height boxes) :
    CutsOut (boxes.map fun box => (box, scaled.number)) Prod.fst (cutPages width height) state := by
  have found := run_picture_of_held holds.held
  rw [← List.nil_append (boxes.map _)]
  refine (CutsOut.of_quiet JobCrops.picture state).bind fun source between same => ?_
  cases found.symm.trans same
  rw [← List.nil_append (boxes.map _)]
  refine (CutsOut.of_quiet (JobCrops.measuredPage scaled) state).bind fun again between looked => ?_
  cases holds.measured.symm.trans (measuredPage_eq_ok looked).1
  rw [cuts]
  refine (CutsOut.cuts proper.inside between.1).onWorld.quietly fun frames => ?_
  cases frames with
  | nil => exact .succeed JobCrops.history ()
  | cons first rest =>
    have history := JobCrops.history
    refine .bind history (JobCrops.onWorld (World.Crops.transform fun _ => rfl)) fun stacked => ?_
    refine .bind history (JobCrops.onWorld (World.Crops.withPageHeight _ _)) fun marked => ?_
    exact JobCrops.setPicture marked

theorem cutPages_blamesFrom (holds : HoldsPages state scaled page)
    (cuts : pageCuts scaled page width height = boxes.map Box.cut)
    (proper : CutsPages scaled.raster page width height boxes) :
    BlamesFrom Prod.fst (cutPages width height) state := by
  have found := run_picture_of_held holds.held
  refine (BlamesFrom.of_ok found).bind fun source between same => ?_
  cases found.symm.trans same
  refine (measuredPage_blamesFrom holds.measured).bind fun again between looked => ?_
  cases holds.measured.symm.trans (measuredPage_eq_ok looked).1
  rw [cuts]
  refine (cuts_blameFrom proper.inside between.1).onWorld.bind fun frames later _ => ?_
  cases frames with
  | nil => exact .of_ok rfl
  | cons first rest =>
    have piled : BlamesFrom id (Library.transform (.stack (first :: rest)) first) later.1 :=
      Library.transform_blamesFrom rfl later.1
    refine piled.onWorld.bind fun stacked last _ => ?_
    exact (withPageHeight_blamesFrom _ _ last.1).onWorld.bind fun _ _ _ => .refl _ _

/-- Filling a box with several pages scales them and cuts the middle out of each. Whatever the first
half leaves, all cuts lie inside the picture, one in each page and none over another, so that only
the library can fail. They are what is cut out of the picture, in the order of the pages, and what
the result is put together from, which has as many pages of the height it records. -/
theorem fillBox_cutsPages (wide : 1 ≤ width) (high : 1 ≤ height) :
    (∀ crop state page, pageHeightOf (seen state) = .ok page → page ≠ (seen state).height →
      (fillBox (some width) (some height) crop).run state =
        (do cover width height; cutPages width height).run state ∧
      CutsOut [] Prod.fst (cover width height) state ∧
      ∀ between, (cover width height).run state = (.ok (), between) →
        ∃ scaled page, HoldsPages between scaled page) ∧
    ∀ state scaled page, HoldsPages state scaled page →
      ∃ boxes, CutsPages scaled.raster page width height boxes ∧
        CutsOut (boxes.map fun box => (box, scaled.number)) Prod.fst (cutPages width height) state ∧
        match (cutPages width height).run state with
        | (.error failure, after) => failure ∈ state.1.faultsSince after.1
        | (.ok (), after) =>
          ∃ frames first piled joined recorded,
            frames.head? = some first ∧
            frames.map Picture.raster =
              boxes.map (fun box => scaled.raster.resized box.width box.height) ∧
            after.1.calls = state.1.calls ++ (cutCalls scaled boxes frames ++
              joinCalls frames first piled joined recorded) ∧
            after.2.picture = some joined ∧
            joined.width = min width scaled.width ∧
            joined.metadata? pageHeightName = some (.integer recorded) ∧
            joined.height = boxes.length * recorded := by
  constructor
  · intro crop state page measured several
    exact ⟨run_fillBox_pages crop measured several, .of_quiet (cover_crops _ _) state,
      fun between ran => cover_holdsPages measured several ran⟩
  · intro state scaled page holds
    have proper := pageBoxes_cutsPages wide high holds.across holds.upright holds.measured
    have cuts := pageCuts_eq scaled page width height
    refine ⟨_, proper, cutPages_cutsOut holds cuts proper, ?_⟩
    rcases ran : (cutPages width height).run state with ⟨failure | _, after⟩
    · exact (cutPages_blamesFrom holds cuts proper).mem_faultsSince ran
    · obtain ⟨frames, first, piled, joined, head, drawn, called, held, across, recorded, down⟩ :=
        cutPages_eq_ok holds cuts proper ran
      exact ⟨frames, first, piled, joined, _, head, drawn, called, held, across, recorded, down⟩

theorem two_pages_cut :
    (fillBox (some 2) (some 1) "centre").run (holding (strip 4 8 4)) =
      (do cover 2 1; cutPages 2 1).run (holding (strip 4 8 4)) ∧
    ∃ boxes frames first piled joined recorded after,
      CutsPages (strip 2 4 2).raster 2 2 1 boxes ∧
      (cutPages 2 1).run (holding (strip 2 4 2)) = (.ok (), after) ∧
      after.1.calls = cutCalls (strip 2 4 2) boxes frames ++
        joinCalls frames first piled joined recorded ∧
      after.1.calls.filterMap Call.crop? = [(⟨0, 0, 2, 1⟩, 0), (⟨0, 2, 2, 1⟩, 0)] ∧
      after.2.picture = some joined ∧ joined.width = 2 ∧
      joined.height = boxes.length * recorded := by
  obtain ⟨halves, cuts⟩ := fillBox_cutsPages (show (1 : Int) ≤ 2 by decide) (Int.le_refl 1)
  refine ⟨(halves "centre" _ 4 rfl (by decide)).1, ?_⟩
  obtain ⟨boxes, proper, -, runs⟩ :=
    cuts (holding (strip 2 4 2)) _ 2 ⟨rfl, by decide, by decide, rfl⟩
  have succeeds : ((cutPages 2 1).run (holding (strip 2 4 2))).1 = .ok () := rfl
  have crops : ((cutPages 2 1).run (holding (strip 2 4 2))).2.1.calls.filterMap Call.crop? =
    [(⟨0, 0, 2, 1⟩, 0), (⟨0, 2, 2, 1⟩, 0)] := rfl
  rcases ran : (cutPages 2 1).run (holding (strip 2 4 2)) with ⟨failure | _, after⟩
  · rw [ran] at succeeds
    cases succeeds
  · rw [ran] at runs crops
    obtain ⟨frames, first, piled, joined, recorded, -, -, called, held, across, -, down⟩ := runs
    exact ⟨boxes, frames, first, piled, joined, recorded, after, proper, rfl, called, crops, held,
      across, down⟩

end Vips

end Thumbnailing
