import Thumbnailing.Proofs.Request.Stages
import Thumbnailing.Proofs.World.Plain

set_option autoImplicit false

namespace Thumbnailing

namespace Operation

def selectsFrames : Operation → Bool
  | .selectFrame _ | .selectAllFrames => true
  | _ => false

def readsPixels : Operation → Bool
  -- Loading a source and naming the format of the result leave its pixels alone.
  | .load .. | .selectFrame _ | .selectAllFrames | .convertFormat _ => false
  | _ => true

def isIntermediate : Operation → Bool
  | .load .. | .selectFrame _ | .selectAllFrames | .save _ => false
  | _ => true

theorem selectsFrames_of_intermediate {operation : Operation}
    (intermediate : operation.isIntermediate = true) : operation.selectsFrames = false := by
  cases operation with
  | selectFrame | selectAllFrames => cases intermediate
  | _ => rfl

end Operation

structure SelectsOnce (operations : List Operation) (selection : Operation) : Prop where
  selects : selection.selectsFrames = true
  placed : ∃ before after, operations = before ++ selection :: after ∧
    (∀ operation ∈ before, operation.selectsFrames = false ∧ operation.readsPixels = false) ∧
    ∀ operation ∈ after, operation.selectsFrames = false

namespace SelectsOnce

variable {operations : List Operation} {selection other : Operation}

theorem mem (once : SelectsOnce operations selection) : selection ∈ operations := by
  obtain ⟨before, after, rfl, -, -⟩ := once.placed
  simp

theorem eq_of_mem (once : SelectsOnce operations selection) (member : other ∈ operations)
    (selects : other.selectsFrames = true) : other = selection := by
  obtain ⟨before, after, rfl, early, late⟩ := once.placed
  rcases List.mem_append.mp member with inBefore | inRest
  · exact absurd selects (by simp [(early other inBefore).1])
  · rcases List.mem_cons.mp inRest with same | inAfter
    · exact same
    · exact absurd selects (by simp [late other inAfter])

end SelectsOnce

namespace Thumbnail

theorem detectAnimatedSource_answer {thumbnail : Thumbnail} {before found : Progress}
    {several : Bool}
    (detected : thumbnail.detectAnimatedSource.run before = (.ok several, found)) :
    found.animatedSource = some several := by
  obtain ⟨world, geometry, warnings, known⟩ := before
  cases known with
  | some answer =>
    cases detected
    rfl
  | none =>
    rw [run_detectAnimatedSource rfl] at detected
    rcases ran : thumbnail.countFrames.run world with ⟨outcome, after⟩
    simp only [ran] at detected
    cases detected
    rfl

theorem buildPipeline_operations {thumbnail : Thumbnail} {destination : Path} {pipeline : Pipeline}
    {progress after : Progress}
    (built : (thumbnail.buildPipeline destination).run progress = (.ok pipeline, after)) :
    ∃ loaderOptions middle,
      pipeline.operations = .load thumbnail.path loaderOptions ::
        (thumbnail.frameOperations (thumbnail.isAnimated progress) ++
          (middle ++ [.save destination])) ∧
      ∀ operation ∈ middle, operation.isIntermediate = true := by
  obtain ⟨loaderOptions, records, resize, tokens, -, resized, -, whole, -⟩ :=
    buildPipeline_eq_ok built
  refine ⟨loaderOptions, thumbnail.orientOperations ++ resize ++
    optimizeOperations (thumbnail.isAnimated progress) ++ tokens.directives.map .applyDirective ++
    thumbnail.formatOperations, by simp [whole], ?_⟩
  intro operation member
  simp only [List.mem_append] at member
  rcases member with (((orient | resizing) | optimize) | directive) | format
  · unfold orientOperations at orient
    split at orient <;> simp_all [Operation.isIntermediate]
  · obtain ⟨_, rfl⟩ := resizeOperations_kinds resized operation resizing
    rfl
  · unfold optimizeOperations at optimize
    split at optimize <;> simp_all [Operation.isIntermediate]
  · obtain ⟨_, -, rfl⟩ := List.mem_map.mp directive
    rfl
  · obtain ⟨_, -, rfl⟩ := List.mem_map.mp format
    rfl

def selection (thumbnail : Thumbnail) (animated : Bool) : Operation :=
  if animated then .selectAllFrames else .selectFrame thumbnail.frameIndex

theorem frameOperations_selection (thumbnail : Thumbnail) (animated : Bool) :
    thumbnail.frameOperations animated =
      if animated || thumbnail.isMultiFrameFormat then [thumbnail.selection animated] else [] := by
  unfold frameOperations selection
  generalize thumbnail.isMultiFrameFormat = several
  cases animated <;> cases several <;> rfl

theorem frameOperations_cases (thumbnail : Thumbnail) (animated : Bool) :
    (animated = true ∧ thumbnail.frameOperations animated = [.selectAllFrames]) ∨
      (animated = false ∧ ∃ index : Int, index = thumbnail.frameIndex ∧
        thumbnail.frameOperations animated = [.selectFrame index]) ∨
      thumbnail.frameOperations animated = [] := by
  unfold frameOperations
  generalize thumbnail.isMultiFrameFormat = several
  cases animated
  · cases several
    · exact .inr (.inr rfl)
    · exact .inr (.inl ⟨rfl, _, rfl, rfl⟩)
  · exact .inl ⟨rfl, rfl⟩

theorem selection_selectsFrames (thumbnail : Thumbnail) (animated : Bool) :
    (thumbnail.selection animated).selectsFrames = true := by
  cases animated <;> rfl

/-- A source that was found to hold several frames has them selected once, before its pixels are
read, exactly if the output keeps them all or the source has the name of a container. A still output
is then made of one frame. -/
theorem buildPipeline_selectsOnce {thumbnail : Thumbnail} {destination : Path}
    {pipeline : Pipeline} {before found progress after : Progress}
    (detected : thumbnail.detectAnimatedSource.run before = (.ok true, found))
    (known : progress.animatedSource = found.animatedSource)
    (built : (thumbnail.buildPipeline destination).run progress = (.ok pipeline, after)) :
    ((∃ selection, SelectsOnce pipeline.operations selection) ↔
      (thumbnail.options.animated && thumbnail.outputCanAnimate || thumbnail.isMultiFrameFormat) =
        true) ∧
    ∀ selection, SelectsOnce pipeline.operations selection →
      selection = thumbnail.selection (thumbnail.options.animated && thumbnail.outputCanAnimate) := by
  have several : progress.animatedSource = some true :=
    known.trans (detectAnimatedSource_answer detected)
  have animated : thumbnail.isAnimated progress =
      (thumbnail.options.animated && thumbnail.outputCanAnimate) := by
    simp [isAnimated, several]
  obtain ⟨loaderOptions, middle, whole, intermediate⟩ := buildPipeline_operations built
  rw [animated, frameOperations_selection] at whole
  have others : ∀ operation ∈ middle ++ [.save destination], operation.selectsFrames = false := by
    intro operation member
    rcases List.mem_append.mp member with inMiddle | last
    · exact Operation.selectsFrames_of_intermediate (intermediate operation inMiddle)
    · rw [List.mem_singleton.mp last]
      rfl
  by_cases selected : (thumbnail.options.animated && thumbnail.outputCanAnimate ||
      thumbnail.isMultiFrameFormat) = true
  · have selects := thumbnail.selection_selectsFrames
      (thumbnail.options.animated && thumbnail.outputCanAnimate)
    rw [if_pos selected] at whole
    have once : SelectsOnce pipeline.operations
        (thumbnail.selection (thumbnail.options.animated && thumbnail.outputCanAnimate)) :=
      ⟨selects, [.load thumbnail.path loaderOptions], middle ++ [Operation.save destination], whole, by
        simp [Operation.selectsFrames, Operation.readsPixels], others⟩
    exact ⟨⟨fun _ => selected, fun _ => ⟨_, once⟩⟩,
      fun other another => once.eq_of_mem another.mem another.selects⟩
  · have none : ∀ operation ∈ pipeline.operations, operation.selectsFrames = false := by
      rw [whole, if_neg selected]
      intro operation member
      rcases List.mem_cons.mp member with rfl | later
      · rfl
      · exact others operation later
    have never (selection : Operation) : ¬ SelectsOnce pipeline.operations selection :=
      fun once => absurd once.selects (by simp [none selection once.mem])
    exact ⟨⟨fun ⟨selection, once⟩ => absurd once (never selection),
      fun chosen => absurd chosen selected⟩, fun selection once => absurd once (never selection)⟩

def stillOf (name : String) : Thumbnail :=
  { plain with
    options := { ThumbnailOptions.standard with format := some "png" }
    path := some ⟨.absolute, ["work", name]⟩ }

def foundOf (name : String) : Progress :=
  ((stillOf name).detectAnimatedSource.run (.start .animated)).2

theorem stillOf_detected (name : String) :
    (stillOf name).detectAnimatedSource.run (.start .animated) = (.ok true, foundOf name) := rfl

theorem still_of_container :
    ∃ pipeline after,
      (stillOf "a.gif").detectAnimatedSource.run (.start .animated) =
        (.ok true, foundOf "a.gif") ∧
      ((stillOf "a.gif").buildPipeline ⟨.absolute, ["tmp", "b.png"]⟩).run (foundOf "a.gif") =
        (.ok pipeline, after) ∧
      SelectsOnce pipeline.operations (.selectFrame 0) := by
  have built : ∃ pipeline after,
      ((stillOf "a.gif").buildPipeline ⟨.absolute, ["tmp", "b.png"]⟩).run (foundOf "a.gif") =
        (.ok pipeline, after) := ⟨_, _, Prod.ext rfl rfl⟩
  obtain ⟨pipeline, after, built⟩ := built
  obtain ⟨chosen, which⟩ := buildPipeline_selectsOnce (stillOf_detected "a.gif") rfl built
  obtain ⟨selection, once⟩ := chosen.mpr (by decide +kernel)
  have one : selection = .selectFrame 0 := by
    rw [which selection once]
    rfl
  exact ⟨pipeline, after, stillOf_detected _, built, one ▸ once⟩

theorem unlisted_source_selectsNothing :
    ¬ ∀ (thumbnail : Thumbnail) (destination : Path) (pipeline : Pipeline)
      (before found progress after : Progress),
      thumbnail.detectAnimatedSource.run before = (.ok true, found) →
      progress.animatedSource = found.animatedSource →
      (thumbnail.buildPipeline destination).run progress = (.ok pipeline, after) →
      ∃ selection, SelectsOnce pipeline.operations selection := by
  intro claimed
  have built : ∃ after,
      ((stillOf "a.webp").buildPipeline ⟨.absolute, ["tmp", "b.png"]⟩).run (foundOf "a.webp") =
        (.ok ⟨[.load (stillOf "a.webp").path [], .autoOrient, .convertFormat "png",
          .save ⟨.absolute, ["tmp", "b.png"]⟩], false⟩, after) := ⟨_, Prod.ext rfl rfl⟩
  obtain ⟨after, built⟩ := built
  obtain ⟨selection, once⟩ := claimed _ _ _ _ _ _ _ (stillOf_detected "a.webp") rfl built
  have selects := once.selects
  have member := once.mem
  simp only [List.mem_cons, List.not_mem_nil, or_false] at member
  rcases member with rfl | rfl | rfl | rfl <;> cases selects

end Thumbnail

end Thumbnailing
