import Thumbnailing.Proofs.Geometry.Overflow
import Thumbnailing.Proofs.Request.Stages
import Thumbnailing.Proofs.World.Plain

set_option autoImplicit false

namespace Thumbnailing

/-- A result, or a failure that is an error of the service. -/
def IsProper {Result : Type} (outcome : Outcome Result) : Prop :=
  (∃ result, outcome = .ok result) ∨ ∃ error, outcome = .error (.service error)

namespace IsProper

variable {First Result : Type}

theorem ok (result : Result) : IsProper (.ok result) := .inl ⟨result, rfl⟩

theorem service (error : ServiceError) : IsProper (.error (.service error) : Outcome Result) :=
  .inr ⟨error, rfl⟩

theorem error_iff {failure : Failure} :
    IsProper (.error failure : Outcome Result) ↔ ∃ error, failure = .service error := by
  simp [IsProper]

theorem bind_iff {first : Outcome First} {next : First → Outcome Result} :
    IsProper (first >>= next) ↔
      IsProper first ∧ ∀ between, first = .ok between → IsProper (next between) := by
  cases first with
  | error failure =>
    change IsProper (.error failure) ↔ _
    simp [error_iff]
  | ok between =>
    change IsProper (next between) ↔ _
    simp [ok]

theorem arithmetically_iff {result : Except ArithmeticFault Result} :
    IsProper (arithmetically result) ↔ ¬ Fails result := by
  cases result with
  | error fault =>
    change IsProper (.error (.arithmetic fault)) ↔ _
    simp [error_iff]
  | ok result =>
    change IsProper (.ok result) ↔ _
    simp [ok]

theorem split (options : OptionWords) : IsProper options.split := by
  cases options with
  | listed words => exact ok words
  | line content =>
    unfold OptionWords.split
    simp only
    split
    · exact ok _
    · exact service _

theorem tokens (options : Option OptionWords) : IsProper (Tokens.ofOptions options) := by
  cases options with
  | none => exact ok _
  | some options =>
    rcases split options with ⟨words, same⟩ | ⟨error, same⟩
    · exact .inl ⟨_, by rw [Tokens.ofOptions, OptionWords.splitOptional, same]; rfl⟩
    · exact .inr ⟨error, by rw [Tokens.ofOptions, OptionWords.splitOptional, same]; rfl⟩

end IsProper

namespace Thumbnail

theorem resizeOperations_isProper {thumbnail : Thumbnail} {progress : Progress}
    {current : CurrentGeometry} (known : progress.geometry = some current) :
    IsProper (thumbnail.resizeOperations progress) ↔
      ¬ Fails (Resize.resolve current thumbnail.target thumbnail.engine.kind) := by
  unfold resizeOperations
  split
  · rename_i nothing
    rw [Resize.resolve_identity nothing]
    exact iff_of_true (.ok []) (not_fails_ok _)
  · simp only [requireGeometry, known]
    change IsProper (arithmetically _ >>= _) ↔ _
    rw [IsProper.bind_iff, IsProper.arithmetically_iff]
    exact and_iff_left fun _ _ => .ok _

theorem buildPipeline_outcome {thumbnail : Thumbnail} {loaded : Entries × List LogRecord}
    (readable : SourceOptions.loaderOptions thumbnail.options.sourceOptions = .ok loaded)
    (destination : Path) (progress : Progress) :
    ∃ plan : List Operation → Tokens → Pipeline,
      ((thumbnail.buildPipeline destination).run progress).1 = (do
        let resize ← thumbnail.resizeOperations progress
        let tokens ← Tokens.ofOptions thumbnail.options.convertOptions
        return plan resize tokens) := by
  refine ⟨fun resize tokens => ⟨.load thumbnail.path loaded.1 ::
    (thumbnail.frameOperations (thumbnail.isAnimated progress) ++ thumbnail.orientOperations ++
      resize ++ optimizeOperations (thumbnail.isAnimated progress) ++
      tokens.directives.map .applyDirective ++ thumbnail.formatOperations ++
      [.save destination]), false⟩, ?_⟩
  have logged : thumbnail.resizeOperations { progress with world := progress.world.append loaded.2 } =
    thumbnail.resizeOperations progress := rfl
  simp only [buildPipeline, readable, Task.run_bind, Task.run_ofOutcome, Progress.run_onWorld,
    run_logAll, Task.run_read, logged]
  cases thumbnail.resizeOperations progress with
  | error failure => rfl
  | ok resize =>
    cases Tokens.ofOptions thumbnail.options.convertOptions with
    | error failure => rfl
    | ok tokens =>
      rfl

theorem buildPipeline_isProper {thumbnail : Thumbnail} {loaded : Entries × List LogRecord}
    {progress : Progress} {current : CurrentGeometry}
    (readable : SourceOptions.loaderOptions thumbnail.options.sourceOptions = .ok loaded)
    (known : progress.geometry = some current) (destination : Path) :
    IsProper ((thumbnail.buildPipeline destination).run progress).1 ↔
      ¬ Fails (Resize.resolve current thumbnail.target thumbnail.engine.kind) := by
  obtain ⟨plan, planned⟩ := buildPipeline_outcome readable destination progress
  rw [planned, IsProper.bind_iff, resizeOperations_isProper known]
  refine and_iff_left fun resize _ => IsProper.bind_iff.mpr ⟨.tokens _, fun tokens _ => .ok _⟩

def plan (source : Source) (options : ThumbnailOptions) (attachment : Entries)
    (settings : Settings) (current : CurrentGeometry) (animated : Option Bool)
    (destination : Path) : Task World Pipeline := do
  let thumbnail ← prepare source options attachment settings
  Task.onPart (fun world => ⟨world, some current, [], animated⟩) (fun _ progress => progress.world)
    (thumbnail.buildPipeline destination)

def engineOf (options : ThumbnailOptions) (attachment : Entries) (settings : Settings) : EngineKind :=
  (EngineKind.ofCandidate (backendCandidate options attachment settings)).1

theorem plan_outcome {source : Source} {options : ThumbnailOptions} {world : World}
    {path : Option Path} (attachment : Entries) (settings : Settings) (current : CurrentGeometry)
    (animated : Option Bool) (destination : Path)
    (located : source.path? (workingFolder world) = .ok path) :
    ∃ after, ((plan source options attachment settings current animated destination).run world).1 =
      (do
        let target ← targetOf options
        ((buildPipeline ⟨source, options, target, ⟨engineOf options attachment settings, settings⟩,
          path⟩ destination).run ⟨after, some current, [], animated⟩).1) := by
  refine ⟨world.append (EngineKind.ofCandidate (backendCandidate options attachment settings)).2, ?_⟩
  have logged : source.path? (workingFolder (world.append (EngineKind.ofCandidate
    (backendCandidate options attachment settings)).2)) = .ok path := located
  simp only [plan, prepare, Task.run_bind, Task.run_ofOutcome, run_logAll, Task.run_read]
  cases targetOf options with
  | error failure => rfl
  | ok target =>
    simp only [logged]
    rfl

theorem targetOf_usual {options : ThumbnailOptions} (usual : options.geometryParser = none) :
    targetOf options = TargetGeometry.parse (some (options.geometry.getD "")) := by
  simp only [targetOf, usual]

/-- Planning ends with a pipeline or an error of the service, unless the geometry has a number that
is too long to be read, or its resize leaves the range of numbers. -/
theorem plan_isProper {source : Source} {options : ThumbnailOptions} {world : World}
    {path : Option Path} {loaded : Entries × List LogRecord} {current : CurrentGeometry}
    (attachment : Entries) (settings : Settings) (animated : Option Bool) (destination : Path)
    (usual : options.geometryParser = none)
    (located : source.path? (workingFolder world) = .ok path)
    (readable : SourceOptions.loaderOptions options.sourceOptions = .ok loaded)
    (wide : 1 ≤ current.width) (high : 1 ≤ current.height) :
    IsProper ((plan source options attachment settings current animated destination).run world).1 ↔
      ¬ TargetGeometry.IsOverlong (options.geometry.getD "") ∧
        ∀ target, TargetGeometry.parse (some (options.geometry.getD "")) = .ok target →
          ¬ Resize.Exceeds current target (engineOf options attachment settings) := by
  obtain ⟨after, planned⟩ := plan_outcome attachment settings current animated destination located
  rw [planned, targetOf_usual usual]
  rcases TargetGeometry.parse_cases (options.geometry.getD "") with
    ⟨overlong, digits, refused⟩ | ⟨short, ⟨error, refused⟩ | ⟨target, parsed, positive⟩⟩
  · rw [refused]
    refine iff_of_false (fun proper => ?_) fun fits => fits.1 overlong
    exact absurd (IsProper.error_iff.mp proper) nofun
  · rw [refused]
    exact iff_of_true (.service error) ⟨short, nofun⟩
  · rw [parsed]
    change IsProper ((buildPipeline _ destination).run ⟨after, some current, [], animated⟩).1 ↔ _
    rw [buildPipeline_isProper readable rfl, Resize.fails_resolve positive wide high]
    simp [short]

def requested (geometry : String) : ThumbnailOptions :=
  { ThumbnailOptions.standard with geometry := some geometry }

theorem requested_geometry (geometry : String) : (requested geometry).geometry.getD "" = geometry :=
  rfl

theorem enormous_isRefused : ∃ path loaded,
    (requested (TargetGeometry.onesThen 310 ['%'])).geometryParser = none ∧
    Source.path? (workingFolder .plain) (.text "/work/a.png") = .ok path ∧
    SourceOptions.loaderOptions (requested (TargetGeometry.onesThen 310 ['%'])).sourceOptions =
      .ok loaded ∧
    ¬ IsProper ((plan (.text "/work/a.png") (requested (TargetGeometry.onesThen 310 ['%'])) []
      .standard ⟨40, 30, 1⟩ none ⟨.absolute, ["tmp", "b.png"]⟩).run .plain).1 := by
  have located : Source.path? (workingFolder .plain) (.text "/work/a.png") =
    .ok (some ⟨.absolute, ["work", "a.png"]⟩) := rfl
  have parsed := TargetGeometry.parse_onesPercent (show 0 < 310 by decide) (by decide)
  have reached : Binary64.bound ≤ digitsValue (List.replicate 310 1) := by decide +kernel
  -- The text itself, which is long, is not looked into again.
  generalize TargetGeometry.onesThen 310 ['%'] = geometry at parsed ⊢
  refine ⟨_, _, rfl, located, rfl, fun proper => ?_⟩
  have fits := (plan_isProper [] .standard none ⟨.absolute, ["tmp", "b.png"]⟩ rfl located rfl
    (by decide) (by decide)).mp proper
  exact fits.2 _ parsed ⟨_, rfl, .inl (by exact_mod_cast reached)⟩

theorem endless_isRefused :
    ¬ IsProper ((plan (.text "/work/a.png") (requested (TargetGeometry.onesThen 4301 [])) []
      .standard ⟨40, 30, 1⟩ none ⟨.absolute, ["tmp", "b.png"]⟩).run .plain).1 := by
  have located : Source.path? (workingFolder .plain) (.text "/work/a.png") =
    .ok (some ⟨.absolute, ["work", "a.png"]⟩) := rfl
  have overlong : TargetGeometry.IsOverlong (TargetGeometry.onesThen 4301 []) := by
    have parts := TargetGeometry.onesThen_parts (show 0 < 4301 by decide) (.inl rfl)
    refine ⟨TargetGeometry.onesThen_written (by decide) [], ?_, .inl ?_⟩
    · rw [parts]
      decide
    · rw [parts, List.length_replicate]
      decide
  obtain ⟨after, planned⟩ := plan_outcome [] .standard ⟨40, 30, 1⟩ none
    ⟨.absolute, ["tmp", "b.png"]⟩ located
  rcases TargetGeometry.parse_cases (TargetGeometry.onesThen 4301 []) with
    ⟨-, digits, refused⟩ | ⟨short, -⟩
  · rw [planned, targetOf_usual rfl, requested_geometry, refused]
    exact fun proper => absurd (IsProper.error_iff.mp proper) nofun
  · exact absurd overlong short

end Thumbnail

end Thumbnailing
