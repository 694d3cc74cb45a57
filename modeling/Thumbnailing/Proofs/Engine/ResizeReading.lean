import Thumbnailing.Proofs.Engine.Commands
import Thumbnailing.Proofs.Engine.ResizeWords
import Thumbnailing.Proofs.Geometry.Legibility

set_option autoImplicit false

namespace Thumbnailing

namespace TargetGeometry

theorem parse_sides {width height : Option Int} {numbers : String} (wide : IsLegible width)
    (high : IsLegible height) (given : width.isSome = true ∨ height.isSome = true)
    (written : numbers.toList = sideChars width ++ 'x' :: sideChars height) (modifier : Modifier) :
    parse (some (numbers ++ modifier.symbol)) = .ok ⟨width, height, modifier⟩ := by
  have filled : ¬ (runValue (sideChars width) = 0 ∧ runValue (sideChars height) = 0) := by
    rw [← dimension?_eq_none, ← dimension?_eq_none, dimension?_sideChars wide,
      dimension?_sideChars high]
    rintro ⟨rfl, rfl⟩
    simp at given
  have sized : Sized (numbers ++ modifier.symbol).toList (sideChars width) (sideChars height)
      modifier :=
    ⟨_, _, by rw [String.toList_append, written], .pair (sideChars_isDigitRun width) (.inl rfl)
      (sideChars_isDigitRun height), symbol_known modifier, filled⟩
  have nothing : ∀ c ∈ [], Text.isBlank c = true := nofun
  rw [parse_sized sized (length_sideChars wide) (length_sideChars high) nothing nothing
    (by simp), ofRuns, dimension?_sideChars wide, dimension?_sideChars high]

end TargetGeometry

namespace Magick

open TargetGeometry

variable {width height : Option Int}

theorem dimensionText_chars {side : Option Int} (legible : IsLegible side) :
    (dimensionText side).toList = sideChars side := by
  rw [dimensionText, nonzero?_of_pos fun n same => (legible n same).1]
  cases side with
  | none => rfl
  | some n => exact integerText_legible legible

theorem sideText_chars {side : Option Int} (legible : IsLegible side) (given : side.isSome = true) :
    (sideText side).toList = sideChars side := by
  obtain ⟨n, rfl⟩ := Option.isSome_iff_exists.mp given
  exact integerText_legible legible

theorem fitText_chars (wide : IsLegible width) (high : IsLegible height) :
    (fitText width height).toList = sideChars width ++ 'x' :: sideChars height := by
  simp [fitText, dimensionText_chars wide, dimensionText_chars high]

theorem boxText_chars (wide : IsLegible width) (high : IsLegible height)
    (given : width.isSome = true ∧ height.isSome = true) :
    (boxText width height).toList = sideChars width ++ 'x' :: sideChars height := by
  simp [boxText, sideText_chars wide given.1, sideText_chars high given.2]

end Magick

namespace Resize

open TargetGeometry

/-- The words that a resize is sent as: after `-resize` a geometry, which ends with the modifier of
its kind. A box that is filled is cut out then. -/
inductive IsSentAs : Resize → String → Modifier → List String → Prop
  | fit {width height : Option Int} {geometry : String} :
    IsSentAs (.fit width height) geometry .plain []
  | limit {width height : Option Int} {geometry : String} :
    IsSentAs (.limit width height) geometry .shrinkOnly []
  | exact {width height : Option Int} {geometry : String} :
    IsSentAs (.exact width height) geometry .force []
  | fill {width height : Option Int} {crop : Option String} {box : String} :
    IsSentAs (.fill width height crop) (box ++ "^") .fill
      ["-gravity", Magick.gravityOf (Primitive.cropOf crop), "-extent", box, "+gravity"]

variable {current : CurrentGeometry} {target : TargetGeometry} {resize : Resize}

theorem isLegible_sides (positive : resize.IsPositive) (short : resize.IsShort) :
    IsLegible resize.width? ∧ IsLegible resize.height? :=
  ⟨fun n same => ⟨positive n (.inl same), short n (.inl same)⟩,
    fun n same => ⟨positive n (.inr same), short n (.inr same)⟩⟩

theorem words_read (known : resize.isForCommand = true) (acts : resize.isIdentity = false)
    (complete : resize.IsComplete) (short : resize.IsShort) :
    ∃ geometry modifier following, resize.words = "-resize" :: geometry :: following ∧
      resize.IsSentAs geometry modifier following ∧
      (resize.IsPositive →
        parse (some geometry) = .ok ⟨resize.width?, resize.height?, modifier⟩) := by
  cases resize with
  | identity => cases acts
  | scale | unrecognised => cases known
  | fit width height =>
    refine ⟨_, _, _, rfl, .fit, fun positive => ?_⟩
    obtain ⟨wide, high⟩ : IsLegible width ∧ IsLegible height := isLegible_sides positive short
    have read := parse_sides wide high complete (Magick.fitText_chars wide high) .plain
    rwa [Modifier.symbol, String.append_empty] at read
  | limit width height =>
    refine ⟨_, _, _, rfl, .limit, fun positive => ?_⟩
    obtain ⟨wide, high⟩ : IsLegible width ∧ IsLegible height := isLegible_sides positive short
    exact parse_sides wide high complete (Magick.fitText_chars wide high) .shrinkOnly
  | exact width height =>
    refine ⟨_, _, _, rfl, .exact, fun positive => ?_⟩
    obtain ⟨wide, high⟩ : IsLegible width ∧ IsLegible height := isLegible_sides positive short
    exact parse_sides wide high (.inl complete.1) (Magick.boxText_chars wide high complete) .force
  | fill width height crop =>
    refine ⟨_, _, _, rfl, .fill, fun positive => ?_⟩
    obtain ⟨wide, high⟩ : IsLegible width ∧ IsLegible height := isLegible_sides positive short
    exact parse_sides wide high (.inl complete.1) (Magick.boxText_chars wide high complete) .fill

theorem resolve_requested {geometry : String} {modifier : Modifier} {following : List String}
    (asked : target.modifier = .plain ∨ target.modifier = .shrinkOnly ∨ target.modifier = .force)
    (positive : target.IsPositive) (acts : resize.isIdentity = false)
    (resolved : resolve current target .imageMagick = .ok resize)
    (sent : resize.IsSentAs geometry modifier following) :
    (⟨resize.width?, resize.height?, modifier⟩ : TargetGeometry) = target := by
  obtain ⟨width, height, kind⟩ := target
  unfold resolve at resolved
  simp only at asked resolved
  split at resolved
  · cases resolved
    cases acts
  · rcases asked with rfl | rfl | rfl
    · cases resolved
      cases sent
      rfl
    · cases resolved
      split at acts
      · cases acts
      · rename_i outside
        rw [if_neg outside] at sent ⊢
        cases sent
        rfl
    · simp only [forced, nonzero?_of_pos positive.width, nonzero?_of_pos positive.height]
        at resolved
      split at resolved
      · cases resolved
        cases sent
        rfl
      · cases resolved
        cases acts

end Resize

namespace Engine

theorem run_applyResize {resize : Resize} (known : resize.isForCommand = true) (settings : Settings)
    (world : World) (command : MagickCommand) :
    (applyResize ⟨.imageMagick, settings⟩ resize).run ⟨world, some (.magick command)⟩ =
      (.ok (), ⟨world, some (.magick (command.addWords resize.words))⟩) := by
  cases resize with
  | identity =>
    rw [Resize.words, command.addWords_nil]
    rfl
  | scale | unrecognised => cases known
  | fit width height =>
    exact @run_apply_magick settings (.resizeToFit width height) _ rfl world command
  | fill width height crop =>
    exact @run_apply_magick settings (.resizeToFill width height _) _ rfl world command
  | limit width height =>
    exact @run_apply_magick settings (.resizeToLimit width height) _ rfl world command
  | exact width height =>
    exact @run_apply_magick settings (.resizeExact width height) _ rfl world command

/-- What a parsed target comes to on ImageMagick is sent with one geometry, which is parsed as the
sides of the resize, with the modifier of its kind. Sides that are not scaled are parsed as the
target itself. -/
theorem applyResize_sends {geometry : Option String} {target : TargetGeometry}
    {current : CurrentGeometry} {resize : Resize} (settings : Settings)
    (source : current.IsPositive) (parsed : TargetGeometry.parse geometry = .ok target)
    (resolved : Resize.resolve current target .imageMagick = .ok resize)
    (acts : resize.isIdentity = false) :
    ∃ sent modifier following, resize.IsSentAs sent modifier following ∧
      (∀ world command,
        (applyResize ⟨.imageMagick, settings⟩ resize).run ⟨world, some (.magick command)⟩ =
          (.ok (), ⟨world, some (.magick (command.addWords ("-resize" :: sent :: following)))⟩)) ∧
      ((target.CoversBox → resize.IsPositive) →
        TargetGeometry.parse (some sent) = .ok ⟨resize.width?, resize.height?, modifier⟩) ∧
      (target.modifier = .plain ∨ target.modifier = .shrinkOnly ∨ target.modifier = .force →
        TargetGeometry.parse (some sent) = .ok target) := by
  have canonical := TargetGeometry.isCanonical_of_parse parsed
  have filled : target.isIdentity = false := by
    by_contra nothing
    cases (Resize.resolve_identity (Bool.not_eq_false _ ▸ nothing)).symm.trans resolved
    cases acts
  obtain ⟨complete, positive⟩ : resize.IsComplete ∧ (target.CoversBox ∨ resize.IsPositive) := by
    rcases Resize.calculates_resolve .imageMagick source canonical.isPositive filled with
      ⟨other, found, holds⟩ | ⟨fault, -, failed⟩
    · cases found.symm.trans resolved
      exact holds
    · cases failed.symm.trans resolved
  have known := Resize.resolve_isForCommand resolved
  obtain ⟨sent, modifier, following, written, isSent, read⟩ :=
    Resize.words_read known acts complete (Resize.resolve_isShort source canonical resolved)
  refine ⟨sent, modifier, following, isSent, ?_, fun scaled => ?_, fun asked => ?_⟩
  · intro world command
    rw [run_applyResize known, written]
  · exact read (positive.elim scaled id)
  · have other : ¬ target.CoversBox := by
      rintro ⟨covers, -⟩
      rw [covers] at asked
      simp at asked
    rw [read (positive.resolve_left other),
      Resize.resolve_requested asked canonical.isPositive acts resolved isSent]

theorem covering_sent :
    TargetGeometry.parse (some "60x60^") = .ok ⟨some 60, some 60, .fill⟩ ∧
      ∃ sent, (∀ world command,
        (applyResize ⟨.imageMagick, .standard⟩ (.fit (some 80) (some 60))).run
            ⟨world, some (.magick command)⟩ =
          (.ok (), ⟨world, some (.magick (command.addWords ["-resize", sent]))⟩)) ∧
        TargetGeometry.parse (some sent) = .ok ⟨some 80, some 60, .plain⟩ := by
  have parsed : TargetGeometry.parse (some "60x60^") = .ok ⟨some 60, some 60, .fill⟩ := rfl
  have resolved : Resize.resolve ⟨40, 30, 1⟩ ⟨some 60, some 60, .fill⟩ .imageMagick =
      .ok (.fit (some 80) (some 60)) := by decide +kernel
  obtain ⟨sent, modifier, following, isSent, ran, read, -⟩ :=
    applyResize_sends .standard ⟨by decide, by decide⟩ parsed resolved rfl
  cases isSent
  refine ⟨parsed, sent, ran, read fun _ => ?_⟩
  rintro side (given | given) <;> cases given <;> decide

end Engine

end Thumbnailing
