import Thumbnailing.Directive.LoaderOptions
import Thumbnailing.Engine.Directives
import Thumbnailing.Proofs.Directive.Names
import Thumbnailing.Proofs.Directive.ReadBack
import Thumbnailing.Proofs.Engine.Commands
import Thumbnailing.Proofs.World.Plain

set_option autoImplicit false

namespace Thumbnailing.Engine

def wordsOf (directive : Directive) : List String :=
  if Vocabulary.isAllowed directive.key then keptWords directive else []

def handOnOutcome (directive : Directive) : DirectiveOutcome :=
  if Vocabulary.isAllowed directive.key then
    ⟨directive, .applied, (surplusWords directive).getLast?.map notAllowedMessage⟩
  else ⟨directive, .disallowed, some (notAllowedMessage directive.name)⟩

@[simp] theorem handOnOutcome_directive (directive : Directive) :
    (handOnOutcome directive).directive = directive := by
  unfold handOnOutcome
  split <;> rfl

@[simp] theorem handOnOutcome_isApplied (directive : Directive) :
    (handOnOutcome directive).isApplied = Vocabulary.isAllowed directive.key := by
  unfold handOnOutcome
  split
  · rename_i allowed
    rw [allowed]
    rfl
  · rename_i disallowed
    rw [Bool.not_eq_true] at disallowed
    rw [disallowed]
    rfl

theorem run_applyDirective (settings : Settings) (directive : Directive) (world : World)
    (command : MagickCommand) :
    ∃ records, (applyDirective ⟨.imageMagick, settings⟩ directive).run
        ⟨world, some (.magick command)⟩ =
      (.ok (handOnOutcome directive),
        ⟨world.append records, some (.magick (command.addWords (wordsOf directive)))⟩) := by
  have handed : applyDirective ⟨.imageMagick, settings⟩ directive =
      handOn ⟨.imageMagick, settings⟩ directive := if_pos rfl
  rw [handed]
  by_cases allowed : Vocabulary.isAllowed directive.key = true
  · refine ⟨(surplusWords directive).map (surplusRecord directive), ?_⟩
    have passed : Magick.primitiveWords (.passThrough (keptWords directive)) =
      .ok (keptWords directive) := rfl
    simp only [handOn, wordsOf, handOnOutcome, if_pos allowed, Task.run_bind, run_onWorld,
      run_logAll, run_apply_magick passed, Task.run_pure]
    rfl
  · refine ⟨[DirectiveOutcome.dropRecord directive .disallowed (notAllowedMessage directive.name)],
      ?_⟩
    simp only [handOn, wordsOf, handOnOutcome, if_neg allowed, run_onWorld, drop, Task.run_bind,
      run_log, Task.run_pure, MagickCommand.addWords_nil]

theorem run_applyDirectives (settings : Settings) (directives : List Directive) (world : World)
    (command : MagickCommand) :
    ∃ records, (Task.forAll (applyDirective ⟨.imageMagick, settings⟩) directives).run
        ⟨world, some (.magick command)⟩ =
      (.ok (directives.map handOnOutcome),
        ⟨world.append records,
          some (.magick (command.addWords (directives.flatMap wordsOf)))⟩) := by
  -- World and command are general: each directive starts from what the earlier ones left.
  induction directives generalizing world command with
  | nil => exact ⟨[], by simp [Task.forAll, World.append_nil, MagickCommand.addWords_nil]⟩
  | cons directive rest ih =>
    obtain ⟨first, applied⟩ := run_applyDirective settings directive world command
    obtain ⟨others, later⟩ := ih (world.append first) (command.addWords (wordsOf directive))
    refine ⟨first ++ others, ?_⟩
    rw [Task.forAll, Task.run_bind_of_ok applied, Task.run_bind_of_ok later,
      World.append_append, MagickCommand.addWords_addWords]
    rfl

theorem wordsOf_allowed (directives : List Directive) :
    directives.flatMap wordsOf =
      (directives.filter fun directive => Vocabulary.isAllowed directive.key).flatMap
        keptWords := by
  induction directives with
  | nil => simp only [List.flatMap_nil, List.filter_nil]
  | cons directive rest ih =>
    rw [List.flatMap_cons, ih, List.filter_cons, wordsOf]
    by_cases allowed : Vocabulary.isAllowed directive.key = true
    · rw [if_pos allowed, if_pos allowed, List.flatMap_cons]
    · rw [if_neg allowed, if_neg allowed, List.nil_append]

theorem applied_allowed (directives : List Directive) :
    ((directives.map handOnOutcome).filter DirectiveOutcome.isApplied).map
        DirectiveOutcome.directive =
      directives.filter fun directive => Vocabulary.isAllowed directive.key := by
  simp [List.filter_map, Function.comp_def]

def reading (directive : Directive) : String × List String :=
  (directive.flag, directive.arguments.take (Vocabulary.argumentCount directive.key))

def isShort (directive : Directive) : Bool :=
  directive.arguments.length < Vocabulary.argumentCount directive.key

theorem wordsOf_written (directives : List Directive) :
    directives.flatMap wordsOf =
      Vocabulary.written
        ((directives.filter fun directive => Vocabulary.isAllowed directive.key).map reading) := by
  have kept : keptWords = fun directive => (reading directive).1 :: (reading directive).2 := by
    funext directive
    rw [keptWords, reading]
  rw [wordsOf_allowed, Vocabulary.written, List.flatMap_map, kept]

theorem reading_full (directive : Directive) :
    (reading directive).2.length = Vocabulary.argumentCount (reading directive).1 ↔
      isShort directive = false := by
  simp only [reading, Directive.argumentCount_flag, List.length_take, isShort,
    decide_eq_false_iff_not]
  omega

theorem readBack_wordsOf (directives : List Directive) :
    Vocabulary.readBack (directives.flatMap wordsOf) =
        some ((directives.filter fun directive => Vocabulary.isAllowed directive.key).map reading) ↔
      ∀ directive ∈ directives, Vocabulary.isAllowed directive.key = true →
        isShort directive = false := by
  rw [wordsOf_written, Vocabulary.readBack_written]
  constructor
  · intro full directive member allowed
    exact (reading_full directive).mp
      (full _ (List.mem_map_of_mem (List.mem_filter.mpr ⟨member, allowed⟩)))
  · intro full found member
    obtain ⟨directive, inside, rfl⟩ := List.mem_map.mp member
    obtain ⟨present, allowed⟩ := List.mem_filter.mp inside
    exact (reading_full directive).mpr (full directive present allowed)

theorem applied_readings (directives : List Directive) :
    ((directives.map handOnOutcome).filter DirectiveOutcome.isApplied).map
        (fun outcome => reading outcome.directive) =
      (directives.filter fun directive => Vocabulary.isAllowed directive.key).map reading := by
  rw [← applied_allowed, List.map_map]
  rfl

/-- The words that directives add to a command are read back as those that were applied, each with
the words it was left with, exactly if none of these is short of words. -/
theorem readBack_handedOn (settings : Settings) (directives : List Directive) (world : World)
    (command : MagickCommand) :
    ∃ outcomes after words,
      (Task.forAll (applyDirective ⟨.imageMagick, settings⟩) directives).run
          ⟨world, some (.magick command)⟩ =
        (.ok outcomes, ⟨after, some (.magick (command.addWords words))⟩) ∧
      outcomes.map DirectiveOutcome.directive = directives ∧
      (Vocabulary.readBack words =
          some ((outcomes.filter DirectiveOutcome.isApplied).map
            fun outcome => reading outcome.directive) ↔
        ∀ outcome ∈ outcomes, outcome.isApplied = true →
          Vocabulary.argumentCount outcome.directive.key ≤ outcome.directive.arguments.length) := by
  obtain ⟨records, applied⟩ := run_applyDirectives settings directives world command
  refine ⟨_, _, _, applied, by simp [Function.comp_def], ?_⟩
  rw [applied_readings, readBack_wordsOf]
  simp [isShort]

def shortWords : List String := ["-resize", "-label", "/tmp/a.png"]

/-- An option that is short of words takes the flag after it for its own, and the word of that
flag is left standing. -/
theorem short_option_leaves_word :
    ¬ ∀ (settings : Settings) (options : Option OptionWords) (tokens : Tokens),
      Tokens.ofOptions options = .ok tokens →
      (∀ directive ∈ tokens.directives, directive.sign = .minus) →
      ∀ (world after : World) (command : MagickCommand) (outcomes : List DirectiveOutcome)
        (words : List String),
      (Task.forAll (applyDirective ⟨.imageMagick, settings⟩) tokens.directives).run
          ⟨world, some (.magick command)⟩ =
        (.ok outcomes, ⟨after, some (.magick (command.addWords words))⟩) →
      Vocabulary.readBack words =
        some ((outcomes.filter DirectiveOutcome.isApplied).map
          fun outcome => reading outcome.directive) := by
  intro claimed
  obtain ⟨records, applied⟩ := run_applyDirectives Settings.standard
    (Tokens.ofWords shortWords).directives World.plain (Magick.load none [])
  have back := claimed Settings.standard (some (.listed shortWords)) (.ofWords shortWords) rfl
    (by decide +kernel) _ _ _ _ _ applied
  -- The first option takes one word and has none, so the reader gives it the next flag.
  rw [applied_readings, readBack_wordsOf] at back
  exact absurd back (by decide +kernel)

end Thumbnailing.Engine
