import Thumbnailing.Pipeline
import Thumbnailing.Proofs.Engine.HandedOn

set_option autoImplicit false

namespace Thumbnailing.Pipeline

theorem step_magick (settings : Settings) (operation : Operation) :
    step ⟨.imageMagick, settings⟩ operation = execute ⟨.imageMagick, settings⟩ operation := by
  apply Task.ext
  intro session
  rcases executed : (execute ⟨.imageMagick, settings⟩ operation).run session with ⟨outcome, after⟩
  cases outcome with
  | ok result => exact Task.run_rescue_of_ok executed
  | error failure => exact Task.run_rescue_of_error executed

def Compiles (settings : Settings) (operations : List Operation)
    (outcomes : List DirectiveOutcome) (change : MagickCommand → MagickCommand) : Prop :=
  ∀ world command, ∃ results records,
    (Task.forAll (step ⟨.imageMagick, settings⟩) operations).run ⟨world, some (.magick command)⟩ =
        (.ok results, ⟨world.append records, some (.magick (change command))⟩) ∧
      results.filterMap id = outcomes

namespace Compiles

variable {settings : Settings} {operations later : List Operation}
  {outcomes others : List DirectiveOutcome} {change further : MagickCommand → MagickCommand}

theorem nil : Compiles settings [] [] id := by
  intro world command
  exact ⟨[], [], by simp [Task.forAll, World.append_nil], rfl⟩

theorem congr (compiled : Compiles settings operations outcomes change)
    (same : ∀ command, change command = further command) :
    Compiles settings operations outcomes further := by
  rwa [← funext same]

theorem append (first : Compiles settings operations outcomes change)
    (rest : Compiles settings later others further) :
    Compiles settings (operations ++ later) (outcomes ++ others) (further ∘ change) := by
  intro world command
  obtain ⟨results, records, ran, collected⟩ := first world command
  obtain ⟨resultsLater, recordsLater, ranLater, collectedLater⟩ :=
    rest (world.append records) (change command)
  refine ⟨results ++ resultsLater, records ++ recordsLater, ?_, ?_⟩
  · rw [Task.run_forAll_append, Task.run_bind_of_ok ran, Task.run_bind_of_ok ranLater,
      World.append_append]
    rfl
  · rw [List.filterMap_append, collected, collectedLater]

theorem primitive {operation : Operation} (primitive : Primitive) {words : List String}
    (stands : execute ⟨.imageMagick, settings⟩ operation = do
      Engine.apply ⟨.imageMagick, settings⟩ primitive
      return none)
    (added : Magick.primitiveWords primitive = .ok words) :
    Compiles settings [operation] []
      fun command => (Magick.prepare command primitive).addWords words := by
  intro world command
  refine ⟨[none], [], ?_, rfl⟩
  have executed : (Engine.apply ⟨.imageMagick, settings⟩ primitive).run
      ⟨world, some (.magick command)⟩ = _ := Engine.run_apply_magick added world command
  have done : (step ⟨.imageMagick, settings⟩ operation).run ⟨world, some (.magick command)⟩ =
      (.ok none,
        ⟨world, some (.magick ((Magick.prepare command primitive).addWords words))⟩) := by
    rw [step_magick, stands, Task.run_bind_of_ok executed]
    rfl
  rw [Task.run_forAll_single, done, World.append_nil]
  rfl

theorem directives (directives : List Directive) :
    Compiles settings (directives.map .applyDirective) (directives.map Engine.handOnOutcome)
      (·.addWords (directives.flatMap Engine.wordsOf)) := by
  induction directives with
  | nil =>
    exact nil.congr fun command => command.addWords_nil.symm
  | cons directive rest ih =>
    have first : Compiles settings [.applyDirective directive] [Engine.handOnOutcome directive]
        (·.addWords (Engine.wordsOf directive)) := by
      intro world command
      obtain ⟨records, applied⟩ := Engine.run_applyDirective settings directive world command
      refine ⟨[some (Engine.handOnOutcome directive)], records, ?_, rfl⟩
      have done : (step ⟨.imageMagick, settings⟩ (.applyDirective directive)).run
            ⟨world, some (.magick command)⟩ =
          (.ok (some (Engine.handOnOutcome directive)),
            ⟨world.append records,
              some (.magick (command.addWords (Engine.wordsOf directive)))⟩) := by
        have executed : execute ⟨.imageMagick, settings⟩ (.applyDirective directive) =
          some <$> Engine.applyDirective ⟨.imageMagick, settings⟩ directive := rfl
        rw [step_magick, executed, Task.run_map, applied]
        rfl
      rw [Task.run_forAll_single, done]
      rfl
    have both := first.append ih
    simpa [Function.comp_def, MagickCommand.addWords_addWords] using both

end Compiles

end Thumbnailing.Pipeline
