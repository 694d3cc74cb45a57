import Thumbnailing.Engine.Directives

set_option autoImplicit false

namespace Thumbnailing

inductive Operation where
  | load (source : Option Path) (options : Entries)
  | selectFrame (index : Int)
  | selectAllFrames
  | autoOrient
  | resize (resize : Resize)
  | optimizeFrames
  | applyDirective (directive : Directive)
  | convertFormat (extension : String)
  | save (destination : Path)
  | unknown (shown : String)

def Operation.isLoad : Operation → Bool
  | .load .. => true
  | _ => false

structure Pipeline where
  operations : List Operation
  isConsumed : Bool

namespace Pipeline

def ofOperations (operations : List Operation) : Outcome Pipeline :=
  if operations.head?.any Operation.isLoad then .ok ⟨operations, false⟩
  else .error .pipelineWithoutLoad

def optimizationRecord (engine : Engine) : LogRecord :=
  .debug .compiler (engine.kind.displayName ++ " has no multi-frame optimization, skipping")

def execute (engine : Engine) (operation : Operation) :
    Task Session (Option DirectiveOutcome) := do
  match operation with
  | .load source options => engine.load source options
  | .selectFrame index => engine.apply (.selectFrame index)
  | .selectAllFrames => engine.apply .selectAllFrames
  | .autoOrient => engine.apply .autoOrient
  | .resize resize => engine.applyResize resize
  | .optimizeFrames =>
    engine.apply .optimizeFrames
    if !engine.optimizesFrames then Engine.onWorld (log (optimizationRecord engine))
  | .applyDirective directive => return some (← engine.applyDirective directive)
  | .convertFormat extension => engine.apply (.convertFormat extension)
  | .save destination => engine.save destination
  | .unknown shown => .fail (.unknownOperation shown)
  return none

def step (engine : Engine) (operation : Operation) : Task Session (Option DirectiveOutcome) :=
  (execute engine operation).rescue fun failure => .fail (engine.translated failure)

def perform (engine : Engine) (operations : List Operation) :
    Task World (List DirectiveOutcome) :=
  Task.onPart (fun world => ⟨world, none⟩) (fun _ session => session.world) do
    return (← Task.forAll (step engine) operations).filterMap id

def run (engine : Engine) : Task (World × Pipeline) (List DirectiveOutcome) :=
  ⟨fun (world, pipeline) =>
    if pipeline.isConsumed then (.error .pipelineConsumed, world, pipeline)
    else
      let (outcome, world) := (perform engine pipeline.operations).run world
      (outcome, world, { pipeline with isConsumed := true })⟩

theorem run_again (engine : Engine) (world : World) (pipeline : Pipeline) :
    ((run engine).run ((run engine).run (world, pipeline)).2).1 =
      .error .pipelineConsumed := by
  unfold run
  by_cases used : pipeline.isConsumed <;> simp [used]

end Pipeline

end Thumbnailing
