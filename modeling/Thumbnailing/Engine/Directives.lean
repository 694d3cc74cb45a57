import Thumbnailing.Directive.Argument
import Thumbnailing.Engine.Basic

set_option autoImplicit false

namespace Thumbnailing.Engine

def surplusWords (directive : Directive) : List String :=
  directive.arguments.drop (Vocabulary.argumentCount directive.key)

def keptWords (directive : Directive) : List String :=
  directive.flag :: directive.arguments.take (Vocabulary.argumentCount directive.key)

def notAllowedMessage (word : String) : String := "Warning: Option " ++ word ++ " is not allowed."

def surplusRecord (directive : Directive) (word : String) : LogRecord :=
  -- A surplus word could be read as a file, so it is left out.
  ⟨.warning, .mapper, notAllowedMessage word, some (.dictionary
    [("directive", .text directive.flag), ("dropped", .text word)])⟩

def drop (directive : Directive) (status : DirectiveStatus) (message : String) :
    Task World DirectiveOutcome := do
  log (DirectiveOutcome.dropRecord directive status message)
  return ⟨directive, status, some message⟩

def handOn (engine : Engine) (directive : Directive) : Task Session DirectiveOutcome := do
  if Vocabulary.isAllowed directive.key then
    let surplus := surplusWords directive
    onWorld (logAll (surplus.map (surplusRecord directive)))
    engine.apply (.passThrough (keptWords directive))
    return ⟨directive, .applied, surplus.getLast?.map notAllowedMessage⟩
  else onWorld (drop directive .disallowed (notAllowedMessage directive.name))

def qualityStep (value : Option String) : Outcome (Option Primitive) :=
  match Argument.number? value with
  | none => .ok none
  | some number => (arithmetically number.truncate).map fun quality => some (.setQuality quality)

def blurStep (value : Option String) : Option Primitive :=
  match Argument.blurSigma? value with
  | none => none
  | some sigma => if sigma.isZero then none else some (.gaussianBlur (.real sigma))

def colourSpaceStep (value : Option String) : Option Primitive :=
  match value with
  | none => none
  | some name => if name.isEmpty then none else some (.setColourSpace name)

def isInterlaced (value : Option String) : Bool :=
  match value with
  | none => true
  | some word => Text.lowercase word != "none"

/-- What a directive does with its value; no step if the value is of no use. -/
abbrev DirectiveStep := Option String → Outcome (Option Primitive)

def plainStep (primitive : Primitive) : DirectiveStep := fun _ => .ok (some primitive)

def directiveSteps : List (String × DirectiveStep) := [
  ("strip", plainStep .strip),
  ("quality", qualityStep),
  ("rotate", fun value => .ok ((Argument.number? value).map fun x => .rotate (.real x))),
  ("flip", plainStep .flip),
  ("flop", plainStep .flop),
  ("blur", fun value => .ok (blurStep value)),
  ("gaussian_blur", fun value => .ok (blurStep value)),
  ("sharpen", plainStep .sharpen),
  ("colorspace", fun value => .ok (colourSpaceStep value)),
  ("flatten", plainStep (.flatten Primitive.standardBackground)),
  ("negate", plainStep .negate),
  ("invert", plainStep .negate),
  ("auto_orient", plainStep .autoOrient),
  ("interlace", fun value => .ok (some (.interlace (isInterlaced value))))]

def unsupportedMessage (option : String) : String :=
  "Warning: " ++ option ++ " is not supported with vips backend, skipping"

def skipRecord (directive : Directive) : LogRecord :=
  .debug .mapper ("Skipping -" ++ directive.key ++ ": missing or invalid value " ++
    (Value.optionalText directive.value).quoted)

def carryOut (engine : Engine) (directive : Directive) (step : DirectiveStep) :
    Task Session DirectiveOutcome := do
  match ← .ofOutcome (step directive.value) with
  | some primitive =>
    engine.apply primitive
    return .applied directive
  | none =>
    onWorld (log (skipRecord directive))
    return .skipped directive

def interpret (engine : Engine) (directive : Directive) : Task Session DirectiveOutcome :=
  match directive.sign, directiveSteps.lookup directive.key with
  | .plus, _ =>
    onWorld (drop directive .unsupported (unsupportedMessage ("+" ++ directive.name)))
  | .minus, none =>
    onWorld (drop directive .unsupported (unsupportedMessage ("-" ++ directive.key)))
  | .minus, some step => engine.carryOut directive step

def applyDirective (engine : Engine) (directive : Directive) : Task Session DirectiveOutcome :=
  if engine.passesOptions then engine.handOn directive else engine.interpret directive

end Thumbnailing.Engine
