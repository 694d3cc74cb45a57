import Thumbnailing.Json.Writer
import Thumbnailing.Log.Record
import Thumbnailing.Log.Template
import Thumbnailing.Log.Traceback
import Thumbnailing.Text.LetterCase

set_option autoImplicit false

namespace Thumbnailing

structure LogEntry where
  level : Int
  template : String
  values : List Value
  requestId : Option Value
  context : Option Value
  failure : Option Failure

namespace LogEntry

def ofRecord (record : LogRecord) : LogEntry :=
  ⟨record.severity.level, record.message, [], none, record.context, none⟩

def severityName (level : Int) : String :=
  -- Levels between the named ones have no severity of their own.
  match Severity.all.find? fun severity => severity.level == level with
  | some severity => severity.name
  | none => "DEFAULT"

def member (name : String) (value : Option Value) : List (String × List Char) :=
  value.toList.map fun value => (name, Json.write .line value)

def members (entry : LogEntry) (timestamp : String) : Outcome (List (String × List Char)) := do
  let message ← Template.message entry.template entry.values
  return member "severity" (some (.text (severityName entry.level))) ++
    ("message", Json.writtenCodes Json.Layout.line.ascii message) ::
    member "timestamp" (some (.text timestamp)) ++ member "request_id" entry.requestId ++
    member "context" entry.context ++
    member "traceback" (entry.failure.map fun failure => .text failure.traceback)

def line (entry : LogEntry) (timestamp : String) : Outcome String := do
  return Json.object .line (← entry.members timestamp)

end LogEntry

structure Logging where
  threshold : Int
  handlers : Nat
  accessThreshold : Int
  libraryThreshold : Int

namespace Logging

def initial : Logging := ⟨0, 0, 0, 0⟩

def plainCapitals : List (Char × String) := [
  ('ß', "SS"), ('ı', "I"), ('ſ', "S"), ('ﬀ', "FF"), ('ﬁ', "FI"), ('ﬂ', "FL"), ('ﬃ', "FFI"),
  ('ﬄ', "FFL"), ('ﬅ', "ST"), ('ﬆ', "ST")]

def capitalLetters (c : Char) : List Char :=
  match plainCapitals.lookup c with
  | some letters => letters.toList
  | none => [c.toUpper]

def capitals (name : String) : String := String.ofList (name.toList.flatMap capitalLetters)

def thresholds : List (String × Int) := [
  ("CRITICAL", 50),
  ("FATAL", 50),
  ("ERROR", 40),
  ("WARN", 30),
  ("WARNING", 30),
  ("INFO", 20),
  ("DEBUG", 10),
  ("NOTSET", 0)]

def layouts : List (String × Failure) := [
  ("BASIC_FORMAT", .levelNamesLayout "%(levelname)s:%(name)s:%(message)s"),
  ("_STYLES", .mismatchedArguments)]

def thresholdOf (name : String) : Outcome Int :=
  match thresholds.lookup (capitals name) with
  | some threshold => .ok threshold
  | none => .error ((layouts.lookup (capitals name)).getD .unknownLevel)

def setUp (name : String) (_ : Logging) : Outcome Logging := do
  return ⟨← thresholdOf name, 1, Severity.warning.level, Severity.warning.level⟩

def effective (logging : Logging) : Int :=
  if logging.threshold = 0 then Severity.warning.level else logging.threshold

def shows (logging : Logging) (entry : LogEntry) : Bool :=
  0 < entry.level && logging.effective ≤ entry.level

def lines (logging : Logging) (timestamp : String) (entries : List LogEntry) : List String :=
  (entries.filter logging.shows).flatMap fun entry =>
    match entry.line timestamp with
    | .ok line => List.replicate logging.handlers line
    | .error _ => []

end Logging

end Thumbnailing
