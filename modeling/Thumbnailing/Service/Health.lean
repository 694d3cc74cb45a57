import Thumbnailing.Engine.Magick
import Thumbnailing.Log.Threshold
import Thumbnailing.Service.Response

set_option autoImplicit false

namespace Thumbnailing

structure EngineReport where
  magick : Bool
  convert : Bool
  identify : Bool
  library : Bool
  frameReader : Bool

namespace EngineReport

def check (settings : Settings) : Task World EngineReport := do
  let magick ← Magick.lookUp settings "magick"
  let convert ← Magick.lookUp settings "convert"
  let identify ← Magick.lookUp settings "identify"
  let machine := (← .read).machine
  return ⟨magick.isSome, convert.isSome, identify.isSome, machine.hasLibrary,
    machine.hasFrameReader⟩

def entries (report : EngineReport) : List (String × Bool) := [
  ("magick", report.magick),
  ("convert", report.convert),
  ("identify", report.identify),
  ("pyvips", report.library),
  ("pillow", report.frameReader)]

def document (report : EngineReport) : Value :=
  .dictionary (report.entries.map fun (name, isThere) => (name, .boolean isThere))

def isComplete (report : EngineReport) : Bool :=
  -- One program for all commands is as good as one for each.
  (report.magick || (report.convert && report.identify)) && report.library && report.frameReader

def missing (report : EngineReport) : List String :=
  (report.entries.filter fun entry => !entry.2).map Prod.fst

def version : String := "0.1.0"

def response (report : EngineReport) (settings : Settings) : Response :=
  .ofDocument 200 <| .dictionary [
    ("status", .text (if report.isComplete then "ok" else "degraded")),
    ("engines", report.document),
    ("default_backend", .text settings.defaultBackend),
    ("version", .text version)]

def respond (settings : Settings) (requestId : String) : Task World Response := do
  let report ← check settings
  return .answering requestId (.ok (report.response settings))

def missingRecord (names : List String) : LogRecord :=
  ⟨.warning, .main, "Missing engines: " ++ (Value.texts names).quoted, some (.dictionary
    [("missing_engines", .texts names)])⟩

def shutdownRecord : LogRecord := .plain .info .main "Thumbwright shutting down"

def records (report : EngineReport) : List LogRecord :=
  (if report.missing.isEmpty then [] else [missingRecord report.missing]) ++ [shutdownRecord]

def lifetimeLines (report : EngineReport) (settings : Settings) (timestamp : String) :
    Outcome (List String) := do
  let logging ← Logging.initial.setUp settings.logLevel
  return logging.lines timestamp (report.records.map .ofRecord)

end EngineReport

end Thumbnailing
