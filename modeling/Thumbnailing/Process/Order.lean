import Thumbnailing.Failure
import Thumbnailing.Text.Utf8

set_option autoImplicit false

namespace Thumbnailing

structure ProcessReport where
  output : Bytes
  errors : Bytes
  -- The code of a signal is negative.
  exitCode : Int

structure ProcessOrder where
  words : List String
  input : Bytes
  timeout : Value
  acceptedCodes : List Int

/-- What comes of starting a program: a failure to do so, or a process, which reports unless it was
stopped for taking too long. -/
abbrev ProcessEnding := Outcome (Option ProcessReport)

namespace ProcessOrder

def tool (order : ProcessOrder) : String := order.words.headD ""

def timedOut (order : ProcessOrder) : Failure :=
  .ofKind .toolTimeout
    ("Tool " ++ order.tool ++ " timed out after " ++ order.timeout.display ++ "s")
    [("tool", .text order.tool), ("timeout", order.timeout)]

-- So many characters of the error stream go into a message.
def shownErrors : Nat := 500

def failed (order : ProcessOrder) (report : ProcessReport) : Failure :=
  .ofKind .processingFailed
    (order.tool ++ " failed with exit code " ++ integerText report.exitCode ++ ": " ++
      String.ofList ((Text.decodeUtf8 report.errors).take shownErrors))
    [("tool", .text order.tool), ("exit_code", .integer report.exitCode)]

def accepts (order : ProcessOrder) (report : ProcessReport) : Bool :=
  report.exitCode == 0 || order.acceptedCodes.contains report.exitCode

def judge (order : ProcessOrder) : Option ProcessReport → Outcome ProcessReport
  | none => .error order.timedOut
  | some report => if order.accepts report then .ok report else .error (order.failed report)

def answer (order : ProcessOrder) (program : ProcessOrder → ProcessEnding) :
    Outcome ProcessReport := do
  order.judge (← program order)

end ProcessOrder

end Thumbnailing
