import Thumbnailing.Directive.Basic
import Thumbnailing.Log.Record
import Thumbnailing.Number.Numeral

set_option autoImplicit false

namespace Thumbnailing

namespace Argument

def number? (value : Option String) : Option Binary64 := value.bind numberOfText?

def afterLastX (value : List Char) : List Char :=
  (value.reverse.takeWhile (· != 'x')).reverse

def blurSigma? (value : Option String) : Option Binary64 :=
  value.bind fun content => numberOfText? (String.ofList (afterLastX content.toList))

end Argument

inductive DirectiveStatus where
  | applied
  | disallowed
  | unsupported
  | skipped
  deriving DecidableEq, Repr

def DirectiveStatus.name : DirectiveStatus → String
  | .applied => "applied"
  | .disallowed => "disallowed"
  | .unsupported => "unsupported"
  | .skipped => "skipped"

structure DirectiveOutcome where
  directive : Directive
  status : DirectiveStatus
  message : Option String
  deriving DecidableEq, Repr

namespace DirectiveOutcome

def applied (directive : Directive) : DirectiveOutcome := ⟨directive, .applied, none⟩

def skipped (directive : Directive) : DirectiveOutcome := ⟨directive, .skipped, none⟩

def isApplied (outcome : DirectiveOutcome) : Bool := outcome.status == .applied

def dropRecord (directive : Directive) (status : DirectiveStatus) (message : String) :
    LogRecord :=
  ⟨.warning, .mapper, message, some (.dictionary
    [("directive", .text directive.flag), ("status", .text status.name)])⟩

end DirectiveOutcome

end Thumbnailing
