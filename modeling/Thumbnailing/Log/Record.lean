import Thumbnailing.Value

set_option autoImplicit false

namespace Thumbnailing

inductive Severity where
  | debug
  | info
  | warning
  | error
  | critical
  deriving DecidableEq, Repr

inductive Component where
  | tokenizer
  | mapper
  | imageMagick
  | vips
  | router
  | compiler
  | thumbnail
  | main
  deriving DecidableEq, Repr

namespace Severity

def all : List Severity := [.debug, .info, .warning, .error, .critical]

def name : Severity → String
  | .debug => "DEBUG"
  | .info => "INFO"
  | .warning => "WARNING"
  | .error => "ERROR"
  | .critical => "CRITICAL"

def level : Severity → Int
  | .debug => 10
  | .info => 20
  | .warning => 30
  | .error => 40
  | .critical => 50

end Severity

namespace Component

def name : Component → String
  | .tokenizer => "thumbwright.directives.tokenizer"
  | .mapper => "thumbwright.directives.mapper"
  | .imageMagick => "thumbwright.engines.imagemagick"
  | .vips => "thumbwright.engines.vips"
  | .router => "thumbwright.engines.router"
  | .compiler => "thumbwright.pipeline.compiler"
  | .thumbnail => "thumbwright.pipeline.thumbnail"
  | .main => "thumbwright.main"

end Component

structure LogRecord where
  severity : Severity
  component : Component
  message : String
  context : Option Value

namespace LogRecord

def plain (severity : Severity) (component : Component) (message : String) : LogRecord :=
  ⟨severity, component, message, none⟩

def warning (component : Component) (message : String) : LogRecord :=
  plain .warning component message

def debug (component : Component) (message : String) : LogRecord :=
  plain .debug component message

def notAllowed (component : Component) (word : String) : LogRecord :=
  warning component ("Warning: Option " ++ word ++ " is not allowed.")

end LogRecord

end Thumbnailing
