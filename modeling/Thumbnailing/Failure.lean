import Thumbnailing.Field
import Thumbnailing.Format.Fields

set_option autoImplicit false

namespace Thumbnailing

inductive ErrorKind where
  | internal
  | badRequest
  | invalidGeometry
  | invalidOptions
  | fileTooLarge
  | unreadableSource
  | processingFailed
  | toolTimeout
  | engineUnavailable
  | geometryNotDetected
  deriving DecidableEq, Repr

namespace ErrorKind

def all : List ErrorKind := [
  .internal, .badRequest, .invalidGeometry, .invalidOptions, .fileTooLarge, .unreadableSource,
  .processingFailed, .toolTimeout, .engineUnavailable, .geometryNotDetected]

def code : ErrorKind → String
  | .internal => "internal_error"
  | .badRequest => "bad_request"
  | .invalidGeometry => "invalid_geometry"
  | .invalidOptions => "invalid_options"
  | .fileTooLarge => "file_too_large"
  | .unreadableSource => "unreadable_source"
  | .processingFailed => "processing_failed"
  | .toolTimeout => "tool_timeout"
  | .engineUnavailable => "engine_unavailable"
  | .geometryNotDetected => "geometry_not_detected"

def status : ErrorKind → Nat
  | .badRequest | .invalidGeometry | .invalidOptions => 400
  | .fileTooLarge => 413
  | .unreadableSource | .processingFailed => 422
  | .engineUnavailable => 503
  | .internal | .toolTimeout | .geometryNotDetected => 500

def isProcessing : ErrorKind → Bool
  -- A tool that was stopped for taking too long counts as failed processing.
  | .processingFailed | .toolTimeout => true
  | _ => false

end ErrorKind

structure ServiceError where
  kind : ErrorKind
  message : String
  details : Entries

inductive StorageFault where
  | notFound
  | isDirectory
  | notDirectory
  | alreadyExists
  | accessDenied
  | nameTooLong
  | reported (kind : String)
  deriving DecidableEq, Repr

inductive NameSet where
  | modifier
  | engine
  | sign
  deriving DecidableEq, Repr

def NameSet.label : NameSet → String
  | .modifier => "GeometryModifier"
  | .engine => "EngineKind"
  | .sign => "DirectiveSign"

def Enclosure.label : Enclosure → String
  | .list => "array"
  | .dictionary => "object"

inductive Failure where
  | service (error : ServiceError)
  | arithmetic (fault : ArithmeticFault)
  | numeral (fault : NumeralFault)
  | invalidFields (faults : List FieldFault)
  | storage (fault : StorageFault) (message : String)
  | nulInPath
  | imageLibrary (message : String)
  | absentValue
  | absentHandle
  | unknownName (names : NameSet) (name : Value)
  | unknownSetting (name : String)
  | illegalVariableName
  | unknownResize (kind : String)
  | unknownOperation (shown : String)
  | pipelineWithoutLoad
  | pipelineConsumed
  | documentTooDeep (enclosure : Enclosure)
  | oversizedPicture (pixels limit : Nat)
  | picture (fault : PictureFault)
  | numberOutsideJson
  | unknownLevel
  | levelNamesLayout (layout : String)
  | mismatchedArguments
  | malformedTemplate (message : String)
  | missingKey (key : String)
  | outOfRange (message : String)
  | foreign (kind : String) (message : String)

def ArithmeticFault.message : ArithmeticFault → String
  | .divisionByZero => "division by zero"
  | .integerTooLarge => "int too large to convert to float"
  | .quotientTooLarge => "integer division result too large for a float"
  | .infinityToInteger => "cannot convert float infinity to integer"
  | .undefinedToInteger => "cannot convert float NaN to integer"
  | .squareRootOfNegative => "math domain error"

def NumeralFault.message : NumeralFault → String
  -- A refused text is shown in quotes, cut off after 200 characters.
  | .malformed text =>
    "invalid literal for int() with base 10: " ++
      String.ofList ((Text.quotedChars text.toList).take 200)
  | .tooLong digits =>
    s!"Exceeds the limit ({digitLimit} digits) for integer string conversion: " ++
      s!"value has {digits} digits; use sys.set_int_max_str_digits() to increase the limit"

namespace Failure

def ofKind (kind : ErrorKind) (message : String) (details : Entries) : Failure :=
  .service ⟨kind, message, details⟩

def message : Failure → String
  | .service error => error.message
  | .arithmetic fault => fault.message
  | .numeral fault => fault.message
  | .storage _ message => message
  | .nulInPath => "embedded null byte"
  | .imageLibrary message => message
  | .unknownName names name => name.quoted ++ " is not a valid " ++ names.label
  | .unknownSetting name => "\"Settings\" object has no field \"" ++ name ++ "\""
  | .illegalVariableName => "illegal environment variable name"
  | .unknownResize kind => "Unknown resize kind: " ++ kind
  | .unknownOperation shown => "Unknown pipeline operation: " ++ shown
  | .pipelineWithoutLoad => "A pipeline must start with a Load operation"
  | .pipelineConsumed => "Pipeline has already been run"
  | .documentTooDeep enclosure =>
    "maximum recursion depth exceeded while decoding a JSON " ++ enclosure.label ++
      " from a unicode string"
  | .oversizedPicture pixels limit =>
    "Image size (" ++ natText pixels ++ " pixels) exceeds limit of " ++ natText limit ++
      " pixels, could be decompression bomb DOS attack."
  | .picture fault => fault.message
  | .numberOutsideJson => "Out of range float values are not JSON compliant"
  | .levelNamesLayout layout => "Unknown level: " ++ Text.quoted layout
  | .malformedTemplate message => message
  | .missingKey key => Text.quoted key
  | .outOfRange message => message
  | .foreign _ message => message
  | .invalidFields _ | .absentValue | .absentHandle | .unknownLevel | .mismatchedArguments => ""

def kind? : Failure → Option ErrorKind
  | .service error => some error.kind
  | _ => none

def isStorage : Failure → Bool
  | .storage .. => true
  | _ => false

end Failure

abbrev Outcome (Result : Type) := Except Failure Result

def arithmetically {Result : Type} (result : Except ArithmeticFault Result) : Outcome Result :=
  result.mapError .arithmetic

def numerically {Result : Type} (result : Except NumeralFault Result) : Outcome Result :=
  result.mapError .numeral

end Thumbnailing
