import Thumbnailing.Failure

set_option autoImplicit false

namespace Thumbnailing

def ErrorKind.className : ErrorKind → String
  | .internal => "ThumbwrightError"
  | .badRequest => "BadRequestError"
  | .invalidGeometry => "InvalidGeometryError"
  | .invalidOptions => "InvalidOptionsError"
  | .fileTooLarge => "FileTooLargeError"
  | .unreadableSource => "UnreadableSourceError"
  | .processingFailed => "ProcessingError"
  | .toolTimeout => "ToolTimeoutError"
  | .engineUnavailable => "EngineUnavailableError"
  | .geometryNotDetected => "GeometryNotDetectedError"

def StorageFault.className : StorageFault → String
  | .notFound => "FileNotFoundError"
  | .isDirectory => "IsADirectoryError"
  | .notDirectory => "NotADirectoryError"
  | .alreadyExists => "FileExistsError"
  | .accessDenied => "PermissionError"
  | .nameTooLong => "OSError"
  | .reported kind => kind

def ArithmeticFault.className : ArithmeticFault → String
  | .divisionByZero => "ZeroDivisionError"
  | .undefinedToInteger | .squareRootOfNegative => "ValueError"
  | .integerTooLarge | .quotientTooLarge | .infinityToInteger => "OverflowError"

def PictureFault.className : PictureFault → String
  | .noPicture | .tooManySamples | .unknownOrganisation | .unknownPixels => "SyntaxError"
  | .unsupportedContainer => "OSError"
  | .absentEntry _ => "KeyError"
  | .absentSides | .unsuitableValue => "TypeError"
  | .unsuitableSides | .unsuitableTileSides => "ValueError"
  | .contentEnds => "IndexError"
  | .fieldEnds .. => "error"

namespace Failure

def className : Failure → String
  | .service error => error.kind.className
  | .invalidFields _ => "ValidationError"
  | .storage fault _ => fault.className
  | .absentValue | .mismatchedArguments => "TypeError"
  | .absentHandle | .unknownLevel => "AttributeError"
  | .arithmetic fault => fault.className
  | .imageLibrary _ => "VipsError"
  | .pipelineConsumed => "RuntimeError"
  | .documentTooDeep _ => "RecursionError"
  | .oversizedPicture .. => "DecompressionBombError"
  | .picture fault => fault.className
  | .missingKey _ => "KeyError"
  | .outOfRange _ => "OverflowError"
  | .foreign kind _ => kind
  | _ => "ValueError"

def qualifiedName (failure : Failure) : String :=
  if failure.kind?.isSome then "exceptions." ++ failure.className else failure.className

def detailedClasses : List String := ["SyntaxError", "IndentationError", "TabError"]

def traceback (failure : Failure) : String :=
  if !failure.message.isEmpty then failure.qualifiedName ++ ": " ++ failure.message
  else if detailedClasses.contains failure.className then
    failure.qualifiedName ++ ": <no detail available>"
  else failure.qualifiedName

def storageClasses : List String := [
  "OSError", "TimeoutError", "InterruptedError", "BlockingIOError", "ChildProcessError",
  "ProcessLookupError", "ConnectionError", "BrokenPipeError", "ConnectionAbortedError",
  "ConnectionRefusedError", "ConnectionResetError"]

def storageFaults : List StorageFault :=
  [.notFound, .isDirectory, .notDirectory, .alreadyExists, .accessDenied] ++
    storageClasses.map .reported

def classAliases : List (String × String) := [
  ("IOError", "OSError"), ("EnvironmentError", "OSError")]

def named (name message : String) : Failure :=
  let className := (classAliases.lookup name).getD name
  match ErrorKind.all.find? fun kind => kind.className == className with
  | some kind => .ofKind kind message []
  | none =>
    match storageFaults.find? fun fault => fault.className == className with
    | some fault => .storage fault message
    | none =>
      if className == "VipsError" then .imageLibrary message
      else if className == "KeyError" then .missingKey message
      else .foreign className message

end Failure

end Thumbnailing
