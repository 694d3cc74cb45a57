import Thumbnailing.Request.Making
import Thumbnailing.Service.FormPart
import Thumbnailing.Service.Response

set_option autoImplicit false

namespace Thumbnailing

structure Upload where
  part : FormPart
  options : Option String

structure Submission where
  file : Option (String × Bytes)
  options : Option String

namespace Upload

def ofSubmission (submission : Submission) : Except FormFault Upload :=
  -- The form that arrives. Without a file it is sent in another way, which knows no limits.
  match submission.file with
  | none => .ok ⟨.missing, submission.options⟩
  | some (name, content) => do
    FormPart.checkText (submission.options.getD "").utf8ByteSize
    return ⟨← FormPart.ofSent name content, submission.options⟩

def refusal (kind message : String) (input : Value) (context : Entries) : Response :=
  .ofDocument 422 <| .dictionary [("detail", .list [.dictionary <|
    [("type", .text kind), ("loc", .texts ["body", "file"]), ("msg", .text message),
      ("input", input)] ++ context])]

def missingFile : Response := refusal "missing" "Field required" .null []

def textForFile (content : String) : Response :=
  refusal "value_error" "Value error, Expected UploadFile, received: <class 'str'>"
    (.text content) [("ctx", .dictionary [("error", .dictionary [])])]

def tooLarge (settings : Settings) (size : Nat) : Failure :=
  .ofKind .fileTooLarge
    ("File size " ++ natText size ++ " bytes exceeds limit of " ++
      integerText settings.maxFileSizeMegabytes ++ " MB")
    [("file_size", .integer size), ("limit", .integer settings.maxFileSizeBytes)]

def checkSize (settings : Settings) (size : Nat) : Outcome Unit :=
  if settings.maxFileSizeBytes < size then .error (tooLarge settings size) else .ok ()

def unlessEmpty (default text : String) : String := if text.isEmpty then default else text

def storedSuffix (filename : Option String) (format : ImageFormat) : String :=
  unlessEmpty ("." ++ format.name) (Path.ofText (filename.getD "")).suffix

def standardStem : String := "upload"

def storedStem (filename : Option String) : String :=
  unlessEmpty standardStem (Path.ofText (unlessEmpty standardStem (filename.getD ""))).stem

def storedName (filename : Option String) (format : ImageFormat) : String :=
  storedStem filename ++ storedSuffix filename format

structure Shipment where
  path : Path
  content : Bytes
  engine : EngineKind
  outcomes : List DirectiveOutcome

def collect (source : Path) : Thumbnail.Product → Task World (Path × Bytes)
  | .source => do return (source, ← Files.read source)
  | .file path => do
    let content ← (Files.read path).attempt
    Files.discard path
    return (path, ← .ofOutcome content)

def makeIn (settings : Settings) (options : ThumbnailOptions) (name : String) (content : Bytes)
    (folder : Path) : Task World Shipment := do
  let source := folder.child name
  Files.write source content
  let thumbnail ← Thumbnail.prepare (.path source) options [] settings
  let (product, outcomes) ← thumbnail.makeAfresh
  let (path, content) ← collect source product
  return ⟨path, content, thumbnail.engine.kind, outcomes⟩

def mediaTypeOf (path : Path) (format : ImageFormat) : String :=
  (ImageFormat.mediaTypeOfExtension? (Text.lowercase path.suffix)).getD format.mediaType

def responseOf (format : ImageFormat) (shipment : Shipment) : Response :=
  let dropped := shipment.outcomes.filter fun outcome => outcome.status != .applied
  .ofBytes 200 (mediaTypeOf shipment.path format)
    [("x-thumbnail-backend", shipment.engine.name),
      ("x-thumbnail-warnings", natText dropped.length)]
    shipment.content

def handleFile (settings : Settings) (options filename : Option String) (content : Bytes) :
    Task World Response := do
  .ofOutcome (checkSize settings content.length)
  let format ← .ofOutcome (ImageFormat.detect content)
  let options ← .ofOutcome (ThumbnailOptions.ofForm options)
  let shipment ← Temporary.withFolder settings.temporaryFolder
    (makeIn settings options (storedName filename format) content)
  return responseOf format shipment

def handle (settings : Settings) (upload : Upload) : Task World Response :=
  -- A text that is empty is no part at all.
  match upload.part with
  | .missing => return missingFile
  | .text content => return if content.isEmpty then missingFile else textForFile content
  | .file name content => handleFile settings upload.options name content

def respond (settings : Settings) (requestId : String) (upload : Upload) :
    Task World Response := do
  return .answering requestId (← (upload.handle settings).attempt)

def unreadableForm (fault : FormFault) : Response :=
  .ofDocument 400 (.dictionary [("detail", .text fault.message)])

def answer (settings : Settings) (requestId : String) (submission : Submission) :
    Task World Response :=
  match ofSubmission submission with
  | .ok upload => upload.respond settings requestId
  | .error fault => return (unreadableForm fault).withRequestId requestId

end Upload

end Thumbnailing
