import Thumbnailing.Failure
import Thumbnailing.Json.Writer

set_option autoImplicit false

namespace Thumbnailing

inductive Body where
  | document (value : Value)
  | bytes (content : Bytes)

structure Response where
  status : Nat
  mediaType : String
  headers : List (String × String)
  body : Body
  requestId : Option String

namespace Response

def ofDocument (status : Nat) (value : Value) : Response :=
  ⟨status, "application/json", [], .document value, none⟩

def ofBytes (status : Nat) (mediaType : String) (headers : List (String × String))
    (content : Bytes) : Response :=
  ⟨status, mediaType, ("content-length", natText content.length) :: headers, .bytes content, none⟩

def internalError : Response :=
  ofBytes 500 "text/plain; charset=utf-8" [] "Internal Server Error".toUTF8.toList

def withRequestId (response : Response) (requestId : String) : Response :=
  { response with requestId := some requestId }

end Response

namespace ServiceError

def reservedNames : List String := ["self", "message"]

def withDetails (kind : ErrorKind) (message : String) (details : Entries) :
    Outcome ServiceError :=
  if details.any fun entry => reservedNames.contains entry.1 then .error .mismatchedArguments
  else .ok ⟨kind, message, details⟩

def document (error : ServiceError) : Entries :=
  error.details.foldl (fun entries entry => entries.put entry.1 entry.2)
    [("success", .boolean false), ("error", .text error.kind.code),
      ("message", .text error.message)]

def response (error : ServiceError) : Outcome Response :=
  let document : Value := .dictionary error.document
  if Json.isPortable document then .ok (.ofDocument error.kind.status document)
  else .error .numberOutsideJson

end ServiceError

def Response.answering (requestId : String) (outcome : Outcome Response) : Response :=
  let response : Outcome Response :=
    match outcome with
    | .error (.service error) => error.response
    | outcome => outcome
  match response with
  | .ok response => response.withRequestId requestId
  | .error _ => .internalError

end Thumbnailing
