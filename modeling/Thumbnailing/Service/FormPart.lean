import Thumbnailing.Text.Utf8

set_option autoImplicit false

namespace Thumbnailing

inductive FormPart where
  | missing
  | text (content : String)
  | file (name : Option String) (content : Bytes)

inductive FormFault where
  | longHead
  | longText
  deriving DecidableEq, Repr

def FormFault.message : FormFault → String
  | .longHead => "Invalid multipart data."
  | .longText => "Part exceeded maximum size of 1024KB."

namespace FormPart

def needsCode (c : Char) : Bool := (c.toNat < 0x20 && c.toNat != 0x1B) || c == '"'

def writtenChar (c : Char) : List Char :=
  if needsCode c then '%' :: (Text.hexChars 2 c.toNat).map Char.toUpper else [c]

def isOnDrive (name : List Char) : Bool :=
  match name with
  | '\\' :: '\\' :: _ => true
  | drive :: ':' :: '\\' :: _ => drive.toNat < 0x80
  | _ => false

def lastStep (name : List Char) : List Char :=
  -- Of a path on a drive only the last step counts.
  if isOnDrive name then (name.reverse.takeWhile (· != '\\')).reverse else name

def arrivedName (name : String) : String :=
  String.ofList (lastStep (name.toList.flatMap writtenChar))

def textOf (content : Bytes) : String :=
  let decoded := String.ofList (Text.decodeUtf8 content)
  if Text.encodeUtf8 decoded = content then decoded
  else String.ofList (content.map fun byte => Char.ofNat byte.toNat)

def sentChar (c : Char) : List Char := if c = '\\' then [c, c] else writtenChar c

def sentHead (name : String) : String :=
  "Content-Disposition: form-data; name=\"file\"; filename=\"" ++
    String.ofList (name.toList.flatMap sentChar) ++ "\""

def headLimit : Nat := 4096

def textLimit : Nat := 1024 * 1024

def checkText (length : Nat) : Except FormFault Unit :=
  if textLimit < length then .error .longText else .ok ()

def ofSent (name : String) (content : Bytes) : Except FormFault FormPart := do
  if name.isEmpty then
    checkText content.length
    return .text (textOf content)
  else if headLimit < (sentHead name).utf8ByteSize then throw .longHead
  else return .file (some (arrivedName name)) content

end FormPart

end Thumbnailing
