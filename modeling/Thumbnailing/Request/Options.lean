import Thumbnailing.Directive.LoaderOptions
import Thumbnailing.Geometry.Resize
import Thumbnailing.Json.Reader

set_option autoImplicit false

namespace Thumbnailing

abbrev GeometryParser := String → Outcome TargetGeometry

abbrev SourceParser := Option String → EngineKind → Outcome CurrentGeometry

structure ThumbnailOptions where
  geometry : Option String
  format : Option String
  convertOptions : Option OptionWords
  sourceOptions : Option SourceOptions
  whiny : Bool
  animated : Bool
  autoOrient : Bool
  frameIndex : Nat
  backend : Option String
  geometryParser : Option GeometryParser
  sourceParser : Option SourceParser

namespace ThumbnailOptions

open Text Thumbnailing.Field

def standard : ThumbnailOptions :=
  ⟨some "", none, none, none, true, true, true, 0, none, none, none⟩

def extensionOf (format : String) : Option String :=
  match (trim isBlank format.toList).dropWhile (· == '.') with
  | [] => none
  | chars => some (String.ofList chars)

def itemFaults (location : List LocationStep) : Nat → List Value → List FieldFault
  | _, [] => []
  | index, .text _ :: rest => itemFaults location (index + 1) rest
  | index, _ :: rest =>
    ⟨.notText, location ++ [.index index]⟩ :: itemFaults location (index + 1) rest

def wordListFaults (location : List LocationStep) : Value → List FieldFault
  | .list items => itemFaults location 0 items
  | _ => [⟨.notList, location⟩]

def wordsOf (items : List Value) : List String := items.map Value.display

def readWordList (location : List LocationStep) (value : Value) : FieldResult (List String) :=
  match value, wordListFaults (location ++ [.name "list[str]"]) value with
  | .list items, [] => .ok (wordsOf items)
  | _, faults => .error (⟨.notText, location ++ [.name "str"]⟩ :: faults)

def readOptionWords (location : List LocationStep) : Value → FieldResult OptionWords
  | .text content => .ok (.line content)
  | value => (readWordList location value).map .listed

def readSourceOptions (location : List LocationStep) : Value → FieldResult SourceOptions
  | .dictionary entries => .ok (.table entries)
  | value =>
    match readOptionWords location value with
    | .ok options => .ok (.written options)
    | .error faults =>
      .error (faults ++ [⟨.notDictionary, location ++ [.name "dict[str,any]"]⟩])

def readParser (location : List LocationStep) : Value → FieldResult Unit :=
  fun _ => fault location .notCallable

def fieldNames : List String := [
  "geometry", "format", "convert_options", "source_file_options", "whiny", "animated",
  "auto_orient", "frame_index", "backend", "string_geometry_parser", "file_geometry_parser"]

def optional {Item : Type} (entries : Entries) (name : String) (default : Option Item)
    (read : List LocationStep → Value → FieldResult Item) : FieldResult (Option Item) :=
  readNamed entries name default fun location => readOptional (read location)

def ofEntries (entries : Entries) : Outcome ThumbnailOptions :=
  let geometry := optional entries "geometry" (some "") readText
  let format := optional entries "format" none readText
  let convertOptions := optional entries "convert_options" none readOptionWords
  let sourceOptions := optional entries "source_file_options" none readSourceOptions
  let whiny := readNamed entries "whiny" true readBoolean
  let animated := readNamed entries "animated" true readBoolean
  let autoOrient := readNamed entries "auto_orient" true readBoolean
  let frameIndex := readNamed entries "frame_index" 0 readNatural
  let backend := optional entries "backend" none readText
  let geometryParser := optional entries "string_geometry_parser" none readParser
  let sourceParser := optional entries "file_geometry_parser" none readParser
  let faults := faultsOf geometry ++ faultsOf format ++ faultsOf convertOptions ++
    faultsOf sourceOptions ++ faultsOf whiny ++ faultsOf animated ++ faultsOf autoOrient ++
    faultsOf frameIndex ++ faultsOf backend ++ faultsOf geometryParser ++
    faultsOf sourceParser ++ unknownKeys fieldNames entries
  let record : FieldResult ThumbnailOptions := do
    return {
      geometry := ← geometry
      format := (← format).bind extensionOf
      convertOptions := ← convertOptions
      sourceOptions := ← sourceOptions
      whiny := ← whiny
      animated := ← animated
      autoOrient := ← autoOrient
      frameIndex := ← frameIndex
      backend := ← backend
      geometryParser := none
      sourceParser := none }
  match faults, record with
  | [], .ok options => .ok options
  | faults, _ => .error (.invalidFields faults)

def badRequest (message : String) : Failure := .ofKind .badRequest message []

def firstMessage : List FieldFault → String
  | [] => ""
  | first :: _ => first.problem.message

def ofFormEntries (entries : Entries) : Outcome ThumbnailOptions :=
  -- A form cannot name a parser, so those keys are dropped.
  match ofEntries ((entries.remove "string_geometry_parser").remove "file_geometry_parser") with
  | .error (.invalidFields faults) =>
    .error (badRequest ("Invalid thumbnail options: " ++ firstMessage faults))
  | outcome => outcome

def ofDocument (document : List Char) (limit : Nat) : Outcome ThumbnailOptions :=
  match Json.readDocument document limit with
  | .error (.syntactic problem unread) =>
    .error <| badRequest <|
      "Invalid JSON in 'options' field: " ++ Json.describe document problem unread
  | .error (.numeral fault) => .error (.numeral fault)
  | .error (.tooDeep enclosure) => .error (.documentTooDeep enclosure)
  | .ok (.dictionary entries) => ofFormEntries entries
  | .ok _ => .error (badRequest "'options' field must be a JSON object")

def ofForm (options : Option String) (limit : Nat := Json.usualLimit) : Outcome ThumbnailOptions :=
  match options with
  | none => .ok standard
  | some content => if content.isEmpty then .ok standard else ofDocument content.toList limit

end ThumbnailOptions

end Thumbnailing
