import Thumbnailing.Failure
import Thumbnailing.Text.LetterCase

set_option autoImplicit false

namespace Thumbnailing

structure Settings where
  port : Int
  workers : Int
  maxFileSizeMegabytes : Int
  maxFileSizeBytes : Int
  defaultBackend : String
  useExifOrientation : Bool
  imageMagickPath : String
  toolTimeoutSeconds : Int
  temporaryFolder : String
  logLevel : String

namespace Settings

open Thumbnailing.Field

def bytesPerMegabyte : Int := 1024 * 1024

def completed (settings : Settings) : Settings :=
  if settings.maxFileSizeBytes = 0 then
    { settings with maxFileSizeBytes := settings.maxFileSizeMegabytes * bytesPerMegabyte }
  else settings

def base : Settings := ⟨8080, 4, 32, 0, "image_magick", true, "", 60, "", "ERROR"⟩

def standard : Settings := base.completed

def fieldNames : List String := [
  "port", "workers", "max_file_size_mb", "max_file_size_bytes", "default_backend",
  "use_exif_orientation", "imagemagick_path", "tool_timeout_seconds", "temp_dir", "log_level"]

def entries (settings : Settings) : Entries := [
  ("port", .integer settings.port),
  ("workers", .integer settings.workers),
  ("max_file_size_mb", .integer settings.maxFileSizeMegabytes),
  ("max_file_size_bytes", .integer settings.maxFileSizeBytes),
  ("default_backend", .text settings.defaultBackend),
  ("use_exif_orientation", .boolean settings.useExifOrientation),
  ("imagemagick_path", .text settings.imageMagickPath),
  ("tool_timeout_seconds", .integer settings.toolTimeoutSeconds),
  ("temp_dir", .text settings.temporaryFolder),
  ("log_level", .text settings.logLevel)]

def override (settings : Settings) (entries : Entries) : FieldResult Settings :=
  let port := readNamed entries "port" settings.port readInteger
  let workers := readNamed entries "workers" settings.workers readInteger
  let megabytes := readNamed entries "max_file_size_mb" settings.maxFileSizeMegabytes readInteger
  let bytes := readNamed entries "max_file_size_bytes" settings.maxFileSizeBytes readInteger
  let backend := readNamed entries "default_backend" settings.defaultBackend readText
  let exif := readNamed entries "use_exif_orientation" settings.useExifOrientation readBoolean
  let path := readNamed entries "imagemagick_path" settings.imageMagickPath readText
  let timeout := readNamed entries "tool_timeout_seconds" settings.toolTimeoutSeconds readInteger
  let folder := readNamed entries "temp_dir" settings.temporaryFolder readText
  let logLevel := readNamed entries "log_level" settings.logLevel readText
  let faults := faultsOf port ++ faultsOf workers ++ faultsOf megabytes ++ faultsOf bytes ++
    faultsOf backend ++ faultsOf exif ++ faultsOf path ++ faultsOf timeout ++ faultsOf folder ++
    faultsOf logLevel ++ unknownKeys fieldNames entries
  let record : FieldResult Settings := do
    return ⟨← port, ← workers, ← megabytes, ← bytes, ← backend, ← exif, ← path, ← timeout,
      ← folder, ← logLevel⟩
  match faults, record with
  | [], .ok settings => .ok settings
  | faults, _ => .error faults

def assign (settings : Settings) (entry : String × Value) : Settings :=
  match entry with
  | ("port", .integer port) => { settings with port }
  | ("workers", .integer workers) => { settings with workers }
  | ("max_file_size_mb", .integer megabytes) =>
    { settings with maxFileSizeMegabytes := megabytes }
  | ("max_file_size_bytes", .integer bytes) => { settings with maxFileSizeBytes := bytes }
  | ("default_backend", .text name) => { settings with defaultBackend := name }
  | ("default_backend", .null) => { settings with defaultBackend := "" }
  | ("use_exif_orientation", value) => { settings with useExifOrientation := !value.isVacant }
  | ("imagemagick_path", .text folder) => { settings with imageMagickPath := folder }
  | ("imagemagick_path", .null) => { settings with imageMagickPath := "" }
  | ("tool_timeout_seconds", .integer seconds) => { settings with toolTimeoutSeconds := seconds }
  | ("temp_dir", .text folder) => { settings with temporaryFolder := folder }
  | ("temp_dir", .null) => { settings with temporaryFolder := "" }
  | ("log_level", .text name) => { settings with logLevel := name }
  | _ => settings

def assignAll (settings : Settings) (entries : Entries) : Outcome Settings :=
  match entries.find? fun entry => !fieldNames.contains entry.1 with
  | some entry => .error (.unknownSetting entry.1)
  | none => .ok (entries.foldl assign settings)

def underFieldName (entry : String × Value) : String × Value :=
  let name := Text.lowercase entry.1
  if fieldNames.contains name then (name, entry.2) else entry

def variableEntries (environment : List (String × String)) : Entries :=
  (environment.map fun given => underFieldName (given.1, .text given.2)).filter
    fun entry => fieldNames.contains entry.1

def allEntries (environment : List (String × String)) (values : Entries) : Entries :=
  -- All entries, where the first one for a field counts: the values come before the variables, and
  -- a later variable before an earlier one.
  values.map underFieldName ++ (variableEntries environment).reverse

def variableFault? (given : String × String) : Option Failure :=
  if (given.1 ++ given.2).toList.contains '\x00' then some .nulInPath
  else if given.1.toList.contains '=' then some .illegalVariableName
  else if given.1.isEmpty then some (.storage (.reported "OSError") "Invalid argument")
  else none

def load (environment : List (String × String)) (values : Entries) : Outcome Settings := do
  if let some failure := environment.findSome? variableFault? then throw failure
  match base.override (allEntries environment values) with
  | .ok settings => .ok settings.completed
  | .error faults => .error (.invalidFields faults)

end Settings

end Thumbnailing
