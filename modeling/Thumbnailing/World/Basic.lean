import Thumbnailing.Imaging.Transformation
import Thumbnailing.Log.Record
import Thumbnailing.Process.Order
import Thumbnailing.Storage.FileTree
import Thumbnailing.Task

set_option autoImplicit false

namespace Thumbnailing

inductive Call where
  | lookUp (program searchPath : String)
  | tool (words : List String) (timeout : Int)
  | openPicture (path : String) (options : Entries) (result : Option Nat)
  | transform (transformation : Transformation) (on : Nat) (result : Option Nat)
  | setMetadata (on : Nat) (name : String) (value : Value)
  | encode (on : Nat) (extension : String) (options : Entries)

namespace Call

def method : Call → String
  | .lookUp .. => "which"
  | .tool .. => "run_tool"
  | .openPicture .. => "new_from_file"
  | .transform transformation .. => transformation.method
  | .setMetadata .. => "set_type"
  | .encode .. => "write_to_buffer"

def on? : Call → Option Nat
  | .transform _ on _ => some on
  | .setMetadata on _ _ => some on
  | .encode on _ _ => some on
  | _ => none

def result? : Call → Option Nat
  | .openPicture _ _ result => result
  | .transform _ _ result => result
  | _ => none

def metadataType : String := "gint"

def arguments : Call → List Argument
  | .lookUp program _ => [.value (.text program)]
  | .tool words _ => [.value (.texts words)]
  | .openPicture path _ _ => [.value (.text path)]
  | .transform transformation _ _ => transformation.arguments
  | .setMetadata _ name value => [.value (.text metadataType), .value (.text name), .value value]
  | .encode _ extension _ => [.value (.text extension)]

def namedArguments : Call → Entries
  | .lookUp _ searchPath => [("path", .text searchPath)]
  | .tool _ timeout => [("timeout", .integer timeout)]
  | .openPicture _ options _ => options
  | .transform transformation _ _ => transformation.namedArguments
  | .setMetadata .. => []
  | .encode _ _ options => options

end Call

/-- What a tool does when it is run: what its output file holds by the time it is over, and how it
ends. A tool that fails or is stopped may have written some of its output by then. -/
structure ToolReply where
  left : Option Bytes
  ending : ProcessEnding

namespace ToolReply

def output (bytes : Bytes) : ToolReply := ⟨none, .ok (some ⟨bytes, [], 0⟩)⟩

def writes (content : Bytes) : ToolReply := ⟨some content, .ok (some ⟨[], [], 0⟩)⟩

def fails (failure : Failure) : ToolReply := ⟨none, .error failure⟩

end ToolReply

structure ToolReplies where
  identify : ToolReply
  frames : ToolReply
  convert : ToolReply

structure WriteFault where
  -- How much of the content the file holds by then; none if it cannot even be opened.
  kept : Option Nat
  fault : StorageFault

structure Machine where
  programs : List (String × String)
  searchPath : String
  replies : ToolReplies
  hasLibrary : Bool
  -- Why the library cannot be loaded where there is none.
  libraryProblem : String
  -- Whether there is a reader that counts the frames of a file.
  hasFrameReader : Bool
  source : Raster
  -- What is opened instead when all pages are asked for.
  allPages : Option Raster
  -- The methods of the library that fail every time.
  libraryFaults : List (String × Failure)
  -- What any single question to the library fails with, by its number.
  lapses : Nat → Option Failure := fun _ => none
  readFaults : Path → Option StorageFault := fun _ => none
  writeFaults : Path → Option WriteFault := fun _ => none

def Machine.fault? (machine : Machine) (number : Nat) (method : String) : Option Failure :=
  (machine.lapses number).or (machine.libraryFaults.lookup method)

structure World where
  machine : Machine
  workingFolder : Location
  files : FileTree
  libraryLoaded : Bool
  pictureCount : Nat
  calls : List Call
  log : List LogRecord
  -- The methods of the library that were asked for so far. Looks at metadata are no calls.
  asked : List String := []

namespace World

def record (world : World) (call : Call) : World := { world with calls := world.calls ++ [call] }

def append (world : World) (records : List LogRecord) : World :=
  { world with log := world.log ++ records }

def asking (world : World) (methods : List String) : World :=
  { world with asked := world.asked ++ methods }

def fresh (world : World) : World := { world with calls := [], log := [] }

@[simp] theorem record_files (world : World) (call : Call) :
    (world.record call).files = world.files := rfl

@[simp] theorem append_files (world : World) (records : List LogRecord) :
    (world.append records).files = world.files := rfl

@[simp] theorem append_calls (world : World) (records : List LogRecord) :
    (world.append records).calls = world.calls := rfl

@[simp] theorem asking_calls (world : World) (methods : List String) :
    (world.asking methods).calls = world.calls := rfl

end World

def logAll (records : List LogRecord) : Task World Unit := .modify (·.append records)

def log (record : LogRecord) : Task World Unit := logAll [record]

def recordCall (call : Call) : Task World Unit := .modify (·.record call)

end Thumbnailing
