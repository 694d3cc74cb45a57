import Thumbnailing.Storage.Md5
import Thumbnailing.Text.Utf8
import Thumbnailing.World.Basic

set_option autoImplicit false

namespace Thumbnailing

namespace Files

def ofFault {Result : Type} (result : Except StorageFault Result) : Outcome Result :=
  result.mapError fun fault => .storage fault ""

@[simp]
theorem ofFault_ok {Result : Type} (result : Result) : ofFault (.ok result) = .ok result := rfl

def checkName (path : Path) : Outcome Unit :=
  if path.steps.any fun step => step.toList.contains (Char.ofNat 0) then .error .nulInPath
  else .ok ()

def change (path : Path) (step : FileTree → Location → Except StorageFault FileTree) :
    Task World Unit := do
  .ofOutcome (checkName path)
  let world ← .read
  let files ← .ofOutcome (ofFault (step world.files world.workingFolder))
  .modify fun world => { world with files }

def put (path : Path) (content : Bytes) : Task World Unit :=
  change path fun files folder => files.write folder path content

def leave (path : Path) : Option Bytes → Task World Unit
  | some content => put path content
  | none => return

def write (path : Path) (content : Bytes) : Task World Unit := do
  match (← .read).machine.writeFaults path with
  | none => put path content
  | some problem => do
    -- What was put down before the fault stays there.
    leave path (problem.kept.map content.take)
    .fail (.storage problem.fault "")

def read (path : Path) : Task World Bytes := do
  .ofOutcome (checkName path)
  let world ← .read
  match world.machine.readFaults path with
  | none => .ofOutcome (ofFault (world.files.read world.workingFolder path))
  | some fault => .fail (.storage fault "")

def discard (path : Path) : Task World Unit :=
  .modify fun world => { world with files := world.files.discard world.workingFolder path }

def discardOnFailure {Result : Type} (path : Path) (task : Task World Result) :
    Task World Result := task.onFailure (discard path)

end Files

namespace Temporary

def systemFolder : String := "/tmp"

def folderOf (configured : String) : Path :=
  .ofText (if configured.isEmpty then systemFolder else configured)

def serialText (serial : Nat) : String :=
  let digits := natChars serial
  String.ofList (List.replicate (8 - digits.length) '0' ++ digits)

def freshName? (files : FileTree) (folder : Location) (head tail : String) : Option String :=
  ((List.range (files.nodes.length + 1)).map fun serial => head ++ serialText serial ++ tail).find?
    fun name => !files.contains (folder ++ [name])

def checkPieces (name : String) : Except StorageFault Unit :=
  -- A name that reaches into another folder leads nowhere, since that folder would be new.
  match Path.piecesOf name.toList with
  | [] | [_] => .ok ()
  | first :: rest =>
    if FileTree.longestName < (String.ofList first).utf8ByteSize then .error .nameTooLong
    else if rest.all (·.isEmpty) then .error .isDirectory
    else .error .notFound

def create (folder : Path) (head tail : String) (node : FileNode) : Task World Path := do
  .ofOutcome (Files.checkName (folder.child tail))
  let world ← .read
  let folder := Path.absolute ⟨.absolute, world.workingFolder⟩ folder
  let location ← .ofOutcome (Files.ofFault (world.files.locate world.workingFolder folder))
  match world.files.node? location, freshName? world.files location head tail with
  | none, _ => .fail (.storage .notFound "")
  | some (.file _), _ => .fail (.storage .notDirectory "")
  | some .folder, none => .fail (.storage .alreadyExists "")
  | some .folder, some name =>
    let path := folder.child name
    Files.change path fun files working => do
      checkPieces name
      files.create working path node
    return path

def digestText (name : String) : String := Text.hexOfBytes (Md5.digest (Text.encodeUtf8 name))

def pointed (extension : String) : String :=
  if extension.isEmpty || extension.toList.head? == some '.' then extension else "." ++ extension

def allocate (basename extension configured : String) : Task World Path :=
  create (folderOf configured) (digestText basename ++ "-") (pointed extension) (.file [])

def withFolder {Result : Type} (configured : String) (task : Path → Task World Result) :
    Task World Result := do
  let folder ← create (folderOf configured) "tmp" "" .folder
  let outcome ← (task folder).attempt
  .modify fun world => { world with files := world.files.eraseBelow folder.steps }
  .ofOutcome outcome

end Temporary

end Thumbnailing
