import Thumbnailing.Imaging.Transformation
import Thumbnailing.World.Basic

set_option autoImplicit false

namespace Thumbnailing.Library

def unavailable (problem : String) : Failure :=
  .ofKind .engineUnavailable "Could not load pyvips. Please install libvips and pyvips."
    [("reason", .text problem)]

def load : Task World Unit := do
  let world ← .read
  if world.libraryLoaded then return
  if world.machine.hasLibrary then .modify fun world => { world with libraryLoaded := true }
  else .fail (unavailable world.machine.libraryProblem)

/-- Every question may go wrong, calls and looks at metadata alike. -/
def ask (method : String) : Task World Unit := do
  let world ← .read
  .modify (·.asking [method])
  match world.machine.fault? world.asked.length method with
  | some failure => .fail failure
  | none => return

def produce (call : Option Nat → Call) (raster : Raster) : Task World Picture := do
  match ← (ask (call none).method).attempt with
  | .error failure => do
    recordCall (call none)
    .fail failure
  | .ok _ => do
    let number := (← .read).pictureCount
    recordCall (call (some number))
    .modify fun world => { world with pictureCount := number + 1 }
    return ⟨number, raster⟩

def perform (call : Call) : Task World Unit := do
  recordCall call
  ask call.method

def metadata? (name : String) (picture : Picture) : Task World (Option Value) := do
  -- The value is asked for only where there is one.
  ask "get_typeof"
  match picture.metadata? name with
  | none => return none
  | some value => do
    ask "get"
    return some value

def hasAlpha (picture : Picture) : Task World Bool := do
  ask "hasalpha"
  return picture.raster.hasAlpha

def asksForAllPages (options : Entries) : Bool :=
  (options.get? "n").any fun count => count.isNumber (-1)

def openPicture (path : String) (options : Entries) : Task World Picture := do
  let machine := (← .read).machine
  let raster := if asksForAllPages options then machine.allPages.getD machine.source
    else machine.source
  produce (.openPicture path options) raster

def transform (transformation : Transformation) (picture : Picture) : Task World Picture := do
  let raster ← .ofOutcome (transformation.result picture.raster)
  produce (.transform transformation picture.number) raster

def setMetadata (name : String) (value : Value) (picture : Picture) : Task World Picture := do
  perform (.setMetadata picture.number name value)
  return picture.putMetadata name value

def encodedText (picture : Picture) (extension : String) : String :=
  picture.name ++ ":" ++ integerText picture.width ++ "x" ++ integerText picture.height ++ ":" ++
    extension

def encode (extension : String) (options : Entries) (picture : Picture) : Task World Bytes := do
  perform (.encode picture.number extension options)
  return (encodedText picture extension).toUTF8.toList

end Thumbnailing.Library
