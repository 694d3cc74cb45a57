import Thumbnailing.Failure
import Thumbnailing.Storage.Path
import Thumbnailing.Text.Utf8

set_option autoImplicit false

namespace Thumbnailing

inductive FileNode where
  | folder
  | file (content : Bytes)
  deriving DecidableEq, Repr

abbrev Location := List String

structure FileTree where
  nodes : List (Location × FileNode)

namespace FileTree

def node? (tree : FileTree) (location : Location) : Option FileNode :=
  -- The root is always a folder.
  if location = [] then some .folder else tree.nodes.lookup location

def contains (tree : FileTree) (location : Location) : Bool := (tree.node? location).isSome

def content? (tree : FileTree) (location : Location) : Option Bytes :=
  match tree.node? location with
  | some (.file content) => some content
  | _ => none

def erase (tree : FileTree) (location : Location) : FileTree :=
  ⟨tree.nodes.filter fun entry => entry.1 != location⟩

def put (tree : FileTree) (location : Location) (node : FileNode) : FileTree :=
  if tree.nodes.any fun entry => entry.1 == location then
    ⟨tree.nodes.map fun entry => if entry.1 == location then (location, node) else entry⟩
  else ⟨tree.nodes ++ [(location, node)]⟩

def eraseBelow (tree : FileTree) (location : Location) : FileTree :=
  ⟨tree.nodes.filter fun entry => !location.isPrefixOf entry.1⟩

def longestName : Nat := 255

def longestPath : Nat := 4095

def follow (tree : FileTree) : Location → List String → Except StorageFault Location
  -- Follows steps from a location. Every step starts at a folder.
  | here, [] => .ok here
  | here, step :: rest =>
    match tree.node? here with
    | none => .error .notFound
    | some (.file _) => .error .notDirectory
    | some .folder =>
      if step = ".." then tree.follow here.dropLast rest
      else if step.utf8ByteSize ≤ longestName then tree.follow (here ++ [step]) rest
      else .error .nameTooLong

def locate (tree : FileTree) (folder : Location) (path : Path) : Except StorageFault Location :=
  if longestPath < path.text.utf8ByteSize then .error .nameTooLong
  else tree.follow (if path.root = .relative then folder else []) path.steps

def read (tree : FileTree) (folder : Location) (path : Path) : Except StorageFault Bytes := do
  match tree.node? (← tree.locate folder path) with
  | none => throw .notFound
  | some .folder => throw .isDirectory
  | some (.file content) => return content

def write (tree : FileTree) (folder : Location) (path : Path) (content : Bytes) :
    Except StorageFault FileTree := do
  let location ← tree.locate folder path
  match tree.node? location with
  | some .folder => throw .isDirectory
  | _ => return tree.put location (.file content)

def create (tree : FileTree) (folder : Location) (path : Path) (node : FileNode) :
    Except StorageFault FileTree := do
  let location ← tree.locate folder path
  if tree.contains location then throw .alreadyExists
  return tree.put location node

def discard (tree : FileTree) (folder : Location) (path : Path) : FileTree :=
  match tree.locate folder path with
  | .ok location => if (tree.content? location).isSome then tree.erase location else tree
  | .error _ => tree

def pathOf (location : Location) : String := "/" ++ "/".intercalate location

def filesBelow (tree : FileTree) (location : Location) : List (String × Bytes) :=
  let files := tree.nodes.filterMap fun entry =>
    match entry.2 with
    | .file content => if location.isPrefixOf entry.1 then some (pathOf entry.1, content) else none
    | .folder => none
  files.mergeSort fun first second => !decide (second.1 < first.1)

@[simp] theorem node_root (tree : FileTree) : tree.node? [] = some .folder := rfl

end FileTree

end Thumbnailing
