import Thumbnailing.Proofs.Storage.FileTree
import Thumbnailing.Proofs.Storage.Path
import Thumbnailing.Proofs.World.Files

set_option autoImplicit false

namespace Thumbnailing

namespace Temporary

def folderFrom (world : World) (folder : Path) : Path :=
  .absolute ⟨.absolute, world.workingFolder⟩ folder

structure IsFresh (world : World) (folder : Path) (head tail : String) (path : Path)
    (location : Location) : Prop where
  isNamed : ∃ serial, path = (folderFrom world folder).child (head ++ serial ++ tail)
  isSingle : '/' ∉ path.name.toList
  isAllowed : Files.checkName path = .ok ()
  isLocated : world.files.locate world.workingFolder path = .ok location
  isAbsent : world.files.node? location = none

theorem IsFresh.same {world other : World} {folder path : Path} {head tail : String}
    {location : Location} (fresh : IsFresh world folder head tail path location)
    (files : other.files = world.files) (workingFolder : other.workingFolder = world.workingFolder) :
    IsFresh other folder head tail path location := by
  obtain ⟨isNamed, isSingle, isAllowed, isLocated, isAbsent⟩ := fresh
  constructor
  · rwa [folderFrom, workingFolder]
  · exact isSingle
  · exact isAllowed
  · rwa [files, workingFolder]
  · rwa [files]

theorem checkPieces_single {name : String} (checked : checkPieces name = .ok ()) :
    '/' ∉ name.toList := by
  unfold checkPieces at checked
  split at checked
  · rename_i nothing
    exact absurd nothing (by rw [Path.piecesOf_splitOn]; exact List.splitOn_ne_nil '/' _)
  · rename_i piece single
    exact Path.slash_of_single single
  · split at checked
    · cases checked
    · split at checked <;> cases checked

theorem freshName_parts {files : FileTree} {folder : Location} {head tail name : String}
    (fresh : freshName? files folder head tail = some name) :
    ∃ serial, name = head ++ serial ++ tail := by
  obtain ⟨serial, -, same⟩ := List.mem_map.mp (List.mem_of_find?_eq_some fresh)
  exact ⟨serialText serial, same.symm⟩

theorem run_create (folder : Path) (head tail : String) (node : FileNode) (world : World) :
    (∃ failure, (create folder head tail node).run world = (.error failure, world)) ∨
      ∃ path location, IsFresh world folder head tail path location ∧
        (create folder head tail node).run world =
          (.ok path, { world with files := world.files.put location node }) := by
  unfold create
  simp only [Task.run_bind, Task.run_ofOutcome, Task.run_read]
  cases Files.checkName (folder.child tail) with
  | error failure => exact .inl ⟨failure, rfl⟩
  | ok _ =>
    simp only
    cases world.files.locate world.workingFolder (.absolute ⟨.absolute, world.workingFolder⟩ folder)
      with
    | error fault => exact .inl ⟨_, rfl⟩
    | ok within =>
      rw [Files.ofFault_ok]
      simp only
      split
      · exact .inl ⟨_, rfl⟩
      · exact .inl ⟨_, rfl⟩
      · exact .inl ⟨_, rfl⟩
      · rename_i name _ fresh
        rcases Files.change_cases ((folderFrom world folder).child name)
          (fun files working => do
            checkPieces name
            files.create working ((folderFrom world folder).child name) node) world with
          ⟨failure, ran⟩ | ⟨files, allowed, created, ran⟩
        · exact .inl ⟨failure, Task.run_bind_of_error ran⟩
        · obtain ⟨_, single, added⟩ := Task.ok_of_bind created
          obtain ⟨location, located, absent, rfl⟩ := FileTree.create_eq_ok added
          obtain ⟨serial, rfl⟩ := freshName_parts fresh
          refine .inr ⟨_, location, ⟨⟨serial, rfl⟩, ?_, allowed, located, absent⟩,
            Task.run_bind_of_ok ran⟩
          rw [Path.name_child]
          exact checkPieces_single single

end Temporary

end Thumbnailing
