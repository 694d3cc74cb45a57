import Thumbnailing.Proofs.Task
import Thumbnailing.Storage.FileTree

set_option autoImplicit false

namespace Thumbnailing.FileTree

variable {tree : FileTree} {location here : Location} {content : Bytes}

def withFile (tree : FileTree) (location : Location) (content : Bytes) : FileTree :=
  ⟨tree.nodes ++ [(location, .file content)]⟩

theorem absent_ne_root (absent : tree.node? location = none) : location ≠ [] := by
  rintro rfl
  cases absent

theorem absent_entries (absent : tree.node? location = none) :
    ∀ entry ∈ tree.nodes, entry.1 ≠ location := by
  intro entry member same
  simp only [node?, absent_ne_root absent, if_false, List.lookup_eq_none_iff] at absent
  exact absurd same.symm (by simpa using absent entry member)

theorem put_absent (absent : tree.node? location = none) :
    tree.put location (.file content) = tree.withFile location content := by
  have missing : (tree.nodes.any fun entry => entry.1 == location) = false := by
    simpa using absent_entries absent
  rw [put, if_neg (by simp [missing]), withFile]

theorem put_withFile (absent : tree.node? location = none) (other : Bytes) :
    (tree.withFile location content).put location (.file other) = tree.withFile location other := by
  have kept : tree.nodes.map (fun entry =>
      if entry.1 == location then (location, .file other) else entry) = tree.nodes := by
    refine Eq.trans (List.map_congr_left fun entry member => ?_) (List.map_id tree.nodes)
    rw [if_neg (by simpa using absent_entries absent entry member)]
    rfl
  rw [put, if_pos (by simp [withFile]), withFile, List.map_append, kept]
  simp [withFile]

theorem erase_withFile (absent : tree.node? location = none) :
    (tree.withFile location content).erase location = tree := by
  have kept : (tree.nodes.filter fun entry => entry.1 != location) = tree.nodes :=
    List.filter_eq_self.mpr fun entry member => by simpa using absent_entries absent entry member
  rw [erase, withFile, List.filter_append, kept]
  simp

theorem node_withFile_of_some {node : FileNode} (found : tree.node? here = some node) :
    (tree.withFile location content).node? here = some node := by
  unfold node? at found ⊢
  split
  · simpa [*] using found
  · simp_all [withFile, List.lookup_append]

theorem node_withFile_self (absent : tree.node? location = none) :
    (tree.withFile location content).node? location = some (.file content) := by
  have outside := absent_ne_root absent
  simp only [node?, outside, if_false] at absent ⊢
  simp [withFile, List.lookup_append, absent]

theorem content_withFile_of_some {old : Bytes} (present : tree.content? here = some old) :
    (tree.withFile location content).content? here = some old := by
  unfold content? at present ⊢
  split at present
  · rename_i found
    rw [node_withFile_of_some found]
    exact present
  · cases present

theorem follow_withFile {steps : List String} {target : Location}
    (followed : tree.follow here steps = .ok target) :
    (tree.withFile location content).follow here steps = .ok target := by
  -- Every step that was taken starts at a node that is still there.
  induction steps generalizing here with
  | nil => exact followed
  | cons step rest ih =>
    simp only [follow] at followed ⊢
    cases node : tree.node? here with
    | none => simp [node] at followed
    | some found =>
      rw [node_withFile_of_some node]
      simp only [node] at followed
      cases found with
      | file => cases followed
      | folder =>
        simp only at followed ⊢
        by_cases upward : step = ".."
        · rw [if_pos upward] at followed ⊢
          exact ih followed
        · rw [if_neg upward] at followed ⊢
          by_cases short : step.utf8ByteSize ≤ longestName
          · rw [if_pos short] at followed ⊢
            exact ih followed
          · rw [if_neg short] at followed
            cases followed

theorem locate_withFile {folder : Location} {path : Path} {target : Location}
    (located : tree.locate folder path = .ok target) :
    (tree.withFile location content).locate folder path = .ok target := by
  unfold locate at located ⊢
  by_cases long : longestPath < path.text.utf8ByteSize
  · rw [if_pos long] at located
    cases located
  · rw [if_neg long] at located ⊢
    exact follow_withFile located

theorem discard_withFile {folder : Location} {path : Path} (absent : tree.node? location = none)
    (located : tree.locate folder path = .ok location) :
    (tree.withFile location content).discard folder path = tree := by
  simp [discard, locate_withFile located, content?, node_withFile_self absent,
    erase_withFile absent]

theorem write_withFile {folder : Location} {path : Path} {other : Bytes}
    (absent : tree.node? location = none) (located : tree.locate folder path = .ok location) :
    (tree.withFile location content).write folder path other =
      .ok (tree.withFile location other) := by
  unfold write
  rw [locate_withFile located]
  simp only [bind, Except.bind, node_withFile_self absent, put_withFile absent]
  rfl

theorem create_eq_ok {folder : Location} {path : Path} {node : FileNode} {after : FileTree}
    (created : tree.create folder path node = .ok after) :
    ∃ target, tree.locate folder path = .ok target ∧ tree.node? target = none ∧
      after = tree.put target node := by
  obtain ⟨target, located, rest⟩ := Task.ok_of_bind created
  refine ⟨target, located, ?_⟩
  by_cases taken : tree.contains target = true
  · simp only [taken] at rest
    cases rest
  · simp only [taken] at rest
    cases rest
    exact ⟨by simpa [contains] using taken, rfl⟩

end Thumbnailing.FileTree
