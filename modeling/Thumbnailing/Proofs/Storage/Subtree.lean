import Mathlib.Data.List.Induction
import Thumbnailing.Proofs.Storage.FileTree
import Thumbnailing.Proofs.Storage.Path

set_option autoImplicit false

namespace Thumbnailing

namespace Path

theorem collapse_plain {taken steps : List String} (plain : ∀ step ∈ taken, step ≠ "..") :
    ∀ step ∈ collapse taken steps, step ≠ ".." := by
  induction steps generalizing taken with
  | nil => exact plain
  | cons first rest ih =>
    refine ih ?_
    split
    · exact fun step member => plain step (List.dropLast_subset _ member)
    · rename_i other
      intro step member
      rcases List.mem_append.mp member with old | new
      · exact plain step old
      · rwa [List.mem_singleton.mp new]

theorem absolute_plain (folder path : Path) : ∀ step ∈ (absolute folder path).steps, step ≠ ".." := by
  unfold absolute
  split <;> exact collapse_plain nofun

end Path

namespace FileTree

variable {tree : FileTree} {location target : Location}

def IsRooted (tree : FileTree) : Prop :=
  ∀ location name node, (location ++ [name], node) ∈ tree.nodes →
    tree.node? location = some .folder

theorem mem_of_node {node : FileNode} (inside : location ≠ [])
    (found : tree.node? location = some node) : (location, node) ∈ tree.nodes := by
  rw [node?, if_neg inside] at found
  obtain ⟨before, after, whole, -⟩ := List.lookup_eq_some_iff.mp found
  simp [whole]

theorem nothing_below_absent (rooted : tree.IsRooted) (absent : tree.node? location = none) :
    ∀ entry ∈ tree.nodes, location.isPrefixOf entry.1 = false := by
  -- Going up from an entry below the location would end at the location itself.
  have apart : ∀ (rest : List String) (node : FileNode), (location ++ rest, node) ∉ tree.nodes := by
    intro rest
    induction rest using List.reverseRecOn with
    | nil =>
      intro node member
      exact absurd (List.append_nil location) (absent_entries absent _ member)
    | append_singleton rest name ih =>
      intro node member
      rw [← List.append_assoc] at member
      have outside : location ++ rest ≠ [] := by simp [absent_ne_root absent]
      exact ih .folder (mem_of_node outside (rooted _ _ _ member))
  rintro ⟨there, node⟩ member
  refine Bool.eq_false_iff.mpr fun below => ?_
  obtain ⟨rest, rfl⟩ := List.isPrefixOf_iff_prefix.mp below
  exact apart rest node member

theorem eraseBelow_absent (rooted : tree.IsRooted) (absent : tree.node? location = none) :
    tree.eraseBelow location = tree := by
  have kept : (tree.nodes.filter fun entry => !location.isPrefixOf entry.1) = tree.nodes :=
    List.filter_eq_self.mpr fun entry member => by
      simp [nothing_below_absent rooted absent entry member]
  rw [eraseBelow, kept]

theorem eraseBelow_put {node : FileNode} (below : location <+: target) :
    (tree.put target node).eraseBelow location = tree.eraseBelow location := by
  have covered : location.isPrefixOf target = true := List.isPrefixOf_iff_prefix.mpr below
  unfold put eraseBelow
  split
  · -- An entry that is replaced lies below the location before and after.
    congr 1
    induction tree.nodes with
    | nil => rfl
    | cons entry rest ih =>
      rw [List.map_cons, List.filter_cons, List.filter_cons, ih]
      by_cases same : entry.1 = target
      · simp [same, covered]
      · simp [same]
  · simp [List.filter_append, covered]

theorem follow_plain {here : Location} {steps : List String} (plain : ∀ step ∈ steps, step ≠ "..")
    (followed : tree.follow here steps = .ok target) : target = here ++ steps := by
  induction steps generalizing here with
  | nil =>
    cases followed
    simp
  | cons step rest ih =>
    rw [follow] at followed
    split at followed
    · cases followed
    · cases followed
    · rw [if_neg (plain step List.mem_cons_self)] at followed
      split at followed
      · have deeper := ih (fun other member => plain other (List.mem_cons_of_mem _ member)) followed
        simpa using deeper
      · cases followed

theorem locate_plain {folder : Location} {path : Path} (rooted : path.root ≠ .relative)
    (plain : ∀ step ∈ path.steps, step ≠ "..") (located : tree.locate folder path = .ok target) :
    target = path.steps := by
  rw [locate, if_neg rooted] at located
  split at located
  · cases located
  · exact follow_plain plain located

theorem write_plain {folder : Location} {path : Path} {content : Bytes} {after : FileTree}
    (rooted : path.root ≠ .relative) (plain : ∀ step ∈ path.steps, step ≠ "..")
    (written : tree.write folder path content = .ok after) :
    after = tree.put path.steps (.file content) := by
  obtain ⟨target, located, rest⟩ := Task.ok_of_bind written
  rw [← locate_plain rooted plain located]
  split at rest
  · cases rest
  · cases rest
    rfl

theorem discard_rooted {path : Path} (rooted : path.root ≠ .relative) (folder other : Location) :
    tree.discard folder path = tree.discard other path := by
  simp only [discard, locate, if_neg rooted]

end FileTree

end Thumbnailing
