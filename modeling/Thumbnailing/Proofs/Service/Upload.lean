import Thumbnailing.Proofs.Request.Destination
import Thumbnailing.Proofs.Storage.Subtree
import Thumbnailing.Service.Upload

set_option autoImplicit false

namespace Thumbnailing

namespace Path

theorem suffix_last {name : List Char} (filled : (splitName name).2 ≠ []) :
    (splitName name).2.getLast? ≠ some '.' := by
  unfold splitName at filled ⊢
  simp only at filled ⊢
  split at filled
  · exact absurd rfl filled
  · rename_i whole
    rw [if_neg whole]
    -- The suffix ends like the last piece of the name, in which there is no point.
    have plain : '.' ∉ (name.reverse.takeWhile (· != '.')).reverse := by
      intro member
      simpa using List.all_eq_true.mp List.all_takeWhile '.' (List.mem_reverse.mp member)
    simp only [Bool.or_eq_true, not_or, List.isEmpty_iff] at whole
    generalize (name.reverse.takeWhile (· != '.')).reverse = last at *
    intro same
    rw [List.getLast?_cons, List.getLast?_eq_some_getLast whole.1] at same
    have point : last.getLast whole.1 = '.' := by simpa using same
    exact plain (point ▸ List.getLast_mem whole.1)

end Path

namespace Upload

theorem storedSuffix_last (filename : Option String) (format : ImageFormat) :
    (storedSuffix filename format).toList ≠ [] ∧
      (storedSuffix filename format).toList.getLast? ≠ some '.' := by
  unfold storedSuffix unlessEmpty
  split
  · cases format <;> decide
  · rename_i filled
    have written : (Path.splitName (Path.ofText (filename.getD "")).name.toList).2 ≠ [] := by
      intro empty
      simp [Path.suffix, Path.suffixOf, empty] at filled
    simpa [Path.suffix, Path.suffixOf] using ⟨written, Path.suffix_last written⟩

theorem storedName_plain (filename : Option String) (format : ImageFormat) :
    storedName filename format ≠ ".." := by
  obtain ⟨filled, last⟩ := storedSuffix_last filename format
  intro same
  have ends : (storedName filename format).toList.getLast? = some '.' := by
    rw [same]
    rfl
  rw [storedName, String.toList_append, List.getLast?_append,
    List.getLast?_eq_some_getLast filled] at ends
  exact last ((List.getLast?_eq_some_getLast filled).trans ends)

def SameOutside (folder : Location) (before after : World) : Prop :=
  after.files.eraseBelow folder = before.files.eraseBelow folder

theorem SameOutside.history (folder : Location) : Task.IsHistory (SameOutside folder) where
  refl _ := rfl
  trans first rest := rest.trans first

theorem collect_source (source : Path) (world : World) :
    ((collect source .source).run world).2 = world := by
  have kept := Files.read_world source world
  rw [collect, Task.run_bind]
  rcases found : (Files.read source).run world with ⟨outcome, after⟩
  rw [found] at kept
  cases outcome <;> exact kept

theorem collect_file (source path : Path) (world : World) :
    ((collect source (.file path)).run world).2.files =
      world.files.discard world.workingFolder path := by
  have kept := Files.read_world path world
  rw [collect, Task.run_bind, Task.run_attempt]
  rcases found : (Files.read path).run world with ⟨outcome, after⟩
  rw [found] at kept
  subst kept
  cases outcome <;> rfl

theorem prepare_looks (source : Source) (options : ThumbnailOptions) (attachment : Entries)
    (settings : Settings) :
    Task.Keeps Looks (Thumbnail.prepare source options attachment settings) := by
  have history := Looks.history
  refine .bind history (.ofOutcome history _) fun target => ?_
  refine .bind history (Looks.logAll _) fun _ => .bind history (.read history) fun world => ?_
  exact .bind history (.ofOutcome history _) fun path => .succeed history _

theorem child_root (world : World) (folder : Path) (name : String) :
    ((Temporary.folderFrom world folder).child name).root ≠ .relative := by
  have rooted : (Temporary.folderFrom world folder).root ≠ .relative := Path.absolute_root nofun
  exact rooted

theorem discard_newFile {thumbnail : Thumbnail} {before after : World} {destination : Path}
    (added : thumbnail.IsNewFile before after destination) :
    after.files.discard after.workingFolder destination = before.files := by
  obtain ⟨start, named⟩ := added.isNamed
  obtain ⟨location, content, located, absent, files⟩ := added.isAdded
  have rooted : destination.root ≠ .relative := by
    rw [named]
    exact child_root _ _ _
  rw [files, FileTree.discard_rooted rooted _ before.workingFolder]
  exact FileTree.discard_withFile absent located

theorem collect_files {Result : Type} (thumbnail : Thumbnail) (source : Path) {world : World}
    (orderly : world.IsOrderly)
    (finish : Thumbnail.Product × List DirectiveOutcome → Path × Bytes → Result) :
    ((do
      let made ← thumbnail.makeAfresh
      let collected ← collect source made.1
      return finish made collected : Task World Result).run world).2.files = world.files := by
  have started : (Progress.start world).world.IsOrderly := orderly
  have files := thumbnail.make_file_or_nothing started
  have whole : thumbnail.makeAfresh.run world =
      ((thumbnail.make.run (.start world)).1.map fun product =>
        (product, (thumbnail.make.run (.start world)).2.warnings),
        (thumbnail.make.run (.start world)).2.world) := by
    unfold Thumbnail.makeAfresh
    rw [Task.run_onPart, Task.run_bind]
    rcases thumbnail.make.run (.start world) with ⟨outcome, progress⟩
    cases outcome <;> rfl
  rw [Task.run_bind, whole]
  rcases made : thumbnail.make.run (.start world) with ⟨outcome, progress⟩
  rw [made] at files
  cases outcome with
  | error failure => exact files
  | ok product =>
    cases product with
    | source =>
      simp only [Except.map]
      rw [Task.run_bind_pure, collect_source]
      exact files
    | file destination =>
      simp only [Except.map]
      rw [Task.run_bind_pure, collect_file]
      exact discard_newFile files

/-- Outside of a folder the files are as before, and the machine is the same. -/
structure StaysOutside (folder : Location) (before after : World) : Prop where
  machine : after.machine = before.machine
  workingFolder : after.workingFolder = before.workingFolder
  files : SameOutside folder before after

theorem StaysOutside.history (folder : Location) : Task.IsHistory (StaysOutside folder) where
  refl _ := ⟨rfl, rfl, rfl⟩
  trans first rest :=
    ⟨rest.machine.trans first.machine, rest.workingFolder.trans first.workingFolder,
      (SameOutside.history folder).trans first.files rest.files⟩

theorem child_plain {folder : Path} {name : String} (plain : ∀ step ∈ folder.steps, step ≠ "..")
    (named : name ≠ "..") : ∀ step ∈ (folder.child name).steps, step ≠ ".." := by
  intro step member
  rcases List.mem_append.mp member with inside | last
  · exact plain step inside
  · rwa [List.mem_singleton.mp last]

theorem put_staysOutside {folder : Path} {name : String} (rooted : folder.root ≠ .relative)
    (below : ∀ step ∈ (folder.child name).steps, step ≠ "..") (content : Bytes) :
    Task.Keeps (StaysOutside folder.steps) (Files.put (folder.child name) content) := by
  intro world
  rcases Files.change_cases (folder.child name)
      (fun files working => files.write working (folder.child name) content) world with
    ⟨failure, ran⟩ | ⟨files, -, written, ran⟩
  · rw [Files.put, ran]
    exact (StaysOutside.history _).refl world
  · have placed := FileTree.write_plain (show (folder.child name).root ≠ .relative from rooted)
      below written
    rw [Files.put, ran]
    refine ⟨rfl, rfl, ?_⟩
    rw [SameOutside, placed]
    exact FileTree.eraseBelow_put ⟨[name], rfl⟩

theorem makeIn_sameOutside (settings : Settings) (options : ThumbnailOptions) {name : String}
    (content : Bytes) {folder : Path} {world : World} (orderly : world.IsOrderly)
    (rooted : folder.root ≠ .relative) (plain : ∀ step ∈ folder.steps, step ≠ "..")
    (named : name ≠ "..") :
    SameOutside folder.steps world ((makeIn settings options name content folder).run world).2 := by
  -- However much of the upload is kept, it lies in the folder.
  have stays := Files.write_keeps (StaysOutside.history folder.steps)
    (put_staysOutside rooted (child_plain plain named)) content world
  simp only [makeIn]
  rcases written : (Files.write (folder.child name) content).run world with ⟨outcome, placed⟩
  rw [written] at stays
  cases outcome with
  | error failure =>
    rw [Task.run_bind_of_error written]
    exact stays.files
  | ok =>
    rw [Task.run_bind_of_ok written]
    refine (SameOutside.history _).trans stays.files ?_
    have orderly := orderly.same stays.machine stays.workingFolder
    have seen := prepare_looks (.path (folder.child name)) options [] settings placed orderly
    rcases prepared : (Thumbnail.prepare (.path (folder.child name)) options [] settings).run
      placed with ⟨outcome, between⟩
    rw [prepared] at seen
    cases outcome with
    | error failure =>
      rw [Task.run_bind_of_error prepared]
      exact congrArg (·.eraseBelow folder.steps) seen.files
    | ok thumbnail =>
      rw [Task.run_bind_of_ok prepared]
      have kept := collect_files thumbnail (folder.child name)
        (orderly.same seen.machine seen.workingFolder)
        fun made collected => Shipment.mk collected.1 collected.2 thumbnail.engine.kind made.2
      exact congrArg (·.eraseBelow folder.steps) (kept.trans seen.files)

theorem freshFolder_plain {world : World} {configured folder : Path} {location : Location}
    (fresh : Temporary.IsFresh world configured "tmp" "" folder location) :
    folder.root ≠ .relative ∧ (∀ step ∈ folder.steps, step ≠ "..") ∧ location = folder.steps := by
  obtain ⟨⟨serial, named⟩, -, -, located, -⟩ := fresh
  have root : folder.root ≠ .relative := by
    rw [named]
    exact child_root _ _ _
  have plain : ∀ step ∈ folder.steps, step ≠ ".." := by
    rw [named]
    intro step member
    rcases List.mem_append.mp member with inside | last
    · exact Path.absolute_plain _ _ step inside
    · rw [List.mem_singleton.mp last]
      intro same
      simpa using congrArg (fun name => name.toList.head?) same
  exact ⟨root, plain, FileTree.locate_plain root plain located⟩

theorem withFolder_files {Result : Type} (configured : String) (task : Path → Task World Result)
    {world : World} (rooted : world.files.IsRooted)
    (within : ∀ folder files, folder.root ≠ .relative → (∀ step ∈ folder.steps, step ≠ "..") →
      SameOutside folder.steps { world with files } ((task folder).run { world with files }).2) :
    ((Temporary.withFolder configured task).run world).2.files = world.files := by
  unfold Temporary.withFolder
  rcases Temporary.run_create (Temporary.folderOf configured) "tmp" "" .folder world with
    ⟨failure, refused⟩ | ⟨folder, location, fresh, made⟩
  · rw [Task.run_bind_of_error refused]
  · have absent := fresh.isAbsent
    obtain ⟨root, plain, rfl⟩ := freshFolder_plain fresh
    have outside := within folder (world.files.put folder.steps .folder) root plain
    rw [Task.run_bind_of_ok made]
    refine Eq.trans outside ?_
    exact (FileTree.eraseBelow_put (List.prefix_refl _)).trans
      (FileTree.eraseBelow_absent rooted absent)

/-- However a request ends, the files are as they were before it. -/
theorem handle_files (settings : Settings) (upload : Upload) (world : World)
    (orderly : world.IsOrderly) (rooted : world.files.IsRooted) :
    ((upload.handle settings).run world).2.files = world.files := by
  unfold handle
  split
  · rfl
  · rfl
  · rename_i name content _
    simp only [handleFile, Task.run_bind, Task.run_ofOutcome]
    cases checkSize settings content.length with
    | error failure => rfl
    | ok _ =>
      cases ImageFormat.detect content with
      | error failure => rfl
      | ok format =>
        cases ThumbnailOptions.ofForm upload.options with
        | error failure => rfl
        | ok options =>
          have kept := withFolder_files settings.temporaryFolder
            (makeIn settings options (storedName name format) content) rooted
            fun folder files root plain => makeIn_sameOutside settings options content
              (orderly.same rfl rfl) root plain (storedName_plain name format)
          simp only
          rcases ran : (Temporary.withFolder settings.temporaryFolder
            (makeIn settings options (storedName name format) content)).run world with
            ⟨outcome, after⟩
          rw [ran] at kept
          cases outcome <;> exact kept

theorem plain_isRooted : World.plain.files.IsRooted := by
  intro location name node member
  have parents : ∀ entry ∈ World.plain.files.nodes, entry.1.dropLast = [] := by decide
  have parent := parents _ member
  rw [List.dropLast_concat] at parent
  rw [parent]
  exact FileTree.node_root _

def ofPicture : Upload :=
  ⟨.file (some "a.png") [0x89, 0x50, 0x4E, 0x47, 0x0D, 0x0A, 0x1A, 0x0A], none⟩

theorem picture_leavesNothing :
    World.writing.IsOrderly ∧ World.writing.files.IsRooted ∧
      ((ofPicture.handle .standard).run .writing).1.toOption.map Response.status = some 200 ∧
      ((ofPicture.handle .standard).run .writing).2.files = World.writing.files ∧
      ((ofPicture.handle .standard).run (.torn Thumbnail.killed)).2.files =
        (World.torn Thumbnail.killed).files ∧
      ((ofPicture.handle .standard).run .full).1.isOk = false ∧
      ((ofPicture.handle .standard).run .full).2.files = World.full.files :=
  ⟨Thumbnail.writing_isOrderly, plain_isRooted, by decide +kernel,
    handle_files .standard ofPicture .writing Thumbnail.writing_isOrderly plain_isRooted,
    handle_files .standard ofPicture _ (Thumbnail.torn_isOrderly _) plain_isRooted,
    by decide +kernel,
    handle_files .standard ofPicture .full Thumbnail.full_isOrderly plain_isRooted⟩

end Upload

end Thumbnailing
