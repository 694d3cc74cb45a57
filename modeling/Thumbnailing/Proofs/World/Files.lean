import Thumbnailing.Format.Signature
import Thumbnailing.Proofs.World.Library
import Thumbnailing.World.Files

set_option autoImplicit false

namespace Thumbnailing

def Failure.isOfFiles : Failure → Bool
  | .storage .. | .nulInPath | .absentValue | .oversizedPicture .. | .picture _ => true
  | _ => false

abbrev FailsOnFiles {State Result : Type} (task : Task State Result) : Prop :=
  Task.FailsWithin (fun failure => failure.isOfFiles = true) task

namespace FailsOnFiles

variable {Result : Type} {failure : Failure}

theorem checkName (path : Path) :
    FailsOnFiles (.ofOutcome (Files.checkName path) : Task World Unit) := by
  refine .ofOutcome fun failure checked => ?_
  unfold Files.checkName at checked
  split at checked
  · cases checked
    rfl
  · cases checked

theorem ofFault (result : Except StorageFault Result) :
    FailsOnFiles (.ofOutcome (Files.ofFault result) : Task World Result) := by
  refine .ofOutcome fun failure failed => ?_
  cases result with
  | ok value => cases failed
  | error fault =>
    cases failed
    rfl

theorem read (path : Path) : FailsOnFiles (Files.read path) :=
  .bind (checkName path) fun _ => .bind .read fun world => by
    split
    · exact ofFault _
    · exact .fail rfl

theorem create (folder : Path) (head tail : String) (node : FileNode) :
    FailsOnFiles (Temporary.create folder head tail node) := by
  unfold Temporary.create
  refine .bind (checkName _) fun _ => .bind .read fun world => .bind (ofFault _) fun location => ?_
  split
  · exact .fail rfl
  · exact .fail rfl
  · exact .fail rfl
  · refine .bind ?_ fun _ => .succeed _
    exact .bind (checkName _) fun _ => .bind .read fun world => .bind (ofFault _) fun _ => .modify _

theorem severalFrames {pixels : Nat} {count : Except PictureFault Nat}
    (failed : ImageFormat.severalFrames pixels count = .error failure) :
    failure.isOfFiles = true := by
  unfold ImageFormat.severalFrames at failed
  split at failed
  · cases failed
    rfl
  · cases count with
    | ok count => cases failed
    | error fault =>
      cases failed
      rfl

theorem sniff (content : Bytes) :
    FailsOnFiles (.ofOutcome (ImageFormat.sniff content) : Task World Bool) := by
  refine .ofOutcome fun failure failed => ?_
  simp only [ImageFormat.sniff] at failed
  split at failed
  · cases failed
  · cases failed
  · cases failed
  · unfold ImageFormat.sniffGif at failed
    split at failed
    · cases failed
    · exact severalFrames failed
  · unfold ImageFormat.sniffTiff at failed
    split at failed
    · split at failed
      · cases failed
        rfl
      · cases failed
    · exact severalFrames failed
  · cases failed

end FailsOnFiles

namespace World

structure IsInPlace (before after : World) : Prop where
  machine : after.machine = before.machine
  files : after.files = before.files
  workingFolder : after.workingFolder = before.workingFolder

theorem IsInPlace.append {before after : World} (place : before.IsInPlace after)
    (records : List LogRecord) : before.IsInPlace (after.append records) :=
  ⟨place.machine, place.files, place.workingFolder⟩

theorem IsInPlace.history : Task.IsHistory IsInPlace where
  refl _ := ⟨rfl, rfl, rfl⟩
  trans first rest :=
    ⟨rest.machine.trans first.machine, rest.files.trans first.files,
      rest.workingFolder.trans first.workingFolder⟩

theorem IsInPlace.indifferent : Library.IsIndifferent IsInPlace where
  toIsHistory := history
  loads _ := ⟨rfl, rfl, rfl⟩
  asks _ _ := ⟨rfl, rfl, rfl⟩
  counts _ _ := ⟨rfl, rfl, rfl⟩

end World

theorem Files.change_cases (path : Path)
    (step : FileTree → Location → Except StorageFault FileTree) (world : World) :
    (∃ failure, (change path step).run world = (.error failure, world)) ∨
      ∃ files, checkName path = .ok () ∧ step world.files world.workingFolder = .ok files ∧
        (change path step).run world = (.ok (), { world with files }) := by
  simp only [change, Task.run_bind, Task.run_ofOutcome]
  cases checkName path with
  | error failure => exact .inl ⟨failure, rfl⟩
  | ok _ =>
    simp only [Task.run_read]
    cases step world.files world.workingFolder with
    | error fault => exact .inl ⟨_, rfl⟩
    | ok files => exact .inr ⟨files, trivial, rfl, rfl⟩

namespace Files

theorem run_write_of_none {path : Path} {content : Bytes} (world : World)
    (faultless : world.machine.writeFaults path = none) :
    (write path content).run world = (put path content).run world := by
  simp only [Files.write, Task.run_bind, Task.run_read, faultless]

theorem run_write_of_some {path : Path} {content : Bytes} {problem : WriteFault}
    (world : World) (faulty : world.machine.writeFaults path = some problem) :
    (write path content).run world =
      (leave path (problem.kept.map content.take) >>= fun _ =>
        .fail (.storage problem.fault "") : Task World Unit).run world := by
  simp only [Files.write, Task.run_bind, Task.run_read, faulty]

section Keeping

variable {relation : World → World → Prop} (history : Task.IsHistory relation) {path : Path}
  (puts : ∀ content, Task.Keeps relation (put path content))

include history puts

theorem leave_keeps (content : Option Bytes) : Task.Keeps relation (leave path content) := by
  cases content with
  | none => exact .succeed history ()
  | some content => exact puts content

theorem write_keeps (content : Bytes) : Task.Keeps relation (write path content) := by
  intro world
  cases found : world.machine.writeFaults path with
  | none =>
    rw [run_write_of_none world found]
    exact puts content world
  | some problem =>
    rw [run_write_of_some world found]
    exact Task.Keeps.bind history (leave_keeps history puts _) (fun _ => .fail history _) world

end Keeping

theorem write_eq_ok {path : Path} {content : Bytes} {world after : World}
    (ran : (write path content).run world = (.ok (), after)) :
    (put path content).run world = (.ok (), after) := by
  cases found : world.machine.writeFaults path with
  | none => rwa [run_write_of_none world found] at ran
  | some problem =>
    rw [run_write_of_some world found] at ran
    obtain ⟨_, _, -, failed⟩ := Task.run_bind_eq_ok.mp ran
    cases failed

theorem read_world (path : Path) (world : World) :
    ((Files.read path).run world).2 = world := by
  simp only [Files.read, Task.run_bind, Task.run_ofOutcome, Task.run_read]
  cases Files.checkName path with
  | error failure => rfl
  | ok _ => cases found : world.machine.readFaults path <;> simp only [found] <;> rfl

theorem read_keeps {relation : World → World → Prop} (history : Task.IsHistory relation)
    (path : Path) : Task.Keeps relation (Files.read path) := by
  intro world
  rw [read_world]
  exact history.refl world

theorem read_inPlace {first second : World} (place : first.IsInPlace second) (path : Path) :
    ((Files.read path).run second).1 = ((Files.read path).run first).1 := by
  simp only [Files.read, Task.run_bind, Task.run_ofOutcome, Task.run_read]
  cases Files.checkName path with
  | error failure => rfl
  | ok _ =>
    simp only [place.machine, place.files, place.workingFolder]
    cases first.machine.readFaults path <;> rfl

end Files

end Thumbnailing
