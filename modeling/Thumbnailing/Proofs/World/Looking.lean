import Thumbnailing.Proofs.Storage.Path
import Thumbnailing.Proofs.World.Library
import Thumbnailing.Proofs.World.ToolCalls

set_option autoImplicit false

namespace Thumbnailing

def Call.isSaving : Call → Bool
  | .tool words _ => CommandKind.ofWords words == .convert
  | .encode .. => true
  | _ => false

/-- A world as it can be met: tools write at most their output, which those that identify a picture
do not have, a program is found under its own name, and a folder lies below folders with names. -/
structure World.IsOrderly (world : World) : Prop where
  identifies : world.machine.replies.identify.left = none
  counts : world.machine.replies.frames.left = none
  finds : ∀ path, Magick.found? (world.machine.programs.lookup "identify") = some path →
    CommandKind.isNamedIdentify path = true
  isNamed : ∀ name ∈ world.workingFolder, Path.IsName name

def World.SavesNothing (before after : World) : Prop :=
  ∃ issued, after.calls = before.calls ++ issued ∧ ∀ call ∈ issued, call.isSaving = false

structure World.IsSeen (before after : World) : Prop where
  machine : after.machine = before.machine
  workingFolder : after.workingFolder = before.workingFolder
  files : after.files = before.files
  calls : before.SavesNothing after

theorem World.IsOrderly.same {before after : World} (orderly : before.IsOrderly)
    (machine : after.machine = before.machine)
    (workingFolder : after.workingFolder = before.workingFolder) : after.IsOrderly := by
  obtain ⟨identifies, counts, finds, isNamed⟩ := orderly
  constructor
  · rwa [machine]
  · rwa [machine]
  · rwa [machine]
  · rwa [workingFolder]

theorem World.SavesNothing.trans {before between after : World}
    (first : before.SavesNothing between) (rest : between.SavesNothing after) :
    before.SavesNothing after := by
  obtain ⟨issued, called, quiet⟩ := first
  obtain ⟨others, calledLater, quietLater⟩ := rest
  refine ⟨issued ++ others, by rw [calledLater, called, List.append_assoc], ?_⟩
  intro call member
  exact (List.mem_append.mp member).elim (quiet call) (quietLater call)

def Looks (before after : World) : Prop := before.IsOrderly → before.IsSeen after

theorem Looks.history : Task.IsHistory Looks where
  refl world _ := ⟨rfl, rfl, rfl, [], by simp⟩
  trans first rest orderly := by
    have earlier := first orderly
    have later := rest (orderly.same earlier.machine earlier.workingFolder)
    exact ⟨later.machine.trans earlier.machine, later.workingFolder.trans earlier.workingFolder,
      later.files.trans earlier.files, earlier.calls.trans later.calls⟩

namespace Looks

theorem logAll (records : List LogRecord) : Task.Keeps Looks (logAll records) :=
  fun _ _ => ⟨rfl, rfl, rfl, [], by simp [Thumbnailing.logAll]⟩

theorem recordCall {call : Call} (quiet : call.isSaving = false) :
    Task.Keeps Looks (recordCall call) :=
  fun _ _ => ⟨rfl, rfl, rfl, [call], rfl, by simpa using quiet⟩

theorem indifferent : Library.IsIndifferent Looks where
  toIsHistory := history
  loads _ _ := ⟨rfl, rfl, rfl, [], by simp⟩
  asks _ _ _ := ⟨rfl, rfl, rfl, [], by simp⟩
  counts _ _ _ := ⟨rfl, rfl, rfl, [], by simp⟩

theorem openPicture (path : String) (options : Entries) :
    Task.Keeps Looks (Library.openPicture path options) :=
  indifferent.openPicture fun _ => recordCall rfl

theorem kind_identify {world : World} (orderly : world.IsOrderly) (words : List String) :
    CommandKind.ofWords (Magick.startWords world.machine "identify" ++ words) ≠ .convert := by
  have named : (Magick.startWords world.machine "identify" ++ words).head?.any
      CommandKind.isNamedIdentify ||
        (Magick.startWords world.machine "identify" ++ words)[1]? == some "identify" := by
    unfold Magick.startWords
    split
    · simp
    · cases found : Magick.found? (world.machine.programs.lookup "identify") with
      | none =>
        have own : CommandKind.isNamedIdentify "identify" = true := by decide
        simp [own]
      | some path => simp [orderly.finds path found]
  -- A command of this name identifies or counts, whatever words follow it.
  unfold CommandKind.ofWords
  rw [if_pos named]
  split <;> simp

theorem commandStart (settings : Settings) (tool : String) :
    Task.Keeps Looks (Magick.commandStart settings tool) :=
  Magick.commandStart_keeps history (fun _ _ => recordCall rfl) settings tool

theorem reply_identify {world : World} (orderly : world.IsOrderly) {words : List String}
    (identifies : CommandKind.ofWords words ≠ .convert) :
    (world.machine.replies.reply (.ofWords words)).left = none := by
  cases kind : CommandKind.ofWords words with
  | identify => exact orderly.identifies
  | frames => exact orderly.counts
  | convert => exact absurd kind identifies

theorem runCommand {words : List String} (identifies : CommandKind.ofWords words ≠ .convert)
    (timeout : Int) : Task.Keeps Looks (Tool.runCommand words timeout) := by
  intro world orderly
  have quiet : (Call.tool words timeout).isSaving = false := by
    simpa [Call.isSaving] using identifies
  have seen := recordCall quiet world orderly
  have recorded : (Thumbnailing.recordCall (.tool words timeout)).run world =
    (.ok (), world.record (.tool words timeout)) := rfl
  have machine : (world.record (.tool words timeout)).machine = world.machine := rfl
  rw [Tool.runCommand, Task.run_bind_of_ok recorded, Task.run_bind_of_ok (Task.run_read _), machine]
  simp only [reply_identify orderly identifies]
  refine history.trans (fun _ => seen) ?_ orderly
  refine Task.Keeps.bind history (.succeed history ()) (fun _ => ?_) _
  exact .bind history (.ofOutcome history _) fun report => .succeed history _

theorem runTool_identify (settings : Settings) (words : List String) :
    Task.Keeps Looks (Magick.runTool settings "identify" words) := by
  intro world orderly
  obtain ⟨between, started, -⟩ := Magick.run_commandStart settings "identify" world
  have first := commandStart settings "identify" world orderly
  rw [started] at first
  rw [Magick.runTool, Task.run_bind_of_ok started]
  refine history.trans (fun _ => first) (Task.Keeps.rescue history
    (runCommand (kind_identify orderly words) _) (fun failure => ?_) between) orderly
  split <;> exact .fail history _

theorem probe_magick (settings : Settings) (path : Path) :
    Task.Keeps Looks (Magick.probe settings path) := by
  refine .bind history (.rescue history (runTool_identify _ _) fun failure => ?_) fun output => ?_
  · split
    · exact .succeed history _
    · exact .fail history _
  · refine .bind history (.ofOutcome history _) fun reading => ?_
    cases reading with
    | some geometry => exact .succeed history _
    | none => exact .fail history _

theorem countFrames_magick (settings : Settings) (path : Option Path) :
    Task.Keeps Looks (Magick.countFrames settings path) :=
  .bind history (runTool_identify _ _) fun _ => .ofOutcome history _

end Looks

end Thumbnailing
