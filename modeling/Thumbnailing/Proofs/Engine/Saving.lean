import Thumbnailing.Proofs.Engine.Commands
import Thumbnailing.Proofs.Engine.Looking
import Thumbnailing.Proofs.Storage.FileTree
import Thumbnailing.Proofs.Text.LetterCase
import Thumbnailing.Proofs.World.Temporary

set_option autoImplicit false

namespace Thumbnailing

structure World.IsFilled (destination : Path) (before after : World) : Prop where
  machine : after.machine = before.machine
  workingFolder : after.workingFolder = before.workingFolder
  -- The tree without the file is named, so that several fillings in a row speak of the same one.
  files : ∀ (tree : FileTree) (location : Location) (content : Bytes),
    tree.node? location = none → tree.locate before.workingFolder destination = .ok location →
    before.files = tree.withFile location content →
    ∃ other, after.files = tree.withFile location other

def Fills (destination : Path) (before after : World) : Prop :=
  before.IsOrderly → before.IsFilled destination after

namespace Fills

variable {destination : Path}

theorem history : Task.IsHistory (Fills destination) where
  refl world _ := ⟨rfl, rfl, fun _ _ content _ _ same => ⟨content, same⟩⟩
  trans first rest orderly := by
    have earlier := first orderly
    have later := rest (orderly.same earlier.machine earlier.workingFolder)
    refine ⟨later.machine.trans earlier.machine, later.workingFolder.trans earlier.workingFolder, ?_⟩
    intro tree location content absent located same
    obtain ⟨between, changed⟩ := earlier.files tree location content absent located same
    exact later.files tree location between absent (by rwa [earlier.workingFolder]) changed

theorem ofLooks {before after : World} (looks : Looks before after) :
    Fills destination before after := by
  intro orderly
  have seen := looks orderly
  refine ⟨seen.machine, seen.workingFolder, fun tree location content _ _ same => ⟨content, ?_⟩⟩
  rw [seen.files, same]

theorem indifferent : Library.IsIndifferent (Fills destination) where
  toIsHistory := history
  loads world := ofLooks (Looks.indifferent.loads world)
  asks world methods := ofLooks (Looks.indifferent.asks world methods)
  counts world pictureCount := ofLooks (Looks.indifferent.counts world pictureCount)

theorem recordCall (call : Call) : Task.Keeps (Fills destination) (recordCall call) :=
  fun _ _ => ⟨rfl, rfl, fun _ _ content _ _ same => ⟨content, same⟩⟩

theorem put (content : Bytes) : Task.Keeps (Fills destination) (Files.put destination content) := by
  intro world
  rcases Files.change_cases destination
      (fun files folder => files.write folder destination content) world with
    ⟨failure, ran⟩ | ⟨files, -, written, ran⟩
  · rw [Files.put, ran]
    exact history.refl world
  · rw [Files.put, ran]
    intro orderly
    refine ⟨rfl, rfl, fun tree location old absent located same => ⟨content, ?_⟩⟩
    rw [same, FileTree.write_withFile absent located] at written
    cases written
    rfl

theorem write (content : Bytes) :
    Task.Keeps (Fills destination) (Files.write destination content) :=
  Files.write_keeps history put content

theorem runTool {words : List String} (settings : Settings) (tool : String)
    (output : ∀ start, Tool.outputPath (start ++ words) = destination) :
    Task.Keeps (Fills destination) (Magick.runTool settings tool words) := by
  refine Magick.runTool_keeps history (fun _ _ => recordCall _) (fun start => ?_) tool
  refine Tool.runCommand_keeps history (recordCall _) fun content => ?_
  rw [output]
  exact put content

theorem saveMagick {command : MagickCommand} (settings : Settings)
    (output : ∀ start, Tool.outputPath (start ++ command.words destination) = destination) :
    Task.Keeps (Fills destination) (Magick.save settings command destination) :=
  .bind history ((Looks.logAll _).mono fun _ _ => ofLooks) fun _ =>
    .discard history (runTool settings "convert" output)

theorem encode (extension : String) (options : Entries) (picture : Picture) :
    Task.Keeps (Fills destination) (Library.encode extension options picture) :=
  indifferent.encode (recordCall _)

theorem saveVips (world : World) (job : VipsJob) :
    Fills destination world ((Vips.save destination).run (world, job)).2.1 := by
  have jobs : Task.IsHistory fun before after : World × VipsJob =>
      Fills destination before.1 after.1 := history.along Prod.fst
  have saved : Task.Keeps (fun before after : World × VipsJob => Fills destination before.1 after.1)
      (Vips.save destination) := by
    refine .bind jobs (Vips.JobLooks.stepClass.picture.mono fun _ _ => ofLooks) fun picture => ?_
    refine .bind jobs (Vips.JobLooks.stepClass.job.mono fun _ _ => ofLooks) fun job => ?_
    refine .onPart ?_ fun _ _ filled => filled
    split
    · refine .bind history ((Looks.logAll _).mono fun _ _ => ofLooks) fun _ => ?_
      exact .bind history (encode _ _ _) fun content => write content
    · exact .bind history (encode _ _ _) fun content => write content
  exact saved (world, job)

end Fills

def Engine.IsReady (engine : Engine) (session : Session) : Prop :=
  ∀ command, session.job = some (.magick command) →
    engine.kind = .imageMagick ∧ ∀ format, command.format = some format → '/' ∉ format.toList

def StaysReady (engine : Engine) (before after : Session) : Prop :=
  engine.IsReady before → engine.IsReady after

theorem slash_plainExtension {extension : String} (plain : '/' ∉ extension.toList) :
    '/' ∉ (Primitive.plainExtension extension).toList := by
  intro member
  rw [Primitive.plainExtension, Text.lowercase, String.toList_ofList] at member
  rcases (Text.mem_lowercaseFrom member).2 with same | large
  · rw [String.toList_ofList] at same
    exact plain (List.dropWhile_subset _ same)
  · exact absurd large (by decide)

namespace StaysReady

variable {Result : Type}

theorem history (engine : Engine) : Task.IsHistory (StaysReady engine) where
  refl _ ready := ready
  trans first rest ready := rest (first ready)

theorem onWorld (engine : Engine) (task : Task World Result) :
    Task.Keeps (StaysReady engine) (Engine.onWorld task) := fun _ ready => ready

theorem loadJob_magick {engine : Engine} {source : Option Path} {options : Entries}
    {world after : World} {command : MagickCommand}
    (loaded : (engine.loadJob source options).run world = (.ok (.magick command), after)) :
    engine.kind = .imageMagick ∧ command.format = none := by
  unfold Engine.loadJob at loaded
  split at loaded
  · rename_i magick
    obtain ⟨_, _, _, same⟩ := Task.run_bind_eq_ok.mp loaded
    cases same
    exact ⟨magick, rfl⟩
  · obtain ⟨_, _, _, same⟩ := Task.run_bind_eq_ok.mp loaded
    cases same

theorem load (engine : Engine) (source : Option Path) (options : Entries) :
    Task.Keeps (StaysReady engine) (engine.load source options) := by
  intro session ready
  unfold Engine.load
  rw [Task.run_bind, Engine.run_onWorld]
  rcases loaded : (engine.loadJob source options).run session.world with ⟨outcome, after⟩
  cases outcome with
  | error failure => exact ready
  | ok job =>
    intro command same
    cases same
    obtain ⟨magick, unset⟩ := loadJob_magick loaded
    exact ⟨magick, fun format asked => by rw [unset] at asked; cases asked⟩

theorem prepare_format {command : MagickCommand} {primitive : Primitive}
    (ready : ∀ format, command.format = some format → '/' ∉ format.toList)
    (plain : ∀ extension, primitive = .convertFormat extension → '/' ∉ extension.toList) :
    ∀ format, (Magick.prepare command primitive).format = some format → '/' ∉ format.toList := by
  intro format asked
  cases primitive with
  | convertFormat extension =>
    have same : Primitive.plainExtension extension = format := Option.some.inj asked
    rw [← same]
    exact slash_plainExtension (plain extension rfl)
  | _ => exact ready format asked

theorem apply {primitive : Primitive} (engine : Engine)
    (plain : engine.kind = .imageMagick →
      ∀ extension, primitive = .convertFormat extension → '/' ∉ extension.toList) :
    Task.Keeps (StaysReady engine) (engine.apply primitive) := by
  have stepped : Task.Keeps (StaysReady engine)
      (Engine.onJob (Engine.applyToCommand primitive) (Vips.apply primitive)) := by
    intro session ready
    obtain ⟨world, job⟩ := session
    cases job with
    | none => exact ready
    | some job =>
      cases job with
      | vips job =>
        intro command same
        cases same
      | magick command =>
        obtain ⟨magick, formatted⟩ := ready command rfl
        rw [Engine.run_onJob_magick, Engine.applyToCommand, Task.run_bind, Task.run_ofOutcome]
        cases applied : Magick.apply command primitive with
        | error failure => exact ready
        | ok changed =>
          intro other same
          cases same
          obtain ⟨words, -, same⟩ := Task.ok_of_bind applied
          cases same
          exact ⟨magick, prepare_format formatted (plain magick)⟩
  unfold Engine.apply
  split
  · exact .succeed (history engine) ()
  · exact stepped

theorem applyDirective (engine : Engine) (directive : Directive) :
    Task.Keeps (StaysReady engine) (engine.applyDirective directive) := by
  have stays := history engine
  unfold Engine.applyDirective
  split
  · unfold Engine.handOn
    split
    · refine .bind stays (onWorld engine _) fun _ => ?_
      exact .bind stays (apply engine fun _ _ same => nomatch same) fun _ => .succeed stays _
    · exact onWorld engine _
  · rename_i other
    have notMagick : engine.kind ≠ .imageMagick := by
      intro magick
      exact other (by simp [Engine.passesOptions, magick])
    -- A primitive of the other engine may set any format: there is no command to set it in.
    unfold Engine.interpret
    split
    · exact onWorld engine _
    · exact onWorld engine _
    · refine .bind stays (.ofOutcome stays _) fun primitive => ?_
      split
      · refine .bind stays (apply engine fun magick => absurd magick notMagick) fun _ => ?_
        exact .succeed stays _
      · exact .bind stays (onWorld engine _) fun _ => .succeed stays _

theorem applyResize (engine : Engine) (resize : Resize) :
    Task.Keeps (StaysReady engine) (engine.applyResize resize) := by
  have stays := history engine
  intro session ready
  unfold Engine.applyResize
  rw [Task.run_bind, Task.run_ofOutcome]
  cases chosen : Primitive.ofResize resize with
  | error failure => exact ready
  | ok primitive =>
    cases primitive with
    | none => exact ready
    | some primitive =>
      refine apply engine (fun _ extension same => ?_) session ready
      subst same
      cases resize <;> cases chosen

theorem step {operation : Operation} (engine : Engine)
    (other : ∀ destination, operation ≠ .save destination)
    (plain : ∀ extension, operation = .convertFormat extension → '/' ∉ extension.toList) :
    Task.Keeps (StaysReady engine) (Pipeline.step engine operation) := by
  have stays := history engine
  have applied {primitive : Primitive}
      (unformatted : ∀ extension, primitive ≠ .convertFormat extension) :
      Task.Keeps (StaysReady engine) (engine.apply primitive) :=
    apply engine fun _ extension same => absurd same (unformatted extension)
  refine .rescue stays ?_ fun failure => .fail stays _
  cases operation with
  | load source options => exact .bind stays (load engine _ _) fun _ => .succeed stays _
  | selectFrame index => exact .bind stays (applied (by simp)) fun _ => .succeed stays _
  | selectAllFrames => exact .bind stays (applied (by simp)) fun _ => .succeed stays _
  | autoOrient => exact .bind stays (applied (by simp)) fun _ => .succeed stays _
  | resize resize => exact .bind stays (applyResize engine _) fun _ => .succeed stays _
  | optimizeFrames =>
    refine .bind stays (applied (by simp)) fun _ => ?_
    split
    · exact .bind stays (onWorld engine _) fun _ => .succeed stays _
    · exact .succeed stays _
  | applyDirective directive =>
    exact .bind stays (applyDirective engine _) fun _ => .succeed stays _
  | convertFormat extension =>
    refine .bind stays (apply engine fun _ other same => ?_) fun _ => .succeed stays _
    cases same
    exact plain extension rfl
  | save destination => exact absurd rfl (other destination)
  | unknown shown => exact .fail stays _

end StaysReady

structure Path.IsReadable (path : Path) : Prop where
  rooted : path.root ≠ .relative
  readBack : Path.ofText path.text = path

theorem outputPath_words {command : MagickCommand} {destination : Path}
    (readable : destination.IsReadable)
    (formatted : ∀ format, command.format = some format → '/' ∉ format.toList)
    (start : List String) : Tool.outputPath (start ++ command.words destination) = destination := by
  have last : (start ++ command.words destination).getLastD "" = command.outputWord destination := by
    rw [MagickCommand.words, ← List.append_assoc, List.getLastD_concat]
  -- Neither the format nor the colon after it has a slash, and the path begins with one.
  obtain ⟨rest, text⟩ := Path.text_head readable.rooted
  have whole : destination.text.toList.dropWhile (· != '/') = destination.text.toList := by
    simp [text]
  have found : (command.outputWord destination).toList.dropWhile (· != '/') =
      destination.text.toList := by
    unfold MagickCommand.outputWord
    cases asked : command.format with
    | none => exact whole
    | some format =>
      simp only
      split
      · exact whole
      · rw [String.toList_append, String.toList_append, List.dropWhile_append_of_pos, whole]
        intro c member
        have apart : c ≠ '/' := by
          rintro rfl
          rcases List.mem_append.mp member with inFormat | colon
          · exact formatted format asked inFormat
          · simp at colon
        simpa using apart
  rw [Tool.outputPath, last, found, String.ofList_toList, readable.readBack]

namespace Fills

variable {destination : Path}

theorem save {engine : Engine} {session : Session} (readable : destination.IsReadable)
    (ready : engine.IsReady session) :
    Fills destination session.world ((engine.save destination).run session).2.world := by
  obtain ⟨world, job⟩ := session
  cases job with
  | none => exact history.refl world
  | some job =>
    cases job with
    | vips job => exact saveVips world job
    | magick command =>
      exact saveMagick engine.settings (outputPath_words readable (ready command rfl).2) world

end Fills

namespace Pipeline

theorem perform_world (engine : Engine) (operations : List Operation) (destination : Path)
    (world : World) :
    ((perform engine (operations ++ [.save destination])).run world).2 =
      match (Task.forAll (step engine) operations).run ⟨world, none⟩ with
      | (.error _, session) => session.world
      | (.ok _, session) => ((engine.save destination).run session).2.world := by
  have saving (session : Session) : ((step engine (.save destination)).run session).2 =
      ((engine.save destination).run session).2 := by
    have executed : execute engine (.save destination) =
      (fun _ => none) <$> engine.save destination := rfl
    unfold step
    rcases saved : (engine.save destination).run session with ⟨outcome, after⟩
    cases outcome with
    | ok answer =>
      rw [Task.run_rescue_of_ok (by rw [executed, Task.run_map, saved]; rfl)]
    | error failure =>
      rw [Task.run_rescue_of_error (by rw [executed, Task.run_map, saved]; rfl)]
      rfl
  rw [perform, Task.run_onPart, Task.run_bind, Task.run_forAll_append, Task.run_bind]
  rcases (Task.forAll (step engine) operations).run ⟨world, none⟩ with ⟨outcome, session⟩
  cases outcome with
  | error failure => rfl
  | ok results =>
    simp only [Task.run_bind, Task.run_forAll_single, saving]
    rcases ((step engine (.save destination)).run session).1 with failure | result <;> rfl

end Pipeline

end Thumbnailing
