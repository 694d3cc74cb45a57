import Thumbnailing.Proofs.Engine.Effects
import Thumbnailing.Proofs.Engine.PixelWork

set_option autoImplicit false

namespace Thumbnailing

def Overlooks {State Result : Type} (change : State → State) (task : Task State Result) : Prop :=
  ∀ state, task.run (change state) = ((task.run state).1, change (task.run state).2)

namespace Overlooks

variable {State Result Other : Type} {change : State → State}

theorem ofOutcome (outcome : Outcome Result) :
    Overlooks change (Task.ofOutcome outcome : Task State Result) := fun _ => rfl

theorem bind {task : Task State Result} {next : Result → Task State Other}
    (first : Overlooks change task) (rest : ∀ result, Overlooks change (next result)) :
    Overlooks change (task >>= next) := by
  intro state
  rw [Task.run_bind, Task.run_bind, first state]
  rcases task.run state with ⟨outcome, between⟩
  cases outcome with
  | error failure => rfl
  | ok result => exact rest result between

end Overlooks

theorem Task.IsClosed.overlooks {State : Type} (change : State → State) :
    IsClosed fun task => Overlooks change task where
  ofOutcome := .ofOutcome
  bind := .bind

def VipsJob.noting (change : Entries → Entries) (job : VipsJob) : VipsJob :=
  { job with saverOptions := change job.saverOptions }

def Job.noting (change : Entries → Entries) : Job → Job
  | .magick command => .magick command
  | .vips job => .vips (job.noting change)

def Session.noting (change : Entries → Entries) (session : Session) : Session :=
  { session with job := session.job.map (Job.noting change) }

theorem Session.noting_noting (first last : Entries → Entries) (session : Session) :
    (session.noting first).noting last = session.noting (last ∘ first) := by
  obtain ⟨world, job⟩ := session
  rcases job with _ | _ | _ <;> rfl

namespace Vips

variable (change : Entries → Entries)

def noted (state : World × VipsJob) : World × VipsJob := (state.1, state.2.noting change)

theorem picture_overlooks : Overlooks (noted change) picture := by
  have opens (source : Option Path) (options : Entries) : Overlooks (noted change) (do
      let made ← onWorld do
        Library.load
        Library.openPicture (pathText source) options
      setPicture made
      return made) :=
    .bind (fun _ => rfl) fun _ => .bind (fun _ => rfl) fun _ => .ofOutcome (.ok _)
  rintro ⟨world, ⟨source, options, kept, saverOptions, format⟩⟩
  cases kept with
  | none => exact opens source options _
  | some picture => rfl

theorem replace_overlooks (task : Task World Picture) :
    Overlooks (noted change) (do setPicture (← onWorld task)) :=
  .bind (fun _ => rfl) fun _ _ => rfl

theorem overlooksOnPixels :
    IsPixelClass (fun _ => True) (fun task => Overlooks (noted change) task) where
  draws _ _ := trivial
  drawsOn _ _ := trivial
  asks _ _ := rfl
  succeed result := .ofOutcome (.ok result)
  bind := .bind
  picture := picture_overlooks change
  replacePicture _ := replace_overlooks change _

end Vips

namespace Engine

variable {engine : Engine} {directive : Directive} {change : Entries → Entries}

theorem apply_overlooks {name : String} {primitive : Primitive}
    (named : name ∈ primitive.directiveNames) (onPixels : primitive.isForSaving = false) :
    Overlooks (Session.noting change) (engine.apply primitive) := by
  have adds (command : MagickCommand) :
      Overlooks (Session.noting change) (applyToCommand primitive command) :=
    .bind (.ofOutcome _) fun _ _ => rfl
  have works : Overlooks (Session.noting change)
      (onJob (applyToCommand primitive) (Vips.apply primitive)) := by
    rintro ⟨world, job⟩
    cases job with
    | none => rfl
    | some job =>
      cases job with
      | magick command => exact adds command ⟨world, some (.magick command)⟩
      | vips job =>
        have ran := (Vips.overlooksOnPixels change).apply named onPixels (world, job)
        simp only [Vips.noted] at ran
        simp only [Session.noting, Option.map_some, Job.noting, run_onJob_vips, ran]
  unfold apply
  split
  · exact .ofOutcome (.ok ())
  · exact works

theorem request_named {primitive : Primitive} (isVips : engine.kind = .vips)
    (asked : engine.request directive = .ok (some primitive)) :
    directive.key ∈ primitive.directiveNames := by
  have own : engine.passesOptions = false := by simp [passesOptions, isVips]
  simp only [request, own, Bool.false_eq_true, if_false] at asked
  split at asked
  · rename_i found
    exact mem_directiveNames found asked
  · cases asked

theorem applyDirective_overlooks (isVips : engine.kind = .vips)
    (onPixels : directive.isForSaving = false) :
    Overlooks (Session.noting change) (engine.applyDirective directive) := by
  have logs (records : List LogRecord) :
      Overlooks (Session.noting change) (onWorld (logAll records)) := fun _ => rfl
  rcases engine.applyDirective_cases directive with
    ⟨primitive, records, message, asked, comes⟩ | ⟨records, status, message, -, -, comes⟩ |
    ⟨failure, -, comes⟩
  · have named := request_named isVips asked
    rw [isForSaving_of_named named] at onPixels
    rw [comes]
    exact (logs records).bind fun _ =>
      (apply_overlooks named onPixels).bind fun _ => .ofOutcome (.ok _)
  · rw [comes]
    exact (logs records).bind fun _ => .ofOutcome (.ok _)
  · rw [comes]
    exact .ofOutcome (.error failure)

end Engine

def Primitive.note : Primitive → Entries → Entries
  | .strip => fun options => options.put "strip" (.boolean true)
  | .setQuality quality => fun options => options.put "Q" (.integer quality)
  | .interlace enabled => fun options => options.put "interlace" (.boolean enabled)
  | _ => id

namespace Engine

variable {engine : Engine} {directive : Directive} {world : World} {job : VipsJob}

def note (engine : Engine) (directive : Directive) : Entries → Entries :=
  match engine.request directive with
  | .ok (some primitive) => primitive.note
  | _ => id

theorem run_apply_note (isVips : engine.kind = .vips) {primitive : Primitive}
    (forSaving : primitive.isForSaving = true) (session : Session)
    (atWork : session.job = some (.vips job)) :
    (engine.apply primitive).run session = (.ok (), session.noting primitive.note) := by
  obtain ⟨kind, settings⟩ := engine
  obtain ⟨world, _⟩ := session
  obtain rfl : kind = .vips := isVips
  obtain rfl := atWork
  cases primitive with
  | strip | setQuality | interlace => rfl
  | _ => cases forSaving

theorem run_applyDirective_note (isVips : engine.kind = .vips)
    (forSaving : directive.isForSaving = true) (accepted : (engine.request directive).isOk = true)
    (session : Session) (atWork : session.job = some (.vips job)) :
    ∃ outcome log, (engine.applyDirective directive).run session =
      (.ok outcome, (session.noting (engine.note directive)).withLog log) := by
  rcases engine.applyDirective_cases directive with
    ⟨primitive, records, message, asked, comes⟩ | ⟨records, status, message, asked, -, comes⟩ |
    ⟨failure, asked, -⟩
  · rw [isForSaving_of_named (request_named isVips asked)] at forSaving
    have applied := run_apply_note isVips forSaving
      (session.withLog (session.world.log ++ records)) atWork
    refine ⟨⟨directive, .applied, message⟩, session.world.log ++ records, ?_⟩
    rw [comes, Task.run_bind_of_ok (run_onWorld_logAll records session),
      Task.run_bind_of_ok applied]
    simp only [note, asked]
    rfl
  · refine ⟨⟨directive, status, message⟩, session.world.log ++ records, ?_⟩
    have unnoted : session.noting id = session := by
      obtain ⟨world, _⟩ := session
      obtain rfl := atWork
      rfl
    rw [comes, Task.run_bind_of_ok (run_onWorld_logAll records session)]
    simp only [note, asked, unnoted]
    rfl
  · simp [asked, Except.isOk, Except.toBool] at accepted

theorem request_isOk_of_ran {outcome : DirectiveOutcome} {session after : Session}
    (ran : (engine.applyDirective directive).run session = (.ok outcome, after)) :
    (engine.request directive).isOk = true := by
  rcases engine.applyDirective_cases directive with
    ⟨_, _, _, asked, -⟩ | ⟨_, _, _, asked, -, -⟩ | ⟨_, -, comes⟩
  · rw [asked]
    rfl
  · rw [asked]
    rfl
  · rw [comes] at ran
    cases ran

end Engine

end Thumbnailing
