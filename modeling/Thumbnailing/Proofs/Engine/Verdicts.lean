import Thumbnailing.Proofs.Engine.SaverNotes
import Thumbnailing.Proofs.World.Blame

set_option autoImplicit false

namespace Thumbnailing

namespace Vips

theorem onWorld_blames {Result : Type} {task : Task World Result} (blames : Blames id task) :
    Blames Prod.fst (onWorld task) := blames.onPart (fun _ => rfl) fun _ _ => rfl

theorem changeJob_blames (change : VipsJob → VipsJob) : Blames Prod.fst (changeJob change) :=
  .modify fun _ => rfl

theorem picture_blames : Blames Prod.fst picture := by
  refine .bind (.bind .read fun _ => .succeed _) fun job => ?_
  split
  · exact .succeed _
  · refine .bind (onWorld_blames ?_) fun picture => ?_
    · exact .bind Library.load_blames fun _ world _ => Library.openPicture_blamesFrom _ _ world
    · exact .bind (changeJob_blames _) fun _ => .succeed picture

theorem replacePicture_blames {task : Task World Picture} (blames : Blames id task) :
    Blames Prod.fst (do setPicture (← onWorld task)) :=
  .bind (onWorld_blames blames) fun _ => changeJob_blames _

theorem blamesOnPixels : IsPixelClass (Blames id) (fun task => Blames Prod.fst task) where
  draws picture certain := Library.transform_blames certain picture
  drawsOn := .bind
  asks picture := onWorld_blames (Library.hasAlpha_blames picture)
  succeed := .succeed
  bind := .bind
  picture := picture_blames
  replacePicture := replacePicture_blames

theorem apply_blames {name : String} {primitive : Primitive}
    (named : name ∈ primitive.directiveNames) : Blames Prod.fst (apply primitive) := by
  cases forSaving : primitive.isForSaving with
  | false => exact blamesOnPixels.apply named forSaving
  | true =>
    cases primitive with
    | strip | setQuality | interlace => exact .modify fun _ => rfl
    | _ => cases forSaving

end Vips

namespace Engine

def isUsable (name : String) (value : Option String) : Bool :=
  match name with
  | "quality" => (Argument.number? value).any Binary64.isFinite
  | "rotate" => (Argument.number? value).isSome
  | "blur" | "gaussian_blur" => (Argument.blurSigma? value).any fun sigma => !sigma.isZero
  | "colorspace" => value.any fun name => !name.isEmpty
  | _ => true

def verdict (directive : Directive) : DirectiveOutcome :=
  if directive.sign = .plus then
    ⟨directive, .unsupported, some (unsupportedMessage ("+" ++ directive.name))⟩
  else if (directiveSteps.lookup directive.key).isNone then
    ⟨directive, .unsupported, some (unsupportedMessage ("-" ++ directive.key))⟩
  else if isUsable directive.key directive.value then .applied directive
  else .skipped directive

def Judges (name : String) (step : DirectiveStep) : Prop :=
  ∀ value asked, step value = .ok asked → asked.isSome = isUsable name value

namespace Judges

theorem quality : Judges "quality" qualityStep := by
  intro value asked same
  unfold qualityStep at same
  simp only [isUsable]
  cases read : Argument.number? value with
  | none =>
    rw [read] at same
    cases same
    rfl
  | some number =>
    rw [read] at same
    cases number with
    | finite =>
      cases same
      rfl
    | _ => cases same

theorem rotate : Judges "rotate" fun value =>
    .ok ((Argument.number? value).map fun x => .rotate (.real x)) := by
  intro value asked same
  cases same
  exact Option.isSome_map

theorem blurStep_isSome (value : Option String) :
    (blurStep value).isSome = (Argument.blurSigma? value).any fun sigma => !sigma.isZero := by
  unfold blurStep
  cases Argument.blurSigma? value with
  | none => rfl
  | some sigma => cases flat : sigma.isZero <;> simp [flat]

theorem colourSpaceStep_isSome (value : Option String) :
    (colourSpaceStep value).isSome = value.any fun name => !name.isEmpty := by
  cases value with
  | none => rfl
  | some name => cases blank : name.isEmpty <;> simp [colourSpaceStep, blank]

theorem listed : ∀ entry ∈ directiveSteps, Judges entry.1 entry.2 := by
  have always {name : String} {choice : Option String → Option Primitive}
      (judged : ∀ value, (choice value).isSome = isUsable name value) :
      Judges name fun value => .ok (choice value) := by
    intro value asked same
    cases same
    exact judged value
  simp only [directiveSteps, List.forall_mem_cons]
  exact ⟨always fun _ => rfl, quality, rotate, always fun _ => rfl, always fun _ => rfl,
    always blurStep_isSome, always blurStep_isSome, always fun _ => rfl,
    always colourSpaceStep_isSome, always fun _ => rfl, always fun _ => rfl, always fun _ => rfl,
    always fun _ => rfl, always fun _ => rfl, List.forall_mem_nil _⟩

end Judges

theorem isSome_eq_isUsable {key : String} {step : DirectiveStep} {value : Option String}
    {asked : Option Primitive} (found : directiveSteps.lookup key = some step)
    (same : step value = .ok asked) : asked.isSome = isUsable key value := by
  obtain ⟨_, _, whole, -⟩ := List.lookup_eq_some_iff.mp found
  have member : (key, step) ∈ directiveSteps := by simp [whole]
  exact Judges.listed _ member value asked same

variable {engine : Engine} {directive : Directive} {session after : Session} {job : VipsJob}

theorem outcome_eq_verdict {outcome : DirectiveOutcome} (isVips : engine.kind = .vips)
    (ran : (engine.applyDirective directive).run session = (.ok outcome, after)) :
    outcome = verdict directive := by
  have own : engine.passesOptions = false := by simp [passesOptions, isVips]
  simp only [applyDirective, own, Bool.false_eq_true, if_false, interpret] at ran
  cases sign : directive.sign with
  | plus =>
    rw [sign] at ran
    cases ran
    simp [verdict, sign]
  | minus =>
    cases found : directiveSteps.lookup directive.key with
    | none =>
      rw [sign, found] at ran
      cases ran
      simp [verdict, sign, found]
    | some step =>
      rw [sign, found] at ran
      obtain ⟨asked, between, stepped, ran⟩ := Task.run_bind_eq_ok.mp ran
      have usable := isSome_eq_isUsable found (Prod.mk.inj stepped).1
      cases asked with
      | none =>
        cases ran
        simp [verdict, sign, found, ← usable]
      | some primitive =>
        obtain ⟨_, _, -, last⟩ := Task.run_bind_eq_ok.mp ran
        cases last
        simp [verdict, sign, found, ← usable]

theorem apply_blamesFrom {name : String} {primitive : Primitive} (isVips : engine.kind = .vips)
    (named : name ∈ primitive.directiveNames) (session : Session)
    (atWork : session.job = some (.vips job)) (present : session.world.HasLibrary) :
    BlamesFrom Session.world (engine.apply primitive) session := by
  obtain ⟨kind, settings⟩ := engine
  obtain ⟨world, _⟩ := session
  obtain rfl : kind = .vips := isVips
  obtain rfl := atWork
  have blamed := Vips.apply_blames named (world, job) present
  cases primitive with
  | optimizeFrames => cases named
  | _ => exact blamed

theorem applyDirective_blamesFrom (isVips : engine.kind = .vips)
    (finite : engine.asksEndlessQuality directive = false)
    (atWork : session.job = some (.vips job)) (present : session.world.HasLibrary) :
    BlamesFrom Session.world (engine.applyDirective directive) session := by
  -- The lines of the log come first, and they ask nothing.
  have logs (records : List LogRecord) :
      BlamesFrom Session.world (onWorld (logAll records)) session := .of_quiet ⟨rfl, rfl⟩ id
  rcases engine.applyDirective_cases directive with
    ⟨primitive, records, message, asked, comes⟩ | ⟨records, status, message, -, -, comes⟩ |
    ⟨failure, asked, -⟩
  · rw [comes]
    refine (logs records).bind fun _ between logged => ?_
    cases logged
    have applies : BlamesFrom Session.world (engine.apply primitive)
        (session.withLog (session.world.log ++ records)) :=
      apply_blamesFrom isVips (request_named isVips asked) _ atWork present
    exact applies.bind fun _ _ _ => .of_ok rfl
  · rw [comes]
    exact (logs records).bind fun _ _ _ => .of_ok rfl
  · have accepted := request_isOk engine directive
    rw [asked, finite] at accepted
    cases accepted

theorem run_endless (endless : engine.asksEndlessQuality directive = true) :
    ∃ fault, (fault = .infinityToInteger ∨ fault = .undefinedToInteger) ∧
      (engine.applyDirective directive).run session = (.error (.arithmetic fault), session) := by
  simp only [asksEndlessQuality, Bool.and_eq_true, Bool.not_eq_true', beq_iff_eq,
    Option.any_eq_true] at endless
  obtain ⟨⟨⟨own, sign⟩, key⟩, number, read, infinite⟩ := endless
  have found : directiveSteps.lookup directive.key = some qualityStep := by
    rw [key]
    rfl
  have comes : engine.applyDirective directive = engine.carryOut directive qualityStep := by
    simp only [applyDirective, own, Bool.false_eq_true, if_false, interpret, sign, found]
  simp only [comes, carryOut, qualityStep, read]
  cases number with
  | finite => cases infinite
  | infinite => exact ⟨.infinityToInteger, .inl rfl, rfl⟩
  | undefined => exact ⟨.undefinedToInteger, .inr rfl, rfl⟩

/-- As long as no call of the library fails, a directive gets its verdict, unless it asks for a
quality that is no finite number, which ends the run. -/
theorem applyDirective_verdict (isVips : engine.kind = .vips)
    (atWork : session.job = some (.vips job)) (present : session.world.HasLibrary)
    (succeed :
      session.world.faultsSince ((engine.applyDirective directive).run session).2.world = []) :
    (engine.asksEndlessQuality directive = false →
      ((engine.applyDirective directive).run session).1 = .ok (verdict directive)) ∧
    (engine.asksEndlessQuality directive = true →
      ∃ fault, (fault = .infinityToInteger ∨ fault = .undefinedToInteger) ∧
        (engine.applyDirective directive).run session = (.error (.arithmetic fault), session)) := by
  refine ⟨fun finite => ?_, run_endless⟩
  obtain ⟨outcome, ended⟩ := (applyDirective_blamesFrom isVips finite atWork present).isOk succeed
  have verdict := outcome_eq_verdict isVips (Prod.ext ended rfl)
  rw [ended, verdict]

def quarterTurn : Directive := ⟨"rotate", some "90", .minus, []⟩

theorem quarterTurn_applied :
    ((libvips.applyDirective quarterTurn).run begun).1 = .ok (.applied quarterTurn) := by
  have succeed : begun.world.faultsSince
      ((libvips.applyDirective quarterTurn).run begun).2.world = [] := by
    refine List.eq_nil_of_length_eq_zero ?_
    decide +kernel
  have finite : libvips.asksEndlessQuality quarterTurn = false := by decide +kernel
  have applied : verdict quarterTurn = .applied quarterTurn := by decide +kernel
  rw [← applied]
  exact (applyDirective_verdict rfl rfl (.inr rfl) succeed).1 finite

def undefinedQuality : Directive := ⟨"quality", some "nan", .minus, []⟩

theorem undefinedQuality_escapes :
    ¬ ∀ (engine : Engine) (directive : Directive) (session : Session) (job : VipsJob),
      engine.kind = .vips → session.job = some (.vips job) → session.world.HasLibrary →
      session.world.faultsSince ((engine.applyDirective directive).run session).2.world = [] →
      ∃ outcome, ((engine.applyDirective directive).run session).1 = .ok outcome ∧
        outcome.status ∈ [DirectiveStatus.applied, .unsupported, .skipped] := by
  intro claimed
  obtain ⟨outcome, ended, -⟩ := claimed libvips undefinedQuality begun _ rfl rfl (.inr rfl)
    (List.eq_nil_of_length_eq_zero (by decide +kernel))
  have escapes : ((libvips.applyDirective undefinedQuality).run begun).1.isOk = false := by
    decide +kernel
  rw [ended] at escapes
  cases escapes

end Engine

end Thumbnailing
