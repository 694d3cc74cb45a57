import Thumbnailing.Directive.LoaderOptions
import Thumbnailing.Proofs.Engine.Blindness
import Thumbnailing.Proofs.World.Plain

set_option autoImplicit false

namespace Thumbnailing

def Binary64.isFinite : Binary64 → Bool
  | .finite .. => true
  | _ => false

def Directive.withoutSurplus (directive : Directive) : Directive :=
  match directive.value, Vocabulary.argumentCount directive.key with
  | none, count => { directive with extra := directive.extra.take count }
  | some _, 0 => { directive with value := none, extra := [] }
  | some _, count + 1 => { directive with extra := directive.extra.take count }

namespace Directive

variable (directive : Directive)

@[simp] theorem withoutSurplus_name : directive.withoutSurplus.name = directive.name := by
  unfold withoutSurplus
  split <;> rfl

@[simp] theorem withoutSurplus_sign : directive.withoutSurplus.sign = directive.sign := by
  unfold withoutSurplus
  split <;> rfl

@[simp] theorem withoutSurplus_key : directive.withoutSurplus.key = directive.key := by
  simp [key]

@[simp] theorem withoutSurplus_flag : directive.withoutSurplus.flag = directive.flag := by
  simp [flag]

theorem withoutSurplus_arguments : directive.withoutSurplus.arguments =
    directive.arguments.take (Vocabulary.argumentCount directive.key) := by
  unfold withoutSurplus arguments
  split
  · rename_i none
    simp [none]
  · rename_i given count
    simp [count]
  · rename_i given count
    simp [given, count]

theorem withoutSurplus_value (takes : Vocabulary.argumentCount directive.key ≠ 0) :
    directive.withoutSurplus.value = directive.value := by
  unfold withoutSurplus
  split
  · rfl
  · rename_i count
    exact absurd count takes
  · rfl

end Directive

namespace Engine

def request (engine : Engine) (directive : Directive) : Outcome (Option Primitive) :=
  if engine.passesOptions then
    .ok (if Vocabulary.isAllowed directive.key then some (.passThrough (keptWords directive)) else none)
  else
    match directive.sign, directiveSteps.lookup directive.key with
    | .minus, some step => step directive.value
    | _, _ => .ok none

theorem step_cases {key : String} {step : DirectiveStep}
    (found : directiveSteps.lookup key = some step) :
    (key = "quality" ∧ step = qualityStep) ∨
      key ≠ "quality" ∧ ∃ choice : Option String → Option Primitive,
        step = (fun value => .ok (choice value)) ∧
        (Vocabulary.argumentCount key = 0 → ∀ value, choice value = choice none) := by
  obtain ⟨_, _, whole, -⟩ := List.lookup_eq_some_iff.mp found
  have member : (key, step) ∈ directiveSteps := by simp [whole]
  simp only [directiveSteps, List.mem_cons, Prod.mk.injEq, List.not_mem_nil, or_false] at member
  rcases member with ⟨rfl, rfl⟩ | quality | ⟨rfl, rfl⟩ | ⟨rfl, rfl⟩ | ⟨rfl, rfl⟩ | ⟨rfl, rfl⟩ |
    ⟨rfl, rfl⟩ | ⟨rfl, rfl⟩ | ⟨rfl, rfl⟩ | ⟨rfl, rfl⟩ | ⟨rfl, rfl⟩ | ⟨rfl, rfl⟩ | ⟨rfl, rfl⟩ |
    ⟨rfl, rfl⟩
  case inr.inl => exact .inl quality
  all_goals refine .inr ⟨by decide, _, rfl, fun without => ?_⟩
  all_goals first
    | exact fun _ => rfl
    | exact absurd without (by decide +kernel)

theorem step_surplus {key : String} {step : DirectiveStep}
    (found : directiveSteps.lookup key = some step) (without : Vocabulary.argumentCount key = 0)
    (value : Option String) : step value = step none := by
  rcases step_cases found with ⟨rfl, -⟩ | ⟨-, choice, rfl, blind⟩
  · exact absurd without (by decide +kernel)
  · exact congrArg Except.ok (blind without value)

theorem request_withoutSurplus (engine : Engine) (directive : Directive) :
    engine.request directive.withoutSurplus = engine.request directive := by
  unfold request
  simp only [keptWords, Directive.withoutSurplus_key, Directive.withoutSurplus_sign,
    Directive.withoutSurplus_flag, Directive.withoutSurplus_arguments, List.take_take, Nat.min_self]
  split
  · rfl
  · split
    · rename_i step _ found
      by_cases without : Vocabulary.argumentCount directive.key = 0
      · rw [step_surplus found without, ← step_surplus found without directive.value]
      · rw [directive.withoutSurplus_value without]
    · rfl

theorem onWorld_logAll_nil : onWorld (logAll []) = (pure () : Task Session Unit) := by
  apply Task.ext
  rintro ⟨world, job⟩
  rw [run_onWorld, run_logAll, World.append_nil]
  rfl

theorem applyDirective_cases (engine : Engine) (directive : Directive) :
    (∃ primitive records message, engine.request directive = .ok (some primitive) ∧
      engine.applyDirective directive = (do
        onWorld (logAll records)
        engine.apply primitive
        return ⟨directive, .applied, message⟩)) ∨
    (∃ records status message, engine.request directive = .ok none ∧
      status ≠ DirectiveStatus.applied ∧
      engine.applyDirective directive = (do
        onWorld (logAll records)
        return ⟨directive, status, message⟩)) ∨
    ∃ failure, engine.request directive = .error failure ∧
      engine.applyDirective directive = .fail failure := by
  unfold request applyDirective
  by_cases passes : engine.passesOptions = true
  · rw [if_pos passes, if_pos passes]
    unfold handOn
    by_cases allowed : Vocabulary.isAllowed directive.key = true
    · rw [if_pos allowed, if_pos allowed]
      exact .inl ⟨_, _, _, rfl, rfl⟩
    · rw [if_neg allowed, if_neg allowed]
      exact .inr (.inl ⟨_, .disallowed, _, rfl, nofun, rfl⟩)
  · rw [if_neg passes, if_neg passes]
    unfold interpret
    cases directive.sign with
    | plus => exact .inr (.inl ⟨_, .unsupported, _, rfl, nofun, rfl⟩)
    | minus =>
      cases directiveSteps.lookup directive.key with
      | none => exact .inr (.inl ⟨_, .unsupported, _, rfl, nofun, rfl⟩)
      | some step =>
        simp only [carryOut]
        cases step directive.value with
        | error failure => exact .inr (.inr ⟨failure, rfl, rfl⟩)
        | ok asked =>
          cases asked with
          | none => exact .inr (.inl ⟨[skipRecord directive], .skipped, none, rfl, nofun, rfl⟩)
          | some primitive =>
            refine .inl ⟨primitive, [], none, rfl, ?_⟩
            rw [onWorld_logAll_nil, pure_bind]
            rfl

/-- A quality that is no finite number, on an engine that takes the value for a number. -/
def asksEndlessQuality (engine : Engine) (directive : Directive) : Bool :=
  !engine.passesOptions && directive.sign == .minus && directive.key == "quality" &&
    (Argument.number? directive.value).any fun number => !number.isFinite

theorem qualityStep_isOk (value : Option String) :
    (qualityStep value).isOk = !(Argument.number? value).any fun number => !number.isFinite := by
  unfold qualityStep
  cases Argument.number? value with
  | none => rfl
  | some number => cases number <;> rfl

theorem request_isOk (engine : Engine) (directive : Directive) :
    (engine.request directive).isOk = !engine.asksEndlessQuality directive := by
  unfold request asksEndlessQuality
  cases engine.passesOptions with
  | true => rfl
  | false =>
    cases directive.sign with
    | plus => rfl
    | minus =>
      cases found : directiveSteps.lookup directive.key with
      | none =>
        have other : (directive.key == "quality") = false := by
          refine beq_false_of_ne fun same => ?_
          rw [same] at found
          cases found
        simp only [other, Bool.and_false, Bool.false_and, Bool.not_false]
        rfl
      | some step =>
        rcases step_cases found with ⟨quality, rfl⟩ | ⟨other, choice, rfl, -⟩
        · simpa [quality] using qualityStep_isOk directive.value
        · simp only [beq_false_of_ne other, Bool.and_false, Bool.false_and, Bool.not_false]
          rfl

theorem run_onWorld_logAll (records : List LogRecord) (session : Session) :
    (onWorld (logAll records)).run session =
      (.ok (), session.withLog (session.world.log ++ records)) := rfl

theorem apply_isBlind (engine : Engine) (primitive : Primitive) :
    IsBlind Session.withLog (engine.apply primitive) := blind.applyPrimitive engine primitive

variable {engine : Engine} {directive : Directive} {session after : Session}

theorem applyDirective_again {outcome : DirectiveOutcome}
    (ran : (engine.applyDirective directive).run session = (.ok outcome, after))
    (log : List LogRecord) :
    outcome.directive = directive ∧
      if outcome.isApplied then
        ∃ message further, (engine.applyDirective directive.withoutSurplus).run
            (session.withLog log) =
          (.ok ⟨directive.withoutSurplus, .applied, message⟩, after.withLog further)
      else ∃ further, after = session.withLog further := by
  rcases engine.applyDirective_cases directive with
    ⟨primitive, records, message, asked, comes⟩ | ⟨records, status, message, asked, other, comes⟩ |
    ⟨failure, -, comes⟩
  · rw [comes, Task.run_bind_of_ok (run_onWorld_logAll records session)] at ran
    obtain ⟨_, between, applied, last⟩ := Task.run_bind_eq_ok.mp ran
    cases last
    refine ⟨rfl, ?_⟩
    rw [← request_withoutSurplus] at asked
    rcases engine.applyDirective_cases directive.withoutSurplus with
      ⟨same, fewer, less, askedToo, comesToo⟩ | ⟨_, _, _, idle, -, -⟩ | ⟨_, refused, -⟩
    · cases asked.symm.trans askedToo
      obtain ⟨further, again⟩ := (engine.apply_isBlind primitive).run_vary (fun _ _ _ => rfl) applied
        (log ++ fewer)
      refine ⟨less, further, ?_⟩
      rw [comesToo, Task.run_bind_of_ok (run_onWorld_logAll fewer (session.withLog log))]
      exact Task.run_bind_of_ok again
    · cases asked.symm.trans idle
    · cases asked.symm.trans refused
  · rw [comes, Task.run_bind_of_ok (run_onWorld_logAll records session)] at ran
    cases ran
    have dropped : (⟨directive, status, message⟩ : DirectiveOutcome).isApplied = false :=
      beq_false_of_ne other
    rw [if_neg (by simp [dropped])]
    exact ⟨rfl, _, rfl⟩
  · rw [comes] at ran
    cases ran

/-- The directives that were applied, without their surplus words. -/
def effective (outcomes : List DirectiveOutcome) : List Directive :=
  (outcomes.filter DirectiveOutcome.isApplied).map fun outcome => outcome.directive.withoutSurplus

theorem applyDirectives_again {directives : List Directive} {outcomes : List DirectiveOutcome}
    (ran : (Task.forAll engine.applyDirective directives).run session = (.ok outcomes, after))
    (log : List LogRecord) :
    outcomes.map DirectiveOutcome.directive = directives ∧
      ∃ repeated further,
        (Task.forAll engine.applyDirective (effective outcomes)).run (session.withLog log) =
          (.ok repeated, after.withLog further) ∧
        repeated.map DirectiveOutcome.directive = effective outcomes ∧
        ∀ outcome ∈ repeated, outcome.isApplied = true := by
  -- Both runs are general in where they start: they part ways in the log from the first line on.
  induction directives generalizing session outcomes log with
  | nil =>
    cases ran
    exact ⟨rfl, [], log, rfl, rfl, by simp⟩
  | cons directive rest ih =>
    obtain ⟨outcome, between, first, ran⟩ := Task.run_bind_eq_ok.mp ran
    obtain ⟨others, _, second, last⟩ := Task.run_bind_eq_ok.mp ran
    cases last
    obtain ⟨own, effect⟩ := applyDirective_again first log
    cases applied : outcome.isApplied with
    | false =>
      rw [if_neg (by simp [applied])] at effect
      obtain ⟨further, rfl⟩ := effect
      obtain ⟨same, again⟩ := ih second log
      have first : effective (outcome :: others) = effective others := by simp [effective, applied]
      rw [first]
      exact ⟨by rw [List.map_cons, own, same], again⟩
    | true =>
      rw [if_pos applied] at effect
      obtain ⟨message, further, repeated⟩ := effect
      obtain ⟨same, later, last, again, directives, allApplied⟩ := ih second further
      refine ⟨by rw [List.map_cons, own, same],
        ⟨directive.withoutSurplus, .applied, message⟩ :: later, last, ?_⟩
      have first : effective (outcome :: others) =
          directive.withoutSurplus :: effective others := by
        simp [effective, applied, own]
      rw [first]
      refine ⟨?_, by rw [List.map_cons, directives], ?_⟩
      · rw [Task.forAll, Task.run_bind_of_ok repeated, Task.run_bind_of_ok again]
        rfl
      · exact List.forall_mem_cons.mpr ⟨rfl, allApplied⟩

def primitivesSucceed (engine : Engine) : List Directive → Session → Bool
  | [], _ => true
  | directive :: rest, session =>
    (match engine.request directive with
      | .ok (some primitive) => ((engine.apply primitive).run session).1.isOk
      | _ => true) &&
    primitivesSucceed engine rest ((engine.applyDirective directive).run session).2

theorem applyDirective_isOk {rest : List Directive}
    (succeed : engine.primitivesSucceed (directive :: rest) session = true) :
    ((engine.applyDirective directive).run session).1.isOk =
      !engine.asksEndlessQuality directive := by
  rw [primitivesSucceed, Bool.and_eq_true] at succeed
  rw [← request_isOk]
  rcases engine.applyDirective_cases directive with
    ⟨primitive, records, message, asked, comes⟩ | ⟨records, status, message, asked, -, comes⟩ |
    ⟨failure, asked, comes⟩
  · obtain ⟨further, applied⟩ := engine.apply_isBlind primitive session (session.world.log ++ records)
    rw [asked] at succeed
    have works : ((engine.apply primitive).run session).1.isOk = true := succeed.1
    rw [comes, asked, Task.run_bind_of_ok (run_onWorld_logAll records session), Task.run_bind, applied]
    cases ran : ((engine.apply primitive).run session).1 with
    | ok _ => rfl
    | error failure =>
      rw [ran] at works
      cases works
  · rw [comes, asked]
    rfl
  · rw [comes, asked]
    rfl

theorem applyDirectives_isOk {directives : List Directive}
    (succeed : engine.primitivesSucceed directives session = true) :
    ((Task.forAll engine.applyDirective directives).run session).1.isOk =
      !directives.any engine.asksEndlessQuality := by
  induction directives generalizing session with
  | nil => rfl
  | cons directive rest ih =>
    have started := applyDirective_isOk succeed
    rw [primitivesSucceed, Bool.and_eq_true] at succeed
    have later := ih succeed.2
    rw [List.any_cons, Bool.not_or, ← started, ← later, Task.forAll]
    rcases ran : (engine.applyDirective directive).run session with ⟨outcome, between⟩
    cases outcome with
    | error failure =>
      rw [Task.run_bind_of_error ran]
      rfl
    | ok outcome =>
      rw [Task.run_bind_of_ok ran, Task.run_bind]
      rcases (Task.forAll engine.applyDirective rest).run between with ⟨_ | _, _⟩ <;> rfl

/-- Where no primitive fails, every directive gets its outcome, exactly if no quality is asked for
that is no finite number. The directives that were applied, without their surplus words, then do all
that the whole list does, but for the log. -/
theorem applyDirectives_effective (engine : Engine) (directives : List Directive)
    (session : Session) (succeed : engine.primitivesSucceed directives session = true) :
    ((Task.forAll engine.applyDirective directives).run session).1.isOk =
        !directives.any engine.asksEndlessQuality ∧
      ∀ outcomes after,
        (Task.forAll engine.applyDirective directives).run session = (.ok outcomes, after) →
        outcomes.map DirectiveOutcome.directive = directives ∧
          ∃ repeated log,
            (Task.forAll engine.applyDirective (effective outcomes)).run session =
              (.ok repeated, after.withLog log) ∧
            repeated.map DirectiveOutcome.directive = effective outcomes ∧
            ∀ outcome ∈ repeated, outcome.isApplied = true :=
  ⟨applyDirectives_isOk succeed, fun _ _ ran => applyDirectives_again ran session.world.log⟩

def begun : Session := ⟨.plain, some (.vips ⟨none, [], none, [], none⟩)⟩

def libvips : Engine := ⟨.vips, .standard⟩

def mixedWords : List String := ["-strip", "word", "-swirl", "60", "-quality", "best", "-flip"]

theorem mixed_effective :
    ((Task.forAll libvips.applyDirective (Tokens.ofWords mixedWords).directives).run begun).1.isOk =
      true := by
  rw [(applyDirectives_effective libvips (Tokens.ofWords mixedWords).directives begun
    (by decide +kernel)).1]
  decide +kernel

theorem endless_quality_escapes :
    ¬ ∀ (engine : Engine) (directives : List Directive) (session : Session),
      engine.primitivesSucceed directives session = true →
      ∃ outcomes after,
        (Task.forAll engine.applyDirective directives).run session = (.ok outcomes, after) ∧
        outcomes.map DirectiveOutcome.directive = directives := by
  intro claimed
  obtain ⟨outcomes, after, ran, -⟩ := claimed libvips
    (Tokens.ofWords ["-quality", "inf"]).directives begun (by decide +kernel)
  have escapes : ((Task.forAll libvips.applyDirective
      (Tokens.ofWords ["-quality", "inf"]).directives).run begun).1.isOk = false := by
    decide +kernel
  rw [ran] at escapes
  cases escapes

end Engine

end Thumbnailing
