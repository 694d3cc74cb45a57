import Thumbnailing.Proofs.Engine.SaverNotes

set_option autoImplicit false

namespace Thumbnailing

/-- Two lists merged into a third one, in which each keeps its order. -/
inductive Interleaves {Item : Type} : List Item → List Item → List Item → Prop
  | nil : Interleaves [] [] []
  | left {item : Item} {first second merged : List Item} :
    Interleaves first second merged → Interleaves (item :: first) second (item :: merged)
  | right {item : Item} {first second merged : List Item} :
    Interleaves first second merged → Interleaves first (item :: second) (item :: merged)

def Session.isAtWork (session : Session) : Prop := ∃ job, session.job = some (.vips job)

namespace Engine

variable {engine : Engine}

def StaysAtWork (before after : Session) : Prop := before.isAtWork → after.isAtWork

theorem StaysAtWork.history : Task.IsHistory StaysAtWork where
  refl _ atWork := atWork
  trans first rest atWork := rest (first atWork)

theorem applyDirective_staysAtWork (engine : Engine) (directive : Directive) :
    Task.Keeps StaysAtWork (engine.applyDirective directive) := by
  have closed := Task.IsClosed.keeps StaysAtWork.history
  have logs (records : List LogRecord) : Task.Keeps StaysAtWork (onWorld (logAll records)) :=
    fun _ atWork => atWork
  have applies (primitive : Primitive) : Task.Keeps StaysAtWork (engine.apply primitive) := by
    unfold apply
    split
    · exact closed.succeed ()
    · rintro ⟨world, _⟩ ⟨job, rfl⟩
      exact ⟨_, rfl⟩
  rcases engine.applyDirective_cases directive with
    ⟨primitive, records, message, -, comes⟩ | ⟨records, status, message, -, -, comes⟩ |
    ⟨failure, -, comes⟩ <;> rw [comes]
  · exact closed.bind (logs records) fun _ =>
      closed.bind (applies primitive) fun _ => closed.succeed _
  · exact closed.bind (logs records) fun _ => closed.succeed _
  · exact closed.fail failure

def notes (engine : Engine) : List Directive → Entries → Entries
  | [] => id
  | directive :: rest => engine.notes rest ∘ engine.note directive

variable {pixels savers merged : List Directive} {session after : Session}

theorem applyDirectives_overlook (isVips : engine.kind = .vips)
    (onPixels : ∀ directive ∈ pixels, directive.isForSaving = false) (change : Entries → Entries) :
    Overlooks (Session.noting change) (Task.forAll engine.applyDirective pixels) :=
  (Task.IsClosed.overlooks _).forAll fun directive member =>
    applyDirective_overlooks isVips (onPixels directive member)

theorem noting_nil (session : Session) : session.noting (engine.notes []) = session := by
  obtain ⟨world, job⟩ := session
  rcases job with _ | _ | _ <;> rfl

theorem pixels_of_merged (isVips : engine.kind = .vips)
    (onPixels : ∀ directive ∈ pixels, directive.isForSaving = false)
    (forSaving : ∀ directive ∈ savers, directive.isForSaving = true)
    (interleaves : Interleaves pixels savers merged) {outcomes : List DirectiveOutcome}
    (atWork : session.isAtWork)
    (ran : (Task.forAll engine.applyDirective merged).run session = (.ok outcomes, after))
    (log : List LogRecord) :
    (∀ directive ∈ savers, (engine.request directive).isOk = true) ∧
      ∃ alone reached further,
        (Task.forAll engine.applyDirective pixels).run (session.withLog log) = (.ok alone, reached) ∧
        after = (reached.noting (engine.notes savers)).withLog further := by
  -- The log before the run alone is general, since that run leaves out what the others log.
  induction interleaves generalizing session outcomes log with
  | nil =>
    cases ran
    exact ⟨by simp, [], _, after.world.log, rfl, by rw [noting_nil]; rfl⟩
  | @left directive pixels savers merged _ ih =>
    rw [List.forall_mem_cons] at onPixels
    obtain ⟨outcome, between, first, ran⟩ := Task.run_bind_eq_ok.mp ran
    obtain ⟨others, _, rest, last⟩ := Task.run_bind_eq_ok.mp ran
    cases last
    have still : between.isAtWork := by
      simpa [first] using engine.applyDirective_staysAtWork directive session atWork
    obtain ⟨middle, same⟩ := blind.applyDirective engine directive session log
    rw [first] at same
    obtain ⟨accepted, alone, reached, further, apart, ends⟩ :=
      ih onPixels.2 forSaving still rest middle
    refine ⟨accepted, outcome :: alone, reached, further, ?_, ends⟩
    rw [Task.forAll, Task.run_bind_of_ok same, Task.run_bind_of_ok apart]
    rfl
  | @right directive pixels savers merged _ ih =>
    rw [List.forall_mem_cons] at forSaving
    obtain ⟨outcome, between, first, ran⟩ := Task.run_bind_eq_ok.mp ran
    obtain ⟨others, _, rest, last⟩ := Task.run_bind_eq_ok.mp ran
    cases last
    have asked := request_isOk_of_ran first
    obtain ⟨job, own⟩ := atWork
    obtain ⟨_, noted, leaves⟩ := run_applyDirective_note isVips forSaving.1 asked session own
    cases first.symm.trans leaves
    have still : ((session.noting (engine.note directive)).withLog noted).isAtWork :=
      ⟨job.noting (engine.note directive), by simp [Session.withLog, Session.noting, own, Job.noting]⟩
    obtain ⟨accepted, alone, reached, further, apart, ends⟩ :=
      ih onPixels forSaving.2 still rest log
    -- The run alone starts without the note, so the note is set aside here and added at the end.
    have same := applyDirectives_overlook isVips onPixels (engine.note directive)
      (session.withLog log)
    rcases ranAlone : (Task.forAll engine.applyDirective pixels).run (session.withLog log) with
      ⟨outcome, unnoted⟩
    rw [ranAlone] at same
    cases same.symm.trans apart
    refine ⟨List.forall_mem_cons.mpr ⟨asked, accepted⟩, alone, unnoted, further, rfl, ?_⟩
    rw [ends, Session.noting_noting]
    rfl

theorem merged_of_pixels (isVips : engine.kind = .vips)
    (onPixels : ∀ directive ∈ pixels, directive.isForSaving = false)
    (forSaving : ∀ directive ∈ savers, directive.isForSaving = true)
    (interleaves : Interleaves pixels savers merged) {alone : List DirectiveOutcome}
    (accepted : ∀ directive ∈ savers, (engine.request directive).isOk = true)
    (atWork : session.isAtWork) {log : List LogRecord} {reached : Session}
    (apart : (Task.forAll engine.applyDirective pixels).run (session.withLog log) =
      (.ok alone, reached)) :
    ∃ outcomes further, (Task.forAll engine.applyDirective merged).run session =
      (.ok outcomes, (reached.noting (engine.notes savers)).withLog further) := by
  induction interleaves generalizing session alone reached log with
  | nil =>
    cases apart
    exact ⟨[], session.world.log, by rw [noting_nil]; rfl⟩
  | @left directive pixels savers merged _ ih =>
    rw [List.forall_mem_cons] at onPixels
    obtain ⟨outcome, between, first, apart⟩ := Task.run_bind_eq_ok.mp apart
    obtain ⟨others, _, rest, last⟩ := Task.run_bind_eq_ok.mp apart
    cases last
    obtain ⟨middle, same⟩ := (blind.applyDirective engine directive).run_vary
      (fun _ _ _ => rfl) first session.world.log
    have still := engine.applyDirective_staysAtWork directive session atWork
    have own : session.withLog session.world.log = session := rfl
    rw [own] at same
    rw [same] at still
    have rest : (Task.forAll engine.applyDirective pixels).run
        ((between.withLog middle).withLog between.world.log) = (.ok others, reached) := rest
    obtain ⟨outcomes, further, ran⟩ := ih onPixels.2 forSaving accepted still rest
    refine ⟨outcome :: outcomes, further, ?_⟩
    rw [Task.forAll, Task.run_bind_of_ok same, Task.run_bind_of_ok ran]
    rfl
  | @right directive pixels savers merged _ ih =>
    rw [List.forall_mem_cons] at forSaving accepted
    obtain ⟨job, own⟩ := atWork
    obtain ⟨outcome, noted, leaves⟩ :=
      run_applyDirective_note isVips forSaving.1 accepted.1 session own
    have still : ((session.noting (engine.note directive)).withLog noted).isAtWork :=
      ⟨job.noting (engine.note directive), by simp [Session.withLog, Session.noting, own, Job.noting]⟩
    have same := applyDirectives_overlook isVips onPixels (engine.note directive)
      (session.withLog log)
    rw [apart] at same
    obtain ⟨outcomes, further, ran⟩ := ih onPixels forSaving.2 accepted.2 still same
    refine ⟨outcome :: outcomes, further, ?_⟩
    rw [Task.forAll, Task.run_bind_of_ok leaves, Task.run_bind_of_ok ran, Session.noting_noting]
    rfl

theorem save_blind (destination : Path) (atWork : session.isAtWork)
    (log : List LogRecord) :
    ∃ further, (engine.save destination).run (session.withLog log) =
      (((engine.save destination).run session).1,
        ((engine.save destination).run session).2.withLog further) := by
  obtain ⟨world, _⟩ := session
  obtain ⟨job, rfl⟩ := atWork
  obtain ⟨further, ran⟩ := Vips.save_isBlind destination (world, job) log
  exact ⟨further, by simp only [save, Session.withLog, run_onJob_vips, ran]⟩

/-- Two ways to merge the same work on pixels with the same notes: if one run reaches its end, so
does the other one, and both end in the same session but for the log. They have made the same calls
and hold the same picture and options, and saving then writes the same. -/
theorem applyDirectives_interleaved (isVips : engine.kind = .vips)
    (onPixels : ∀ directive ∈ pixels, directive.isForSaving = false)
    (forSaving : ∀ directive ∈ savers, directive.isForSaving = true)
    {first second : List Directive} (one : Interleaves pixels savers first)
    (other : Interleaves pixels savers second) {outcomes : List DirectiveOutcome}
    (atWork : session.isAtWork)
    (ran : (Task.forAll engine.applyDirective first).run session = (.ok outcomes, after)) :
    ∃ others log,
      (Task.forAll engine.applyDirective second).run session = (.ok others, after.withLog log) ∧
      ∀ destination, ∃ further, (engine.save destination).run (after.withLog log) =
        (((engine.save destination).run after).1,
          ((engine.save destination).run after).2.withLog further) := by
  obtain ⟨accepted, alone, reached, further, apart, rfl⟩ :=
    pixels_of_merged isVips onPixels forSaving one atWork ran session.world.log
  obtain ⟨others, log, same⟩ := merged_of_pixels isVips onPixels forSaving other accepted atWork apart
  refine ⟨others, log, same, fun destination => save_blind destination ?_ log⟩
  have still := (Task.Keeps.forAll StaysAtWork.history fun directive _ =>
    engine.applyDirective_staysAtWork directive : Task.Keeps StaysAtWork
      (Task.forAll engine.applyDirective first)) session atWork
  rwa [ran] at still

def pixelWork : List Directive := [.ofFlag "-flip" [], .ofFlag "-rotate" ["90"]]

def encoderNotes : List Directive := [.ofFlag "-strip" [], .ofFlag "-quality" ["80"]]

def notedInBetween : List Directive :=
  [.ofFlag "-strip" [], .ofFlag "-flip" [], .ofFlag "-quality" ["80"], .ofFlag "-rotate" ["90"]]

theorem notes_wait :
    ∃ outcomes after others log,
      (Task.forAll libvips.applyDirective notedInBetween).run begun = (.ok outcomes, after) ∧
      (Task.forAll libvips.applyDirective (pixelWork ++ encoderNotes)).run begun =
        (.ok others, after.withLog log) := by
  have succeeds : ((Task.forAll libvips.applyDirective notedInBetween).run begun).1.isOk = true := by
    decide +kernel
  rcases ran : (Task.forAll libvips.applyDirective notedInBetween).run begun with ⟨outcome, after⟩
  rw [ran] at succeeds
  cases outcome with
  | error failure => cases succeeds
  | ok outcomes =>
    have between : Interleaves pixelWork encoderNotes notedInBetween :=
      .right (.left (.right (.left .nil)))
    have last : Interleaves pixelWork encoderNotes (pixelWork ++ encoderNotes) :=
      .left (.left (.right (.right .nil)))
    obtain ⟨others, log, same, -⟩ := applyDirectives_interleaved rfl (by decide +kernel)
      (by decide +kernel) between last ⟨_, rfl⟩ ran
    exact ⟨outcomes, after, others, log, rfl, same⟩

end Engine

end Thumbnailing
