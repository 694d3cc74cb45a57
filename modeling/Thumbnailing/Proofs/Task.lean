import Thumbnailing.Task

set_option autoImplicit false

namespace Thumbnailing.Task

variable {State Part Result Other Item : Type}

theorem ok_of_bind {Fault First Last : Type} {outcome : Except Fault First}
    {next : First → Except Fault Last} {result : Last} (whole : outcome >>= next = .ok result) :
    ∃ between, outcome = .ok between ∧ next between = .ok result := by
  cases outcome with
  | error fault => cases whole
  | ok between => exact ⟨between, rfl, whole⟩

@[simp] theorem run_succeed (result : Result) (state : State) :
    (succeed result : Task State Result).run state = (.ok result, state) := rfl

@[simp] theorem run_read (state : State) : (read : Task State State).run state =
    (.ok state, state) := rfl

@[simp] theorem run_attempt (task : Task State Result) (state : State) :
    task.attempt.run state = (.ok (task.run state).1, (task.run state).2) := rfl

@[simp] theorem run_onPart (part : State → Part) (replace : State → Part → State)
    (task : Task Part Result) (state : State) :
    (task.onPart part replace).run state =
      ((task.run (part state)).1, replace state (task.run (part state)).2) := rfl

theorem ext {first second : Task State Result} (same : ∀ state, first.run state = second.run state) :
    first = second := by
  cases first
  cases second
  exact congrArg Task.mk (funext same)

theorem map_id_task (task : Task State Result) : id <$> task = task := by
  apply ext
  intro state
  change (task >>= fun result => pure result).run state = _
  rw [run_bind]
  rcases task.run state with ⟨outcome, after⟩
  cases outcome <;> rfl

theorem andThen_assoc {Third : Type} (task : Task State Result) (next : Result → Task State Other)
    (last : Other → Task State Third) :
    task >>= next >>= last = task >>= fun result => next result >>= last := by
  apply ext
  intro state
  simp only [run_bind]
  rcases task.run state with ⟨outcome, after⟩
  cases outcome <;> rfl

instance : LawfulMonad (Task State) :=
  .mk' _ map_id_task (fun _ _ => rfl) andThen_assoc

theorem run_bind_of_ok {task : Task State Result} {next : Result → Task State Other}
    {state between : State} {result : Result} (first : task.run state = (.ok result, between)) :
    (task >>= next).run state = (next result).run between := by
  rw [run_bind, first]

theorem run_bind_of_error {task : Task State Result} {next : Result → Task State Other}
    {state between : State} {failure : Failure}
    (first : task.run state = (.error failure, between)) :
    (task >>= next).run state = (.error failure, between) := by
  rw [run_bind, first]

theorem run_map (change : Result → Other) (task : Task State Result) (state : State) :
    (change <$> task).run state = ((task.run state).1.map change, (task.run state).2) := by
  change (task >>= fun result => pure (change result)).run state = _
  rw [run_bind]
  rcases task.run state with ⟨outcome, after⟩
  cases outcome <;> rfl

theorem run_bind_pure (finish : Result → Other) (task : Task State Result) (state : State) :
    ((task >>= fun result => pure (finish result)).run state).2 = (task.run state).2 :=
  congrArg Prod.snd (run_map finish task state)

theorem run_rescue_of_ok {task : Task State Result} {other : Failure → Task State Result}
    {state after : State} {result : Result} (first : task.run state = (.ok result, after)) :
    (task.rescue other).run state = (.ok result, after) := by
  simp only [rescue, first]

theorem run_rescue_of_error {task : Task State Result} {other : Failure → Task State Result}
    {state between : State} {failure : Failure}
    (first : task.run state = (.error failure, between)) :
    (task.rescue other).run state = (other failure).run between := by
  simp only [rescue, first]

theorem run_onFailure_of_error {task : Task State Result} {cleanUp : Task State Unit}
    {state between after : State} {failure : Failure}
    (first : task.run state = (.error failure, between))
    (cleaned : cleanUp.run between = (.ok (), after)) :
    (task.onFailure cleanUp).run state = (.error failure, after) := by
  rw [onFailure, run_rescue_of_error first]
  simp only [andThen, cleaned]
  rfl

theorem run_onFailure_eq_ok {task : Task State Result} {cleanUp : Task State Unit}
    {state after : State} {result : Result} :
    (task.onFailure cleanUp).run state = (.ok result, after) ↔
      task.run state = (.ok result, after) := by
  rcases ran : task.run state with ⟨outcome, between⟩
  cases outcome with
  | ok other => rw [onFailure, run_rescue_of_ok ran]
  | error failure =>
    -- Whatever cleaning up comes to, the run has failed.
    rw [onFailure, run_rescue_of_error ran]
    simp only [andThen]
    rcases cleanUp.run between with ⟨_ | _, _⟩ <;> simp

theorem run_bind_eq_ok {task : Task State Result} {next : Result → Task State Other}
    {state after : State} {result : Other} :
    (task >>= next).run state = (.ok result, after) ↔
      ∃ first between, task.run state = (.ok first, between) ∧
        (next first).run between = (.ok result, after) := by
  constructor
  · intro whole
    rw [run_bind] at whole
    rcases h : task.run state with ⟨outcome, between⟩
    rw [h] at whole
    cases outcome with
    | ok first => exact ⟨first, between, rfl, whole⟩
    | error failure => cases whole
  · rintro ⟨first, between, h, rest⟩
    rw [run_bind_of_ok h, rest]

theorem run_forAll_append (step : Item → Task State Result) (first rest : List Item)
    (state : State) :
    (forAll step (first ++ rest)).run state =
      (do return (← forAll step first) ++ (← forAll step rest)).run state := by
  -- The state is general, since the steps of the rest start where the first ones end.
  induction first generalizing state with
  | nil =>
    simp only [List.nil_append, forAll, run_bind, run_succeed, run_pure]
    rcases (forAll step rest).run state with ⟨outcome, after⟩
    cases outcome <;> rfl
  | cons item first ih =>
    simp only [List.cons_append, forAll, run_bind, run_pure] at ih ⊢
    rcases (step item).run state with ⟨outcome, between⟩
    cases outcome with
    | error failure => rfl
    | ok result =>
      simp only [ih]
      rcases (forAll step first).run between with ⟨outcome, further⟩
      cases outcome with
      | error failure => rfl
      | ok results =>
        simp only
        rcases (forAll step rest).run further with ⟨outcome, after⟩
        cases outcome <;> rfl

theorem run_forAll_single (step : Item → Task State Result) (item : Item) (state : State) :
    (forAll step [item]).run state =
      (((step item).run state).1.map ([·]), ((step item).run state).2) := by
  simp only [forAll, run_bind]
  rcases (step item).run state with ⟨outcome, after⟩
  cases outcome <;> rfl

/-- A property of tasks that holds of all that are over at once, and of two in a row. -/
structure IsClosed (holds : ∀ {Result : Type}, Task State Result → Prop) : Prop where
  ofOutcome : ∀ {Result : Type} (outcome : Outcome Result), holds (Task.ofOutcome outcome)
  bind : ∀ {First Last : Type} {task : Task State First} {next : First → Task State Last},
    holds task → (∀ result, holds (next result)) → holds (task >>= next)

namespace IsClosed

variable {holds : ∀ {Result : Type}, Task State Result → Prop} (closed : IsClosed @holds)

include closed

theorem succeed (result : Result) : holds (pure result) := closed.ofOutcome (.ok result)

theorem fail (failure : Failure) : holds (Task.fail failure : Task State Result) :=
  closed.ofOutcome (.error failure)

theorem forAll {step : Item → Task State Result} {items : List Item}
    (each : ∀ item ∈ items, holds (step item)) : holds (Task.forAll step items) := by
  induction items with
  | nil => exact closed.succeed []
  | cons item rest ih =>
    refine closed.bind (each item List.mem_cons_self) fun result => ?_
    refine closed.bind (ih fun other member => each other (List.mem_cons_of_mem _ member)) ?_
    exact fun results => closed.succeed (result :: results)

end IsClosed

/-- A relation between the states before and after a run that holds where nothing is done, and of
two runs in a row. -/
structure IsHistory (relation : State → State → Prop) : Prop where
  refl : ∀ state, relation state state
  trans : ∀ {before between after},
    relation before between → relation between after → relation before after

theorem IsHistory.along {relation : Part → Part → Prop} (history : IsHistory relation)
    (part : State → Part) : IsHistory fun before after => relation (part before) (part after) where
  refl state := history.refl (part state)
  trans first rest := history.trans first rest

def Keeps (relation : State → State → Prop) (task : Task State Result) : Prop :=
  ∀ state, relation state (task.run state).2

namespace Keeps

variable {relation : State → State → Prop}

theorem mono {other : State → State → Prop} {task : Task State Result}
    (kept : Keeps relation task) (weaker : ∀ before after, relation before after →
      other before after) : Keeps other task := fun state => weaker state _ (kept state)

theorem succeed (history : IsHistory relation) (result : Result) :
    Keeps relation (Task.succeed result) := fun state => history.refl state

theorem fail (history : IsHistory relation) (failure : Failure) :
    Keeps relation (Task.fail failure : Task State Result) := fun state => history.refl state

theorem ofOutcome (history : IsHistory relation) (outcome : Outcome Result) :
    Keeps relation (Task.ofOutcome outcome) := fun state => history.refl state

theorem read (history : IsHistory relation) : Keeps relation Task.read :=
  fun state => history.refl state

theorem attempt {task : Task State Result} (kept : Keeps relation task) :
    Keeps relation task.attempt := kept

theorem bind (history : IsHistory relation) {task : Task State Result}
    {next : Result → Task State Other} (first : Keeps relation task)
    (rest : ∀ result, Keeps relation (next result)) : Keeps relation (task >>= next) := by
  intro state
  have before := first state
  rw [run_bind]
  rcases h : task.run state with ⟨outcome, between⟩
  rw [h] at before
  cases outcome with
  | error failure => exact before -- The rest does not run, so one part of the history is all.
  | ok result => exact history.trans before (rest result between)

theorem discard (history : IsHistory relation) {task : Task State Result}
    (kept : Keeps relation task) : Keeps relation (Functor.discard task) :=
  bind history kept fun _ => succeed history ()

theorem rescue (history : IsHistory relation) {task : Task State Result}
    {other : Failure → Task State Result} (first : Keeps relation task)
    (rest : ∀ failure, Keeps relation (other failure)) : Keeps relation (task.rescue other) := by
  intro state
  have before := first state
  rcases h : task.run state with ⟨outcome, between⟩
  rw [h] at before
  cases outcome with
  | ok result => rwa [run_rescue_of_ok h]
  | error failure =>
    rw [run_rescue_of_error h]
    exact history.trans before (rest failure between)

theorem onPart {part : State → Part} {replace : State → Part → State}
    {inner : Part → Part → Prop} {task : Task Part Result} (kept : Keeps inner task)
    (lift : ∀ state after, inner (part state) after → relation state (replace state after)) :
    Keeps relation (task.onPart part replace) := fun state => lift state _ (kept (part state))

end Keeps

theorem IsClosed.keeps {relation : State → State → Prop} (history : IsHistory relation) :
    IsClosed fun task => Keeps relation task where
  ofOutcome := Keeps.ofOutcome history
  bind := Keeps.bind history

theorem Keeps.forAll {relation : State → State → Prop} (history : IsHistory relation)
    {step : Item → Task State Result} {items : List Item}
    (each : ∀ item ∈ items, Keeps relation (step item)) : Keeps relation (Task.forAll step items) :=
  (IsClosed.keeps history).forAll each

def FailsWithin (allowed : Failure → Prop) (task : Task State Result) : Prop :=
  ∀ state failure, (task.run state).1 = .error failure → allowed failure

namespace FailsWithin

variable {allowed : Failure → Prop}

theorem succeed (result : Result) : FailsWithin allowed (pure result : Task State Result) := by
  intro state failure h
  cases h

theorem fail {failure : Failure} (h : allowed failure) :
    FailsWithin allowed (Task.fail failure : Task State Result) := by
  intro state other same
  cases same
  exact h

theorem ofOutcome {outcome : Outcome Result}
    (h : ∀ failure, outcome = .error failure → allowed failure) :
    FailsWithin allowed (Task.ofOutcome outcome : Task State Result) := fun _ => h

theorem read : FailsWithin allowed (Task.read : Task State State) := by
  intro state failure h
  cases h

theorem modify (change : State → State) : FailsWithin allowed (Task.modify change) := by
  intro state failure h
  cases h

theorem onPart {part : State → Part} {replace : State → Part → State} {task : Task Part Result}
    (within : FailsWithin allowed task) : FailsWithin allowed (task.onPart part replace) :=
  fun state => within (part state)

theorem bind {task : Task State Result} {next : Result → Task State Other}
    (first : FailsWithin allowed task) (rest : ∀ result, FailsWithin allowed (next result)) :
    FailsWithin allowed (task >>= next) := by
  intro state failure h
  rw [run_bind] at h
  rcases same : task.run state with ⟨outcome, between⟩
  rw [same] at h
  cases outcome with
  | ok result => exact rest result between failure h
  | error other =>
    cases h
    exact first state failure (by rw [same])

theorem mono {weaker : Failure → Prop} {task : Task State Result}
    (within : FailsWithin allowed task) (imp : ∀ failure, allowed failure → weaker failure) :
    FailsWithin weaker task := fun state failure failed => imp failure (within state failure failed)

theorem rescue {inner : Failure → Prop} {task : Task State Result}
    {other : Failure → Task State Result} (first : FailsWithin inner task)
    (rest : ∀ failure, inner failure → FailsWithin allowed (other failure)) :
    FailsWithin allowed (task.rescue other) := by
  intro state failure failed
  rcases ran : task.run state with ⟨outcome, between⟩
  cases outcome with
  | ok result =>
    rw [run_rescue_of_ok ran] at failed
    cases failed
  | error cause =>
    rw [run_rescue_of_error ran] at failed
    exact rest cause (first state cause (by rw [ran])) between failure failed

theorem onFailure {task : Task State Result} {cleanUp : Task State Unit}
    (first : FailsWithin allowed task) (cleaned : FailsWithin allowed cleanUp) :
    FailsWithin allowed (task.onFailure cleanUp) :=
  first.rescue fun _ h => bind cleaned fun _ => fail h

theorem anyhow (task : Task State Result) : FailsWithin (fun _ => True) task := fun _ _ _ => trivial

theorem forAll {step : Item → Task State Result} {items : List Item}
    (each : ∀ item ∈ items, FailsWithin allowed (step item)) :
    FailsWithin allowed (Task.forAll step items) := by
  induction items with
  | nil => exact succeed []
  | cons item rest ih =>
    refine bind (each item List.mem_cons_self) fun result => ?_
    refine bind (ih fun other member => each other (List.mem_cons_of_mem _ member)) fun results => ?_
    exact succeed (result :: results)

theorem bind_attempt {inner : Failure → Prop} {task : Task State Result}
    {next : Outcome Result → Task State Other} (first : FailsWithin inner task)
    (done : ∀ result, FailsWithin allowed (next (.ok result)))
    (failed : ∀ failure, inner failure → FailsWithin allowed (next (.error failure))) :
    FailsWithin allowed (task.attempt >>= next) := by
  intro state failure h
  rw [run_bind, run_attempt] at h
  cases same : (task.run state).1 with
  | ok result =>
    rw [same] at h
    exact done result _ failure h
  | error other =>
    rw [same] at h
    exact failed other (first state other same) _ failure h

end FailsWithin

/-- A run that starts with the first property and succeeds ends with the second one. -/
def Ensures (before : State → Prop) (task : Task State Result) (after : Result → State → Prop) :
    Prop :=
  ∀ state result final, before state → task.run state = (.ok result, final) → after result final

namespace Ensures

variable {before other : State → Prop} {after : Result → State → Prop}

theorem pure {result : Result} (holds : ∀ state, before state → after result state) :
    Ensures before (Pure.pure result) after := by
  intro state _ _ given ran
  cases ran
  exact holds state given

theorem fail (failure : Failure) : Ensures before (Task.fail failure) after := by
  intro _ _ _ _ ran
  cases ran

theorem ofOutcome (outcome : Outcome Result) :
    Ensures before (Task.ofOutcome outcome) fun _ => before := by
  intro state _ _ given ran
  cases ran
  exact given

theorem ofOutcome_eq (outcome : Outcome Result) :
    Ensures before (Task.ofOutcome outcome) fun result state =>
      outcome = .ok result ∧ before state := by
  intro state _ _ given ran
  cases ran
  exact ⟨rfl, given⟩

theorem assuming {fact : Prop} {task : Task State Result} (ensured : fact → Ensures before task after) :
    Ensures (fun state => fact ∧ before state) task after :=
  fun state result final ⟨holds, given⟩ ran => ensured holds state result final given ran

theorem exists_elim {Index : Type} {fact : Index → Prop} {starts : Index → State → Prop}
    {task : Task State Result} (ensured : ∀ index, fact index → Ensures (starts index) task after) :
    Ensures (fun state => ∃ index, fact index ∧ starts index state) task after :=
  fun state result final ⟨index, holds, given⟩ ran => ensured index holds state result final given ran

theorem modify {change : State → State} (holds : ∀ state, before state → other (change state)) :
    Ensures before (Task.modify change) fun _ => other := by
  intro state _ _ given ran
  cases ran
  exact holds state given

theorem of_imp {task : Task State Result} (ensured : Ensures other task after)
    (imp : ∀ state, before state → other state) : Ensures before task after :=
  fun state result final given ran => ensured state result final (imp state given) ran

theorem imp {further : Result → State → Prop} {task : Task State Result}
    (ensured : Ensures before task after)
    (imp : ∀ result state, after result state → further result state) :
    Ensures before task further :=
  fun state result final given ran => imp result final (ensured state result final given ran)

theorem bind {task : Task State Result} {next : Result → Task State Other}
    {between : Result → State → Prop} {last : Other → State → Prop}
    (first : Ensures before task between)
    (rest : ∀ result, Ensures (between result) (next result) last) :
    Ensures before (task >>= next) last := by
  intro state result final given ran
  obtain ⟨found, middle, started, ended⟩ := run_bind_eq_ok.mp ran
  exact rest found middle result final (first state found middle given started) ended

theorem rescue_fail {task : Task State Result} {change : Failure → Failure}
    (ensured : Ensures before task after) :
    Ensures before (task.rescue fun failure => Task.fail (change failure)) after := by
  intro state result final given ran
  rcases started : task.run state with ⟨outcome, between⟩
  cases outcome with
  | ok found =>
    have same := (run_rescue_of_ok started).symm.trans ran
    cases same
    exact ensured state result final given started
  | error failure =>
    have same := (run_rescue_of_error started).symm.trans ran
    cases same

theorem forAll {step : Item → Task State Result} {items : List Item}
    (each : ∀ item ∈ items, Ensures before (step item) fun _ => before) :
    Ensures before (Task.forAll step items) fun _ => before := by
  induction items with
  | nil => exact pure fun _ given => given
  | cons item rest ih =>
    refine bind (each item List.mem_cons_self) fun _ => ?_
    refine bind (ih fun other member => each other (List.mem_cons_of_mem item member)) fun _ => ?_
    exact pure fun _ given => given

theorem forAll_cons {step : Item → Task State Result} {item : Item} {rest : List Item}
    {between last : State → Prop} (started : Ensures before (step item) fun _ => between)
    (ended : Ensures between (Task.forAll step rest) fun _ => last) :
    Ensures before (Task.forAll step (item :: rest)) fun _ => last :=
  bind started fun _ => bind ended fun _ => pure fun _ holds => holds

theorem forAll_single {step : Item → Task State Result} {item : Item} {last : State → Prop}
    (ensured : Ensures before (step item) fun _ => last) :
    Ensures before (Task.forAll step [item]) fun _ => last :=
  forAll_cons ensured (pure fun _ holds => holds)

theorem forAll_append {step : Item → Task State Result} {first rest : List Item}
    {between last : State → Prop} (started : Ensures before (Task.forAll step first) fun _ => between)
    (ended : Ensures between (Task.forAll step rest) fun _ => last) :
    Ensures before (Task.forAll step (first ++ rest)) fun _ => last := by
  intro state results final given ran
  have parts : Ensures before
      (do return (← Task.forAll step first) ++ (← Task.forAll step rest)) fun _ => last :=
    bind started fun _ => bind ended fun _ => pure fun _ holds => holds
  rw [run_forAll_append] at ran
  exact parts state results final given ran

end Ensures

end Thumbnailing.Task
