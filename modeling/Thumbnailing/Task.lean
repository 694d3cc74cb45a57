import Thumbnailing.Failure

set_option autoImplicit false

/-!
# Tasks

A task works on a state and ends with a result or a failure. What it did to the state before a
failure stays done. A task on a part of a state is a task on the whole of it.
-/

namespace Thumbnailing

structure Task (State Result : Type) where
  run : State → Outcome Result × State

namespace Task

variable {State Part Result Other : Type}

def succeed (result : Result) : Task State Result := ⟨fun state => (.ok result, state)⟩

def fail (failure : Failure) : Task State Result := ⟨fun state => (.error failure, state)⟩

def andThen (task : Task State Result) (next : Result → Task State Other) : Task State Other :=
  ⟨fun state =>
    match task.run state with
    | (.ok result, after) => (next result).run after
    | (.error failure, after) => (.error failure, after)⟩

instance : Monad (Task State) where
  pure := succeed
  bind := andThen

def ofOutcome (outcome : Outcome Result) : Task State Result := ⟨fun state => (outcome, state)⟩

def read : Task State State := ⟨fun state => (.ok state, state)⟩

def modify (change : State → State) : Task State Unit := ⟨fun state => (.ok (), change state)⟩

def attempt (task : Task State Result) : Task State (Outcome Result) :=
  ⟨fun state =>
    let (outcome, after) := task.run state
    (.ok outcome, after)⟩

def rescue (task : Task State Result) (other : Failure → Task State Result) :
    Task State Result :=
  ⟨fun state =>
    match task.run state with
    | (.error failure, after) => (other failure).run after
    | done => done⟩

def onFailure (task : Task State Result) (cleanUp : Task State Unit) : Task State Result :=
  task.rescue fun failure => andThen cleanUp fun _ => fail failure

def onPart (part : State → Part) (replace : State → Part → State) (task : Task Part Result) :
    Task State Result :=
  ⟨fun state =>
    let (outcome, after) := task.run (part state)
    (outcome, replace state after)⟩

def forAll {Item : Type} (step : Item → Task State Result) : List Item → Task State (List Result)
  | [] => succeed []
  | item :: rest => do
    let result ← step item
    return result :: (← forAll step rest)

@[simp] theorem run_pure (result : Result) (state : State) :
    (pure result : Task State Result).run state = (.ok result, state) := rfl

@[simp] theorem run_fail (failure : Failure) (state : State) :
    (fail failure : Task State Result).run state = (.error failure, state) := rfl

theorem run_bind (task : Task State Result) (next : Result → Task State Other) (state : State) :
    (task >>= next).run state =
      match task.run state with
      | (.ok result, after) => (next result).run after
      | (.error failure, after) => (.error failure, after) := rfl

@[simp] theorem run_ofOutcome (outcome : Outcome Result) (state : State) :
    (ofOutcome outcome : Task State Result).run state = (outcome, state) := rfl

@[simp] theorem run_modify (change : State → State) (state : State) :
    (modify change).run state = (.ok (), change state) := rfl

end Task

end Thumbnailing
