import Thumbnailing.Proofs.Task
import Thumbnailing.World.Library

set_option autoImplicit false

namespace Thumbnailing

def World.yielded (world : World) (call : Option Nat → Call) : World :=
  { (world.asking [(call none).method]).record (call (some world.pictureCount)) with
    pictureCount := world.pictureCount + 1 }

theorem World.asking_asking (world : World) (first rest : List String) :
    (world.asking first).asking rest = world.asking (first ++ rest) := by
  simp [asking]

namespace Library

variable {world after : World}

theorem load_eq_ok (loaded : load.run world = (.ok (), after)) :
    after = { world with libraryLoaded := true } := by
  unfold load at loaded
  rw [Task.run_bind_of_ok (Task.run_read world)] at loaded
  split at loaded
  · rename_i already
    cases loaded
    rw [← already]
  · split at loaded
    · cases loaded
      rfl
    · cases loaded

theorem load_again (loaded : world.libraryLoaded = true) : load.run world = (.ok (), world) := by
  unfold load
  rw [Task.run_bind_of_ok (Task.run_read world), if_pos loaded]
  rfl

theorem run_ask (method : String) (world : World) :
    (ask method).run world = ((match world.machine.fault? world.asked.length method with
      | some failure => .error failure
      | none => .ok ()), world.asking [method]) := by
  simp only [ask, Task.run_bind, Task.run_read, Task.run_modify]
  cases world.machine.fault? world.asked.length method <;> rfl

theorem ask_eq_ok {method : String} : (ask method).run world = (.ok (), after) ↔
    world.machine.fault? world.asked.length method = none ∧ after = world.asking [method] := by
  rw [run_ask, Prod.mk.injEq]
  cases world.machine.fault? world.asked.length method with
  | none => simp [eq_comm]
  | some failure => simp

theorem produce_eq_ok {call : Option Nat → Call} {raster : Raster} {made : Picture} :
    (produce call raster).run world = (.ok made, after) ↔
      world.machine.fault? world.asked.length (call none).method = none ∧
        made = ⟨world.pictureCount, raster⟩ ∧ after = world.yielded call := by
  unfold produce
  rw [Task.run_bind, Task.run_attempt, run_ask]
  cases faults : world.machine.fault? world.asked.length (call none).method with
  | some failure => exact ⟨nofun, nofun⟩
  | none =>
    constructor
    · intro ran
      cases ran
      exact ⟨rfl, rfl, rfl⟩
    · rintro ⟨-, rfl, rfl⟩
      rfl

theorem run_produce_of_fault {call : Option Nat → Call} {raster : Raster} {failure : Failure}
    (fault : world.machine.fault? world.asked.length (call none).method = some failure) :
    (produce call raster).run world =
      (.error failure, (world.asking [(call none).method]).record (call none)) := by
  unfold produce
  rw [Task.run_bind, Task.run_attempt, run_ask, fault]
  rfl

theorem produce_calls (call : Option Nat → Call) (raster : Raster) (world : World) :
    ∃ result, ((produce call raster).run world).2.calls = world.calls ++ [call result] := by
  rcases found : world.machine.fault? world.asked.length (call none).method with _ | failure
  · rw [produce_eq_ok.mpr ⟨found, rfl, rfl⟩]
    exact ⟨some world.pictureCount, rfl⟩
  · rw [run_produce_of_fault found]
    exact ⟨none, rfl⟩

theorem transform_eq_ok {transformation : Transformation} {picture made : Picture}
    (ran : (transform transformation picture).run world = (.ok made, after)) :
    transformation.result picture.raster = .ok made.raster ∧ made.number = world.pictureCount ∧
      after = world.yielded (.transform transformation picture.number) := by
  obtain ⟨raster, between, resulted, produced⟩ := Task.run_bind_eq_ok.mp ran
  rw [Task.run_ofOutcome, Prod.mk.injEq] at resulted
  obtain ⟨resulted, rfl⟩ := resulted
  obtain ⟨-, rfl, rfl⟩ := produce_eq_ok.mp produced
  exact ⟨resulted, rfl, rfl⟩

def opened (machine : Machine) (options : Entries) : Raster :=
  if asksForAllPages options then machine.allPages.getD machine.source else machine.source

theorem openPicture_eq_ok {path : String} {options : Entries} {made : Picture} :
    (openPicture path options).run world = (.ok made, after) ↔
      world.machine.fault? world.asked.length "new_from_file" = none ∧
        made = ⟨world.pictureCount, opened world.machine options⟩ ∧
        after = world.yielded (.openPicture path options) := by
  unfold openPicture
  rw [Task.run_bind_of_ok (Task.run_read world)]
  exact produce_eq_ok

theorem run_perform (call : Call) (world : World) :
    (perform call).run world = ((match world.machine.fault? world.asked.length call.method with
      | some failure => .error failure
      | none => .ok ()), (world.record call).asking [call.method]) := by
  have recorded : (recordCall call).run world = (.ok (), world.record call) := rfl
  rw [perform, Task.run_bind_of_ok recorded, run_ask]
  rfl

theorem perform_eq_ok {call : Call} (ran : (perform call).run world = (.ok (), after)) :
    after = (world.record call).asking [call.method] := by
  rw [run_perform, Prod.mk.injEq] at ran
  exact ran.2.symm

theorem setMetadata_eq_ok {name : String} {value : Value} {picture made : Picture}
    (ran : (setMetadata name value picture).run world = (.ok made, after)) :
    made = picture.putMetadata name value ∧
      after = (world.record (.setMetadata picture.number name value)).asking ["set_type"] := by
  obtain ⟨_, _, performed, rest⟩ := Task.run_bind_eq_ok.mp ran
  cases rest
  exact ⟨rfl, perform_eq_ok performed⟩

theorem encode_eq_ok {extension : String} {options : Entries} {picture : Picture} {content : Bytes}
    (ran : (encode extension options picture).run world = (.ok content, after)) :
    after =
      (world.record (.encode picture.number extension options)).asking ["write_to_buffer"] := by
  obtain ⟨_, _, performed, rest⟩ := Task.run_bind_eq_ok.mp ran
  cases rest
  exact perform_eq_ok performed

theorem metadata_eq_ok {name : String} {picture : Picture} {found : Option Value}
    (ran : (metadata? name picture).run world = (.ok found, after)) :
    found = picture.metadata? name ∧ ∃ methods, after = world.asking methods := by
  obtain ⟨_, between, asked, ran⟩ := Task.run_bind_eq_ok.mp ran
  obtain ⟨-, rfl⟩ := ask_eq_ok.mp asked
  split at ran
  · rename_i absent
    cases ran
    exact ⟨absent.symm, _, rfl⟩
  · rename_i value present
    obtain ⟨_, last, askedToo, ran⟩ := Task.run_bind_eq_ok.mp ran
    obtain ⟨-, rfl⟩ := ask_eq_ok.mp askedToo
    cases ran
    exact ⟨present.symm, _, World.asking_asking _ _ _⟩

theorem hasAlpha_eq_ok {picture : Picture} {found : Bool}
    (ran : (hasAlpha picture).run world = (.ok found, after)) :
    found = picture.raster.hasAlpha ∧ after = world.asking ["hasalpha"] := by
  obtain ⟨_, between, asked, ran⟩ := Task.run_bind_eq_ok.mp ran
  obtain ⟨-, rfl⟩ := ask_eq_ok.mp asked
  cases ran
  exact ⟨rfl, rfl⟩

theorem load_keeps {relation : World → World → Prop} (history : Task.IsHistory relation)
    (loads : ∀ world : World, relation world { world with libraryLoaded := true }) :
    Task.Keeps relation load := by
  refine .bind history (.read history) fun world => ?_
  split
  · exact .succeed history ()
  · split
    · exact fun world => loads world
    · exact .fail history _

/-- A history that sees nothing of what the library is asked but the calls. -/
structure IsIndifferent (relation : World → World → Prop) : Prop extends
    Task.IsHistory relation where
  loads : ∀ world : World, relation world { world with libraryLoaded := true }
  asks : ∀ world methods, relation world (world.asking methods)
  counts : ∀ (world : World) pictureCount, relation world { world with pictureCount }

namespace IsIndifferent

variable {relation : World → World → Prop} (indifferent : IsIndifferent relation)

include indifferent

theorem load : Task.Keeps relation load := load_keeps indifferent.toIsHistory indifferent.loads

theorem ask (method : String) : Task.Keeps relation (ask method) := by
  intro world
  rw [run_ask]
  exact indifferent.asks world [method]

theorem produce {call : Option Nat → Call}
    (records : ∀ number, Task.Keeps relation (recordCall (call number))) (raster : Raster) :
    Task.Keeps relation (produce call raster) := by
  have history := indifferent.toIsHistory
  refine .bind history (indifferent.ask _).attempt fun answer => ?_
  split
  · exact .bind history (records _) fun _ => .fail history _
  · refine .bind history (.read history) fun world => .bind history (records _) fun _ => ?_
    exact .bind history (fun _ => indifferent.counts _ _) fun _ => .succeed history _

theorem perform {call : Call} (records : Task.Keeps relation (recordCall call)) :
    Task.Keeps relation (perform call) :=
  .bind indifferent.toIsHistory records fun _ => indifferent.ask _

theorem openPicture {path : String} {options : Entries}
    (records : ∀ number, Task.Keeps relation (recordCall (.openPicture path options number))) :
    Task.Keeps relation (openPicture path options) :=
  .bind indifferent.toIsHistory (.read indifferent.toIsHistory) fun _ =>
    indifferent.produce records _

theorem transform {transformation : Transformation} {picture : Picture}
    (records : ∀ result,
      Task.Keeps relation (recordCall (.transform transformation picture.number result))) :
    Task.Keeps relation (transform transformation picture) :=
  .bind indifferent.toIsHistory (.ofOutcome indifferent.toIsHistory _) fun _ =>
    indifferent.produce records _

theorem metadata (name : String) (picture : Picture) :
    Task.Keeps relation (metadata? name picture) := by
  have history := indifferent.toIsHistory
  refine .bind history (indifferent.ask _) fun _ => ?_
  split
  · exact .succeed history _
  · exact .bind history (indifferent.ask _) fun _ => .succeed history _

theorem setMetadata {name : String} {value : Value} {picture : Picture}
    (records : Task.Keeps relation (recordCall (.setMetadata picture.number name value))) :
    Task.Keeps relation (setMetadata name value picture) :=
  .bind indifferent.toIsHistory (indifferent.perform records) fun _ =>
    .succeed indifferent.toIsHistory _

theorem encode {extension : String} {options : Entries} {picture : Picture}
    (records : Task.Keeps relation (recordCall (.encode picture.number extension options))) :
    Task.Keeps relation (encode extension options picture) :=
  .bind indifferent.toIsHistory (indifferent.perform records) fun _ =>
    .succeed indifferent.toIsHistory _

end IsIndifferent

end Library

end Thumbnailing
