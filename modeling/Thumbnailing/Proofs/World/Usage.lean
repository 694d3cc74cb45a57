import Thumbnailing.Engine.Magick
import Thumbnailing.Proofs.World.Library
import Thumbnailing.Proofs.World.Temporary

set_option autoImplicit false

/-!
# Pictures that are used

A call takes in pictures and may yield another one. Read backwards, a list of calls tells which
pictures those that are wanted in the end were made of. No call is in vain if each picture that was
yielded is one of them.
-/

namespace Thumbnailing

namespace Call

def inputs : Call → List Nat
  | .transform transformation on _ => on :: transformation.operands.map Picture.number
  | .setMetadata on _ _ | .encode on _ _ => [on]
  | .lookUp .. | .tool .. | .openPicture .. => []

def isEdit : Call → Bool
  | .transform .. | .setMetadata .. => true
  | _ => false

end Call

/-- The pictures that calls made the wanted ones of, those included. -/
def sourcesOf (wanted : List Nat) : List Call → List Nat
  | [] => wanted
  | call :: rest =>
    let later := sourcesOf wanted rest
    if call.result?.any later.contains then call.inputs ++ later else later

/-- Every picture that calls yielded is wanted, or something wanted was made of it later on. -/
def AllUsed (wanted : List Nat) : List Call → Prop
  | [] => True
  | call :: rest =>
    (∀ number, call.result? = some number → number ∈ sourcesOf wanted rest) ∧ AllUsed wanted rest

-- The inverted picture is blurred, but nothing that is wanted is made of the blurred one.
example : sourcesOf [3] [.transform .invert 0 (some 1), .transform .sharpen 0 (some 2),
    .transform (.blur (.whole 1)) 1 (some 4), .transform .copy 2 (some 3)] = [0, 2, 3] := rfl

theorem subset_sourcesOf (wanted : List Nat) (calls : List Call) :
    wanted ⊆ sourcesOf wanted calls := by
  induction calls with
  | nil => exact List.Subset.refl wanted
  | cons call rest ih =>
    simp only [sourcesOf]
    split
    · exact List.subset_append_of_subset_right _ ih
    · exact ih

theorem sourcesOf_mono {wanted others : List Nat} (more : wanted ⊆ others) (calls : List Call) :
    sourcesOf wanted calls ⊆ sourcesOf others calls := by
  induction calls with
  | nil => exact more
  | cons call rest ih =>
    simp only [sourcesOf]
    by_cases used : call.result?.any (sourcesOf wanted rest).contains = true
    · have usedToo : call.result?.any (sourcesOf others rest).contains = true := by
        cases result : call.result? with
        | none => simp [result] at used
        | some number =>
          simp only [result, Option.any_some, List.contains_iff_mem] at used ⊢
          exact ih used
      rw [if_pos used, if_pos usedToo]
      exact List.append_subset.mpr ⟨List.subset_append_left _ _,
        List.subset_append_of_subset_right _ ih⟩
    · rw [if_neg used]
      split
      · exact List.subset_append_of_subset_right _ ih
      · exact ih

theorem sourcesOf_append (wanted : List Nat) (first rest : List Call) :
    sourcesOf wanted (first ++ rest) = sourcesOf (sourcesOf wanted rest) first := by
  induction first with
  | nil => rfl
  | cons call first ih => rw [List.cons_append, sourcesOf, sourcesOf, ih]

namespace AllUsed

theorem mono {wanted others : List Nat} (more : wanted ⊆ others) {calls : List Call}
    (used : AllUsed wanted calls) : AllUsed others calls := by
  induction calls with
  | nil => trivial
  | cons call rest ih =>
    exact ⟨fun number result => sourcesOf_mono more rest (used.1 number result), ih used.2⟩

theorem append {wanted : List Nat} {first rest : List Call}
    (early : AllUsed (sourcesOf wanted rest) first) (late : AllUsed wanted rest) :
    AllUsed wanted (first ++ rest) := by
  induction first with
  | nil => exact late
  | cons call first ih =>
    have reached : sourcesOf (sourcesOf wanted rest) first = sourcesOf wanted (first ++ rest) :=
      (sourcesOf_append wanted first rest).symm
    exact ⟨fun number result => reached ▸ early.1 number result, ih early.2⟩

theorem concat {live kept : List Nat} {calls : List Call} {call : Call} {number : Nat}
    (used : AllUsed live calls) (result : call.result? = some number)
    (taken : live ⊆ call.inputs ++ kept) : AllUsed (number :: kept) (calls ++ [call]) := by
  have sources : sourcesOf (number :: kept) [call] = call.inputs ++ number :: kept := by
    simp [sourcesOf, result]
  refine append (used.mono ?_) ⟨fun other same => ?_, trivial⟩
  · rw [sources]
    intro other member
    rcases List.mem_append.mp (taken member) with input | rest
    · exact List.mem_append_left _ input
    · exact List.mem_append_right _ (List.mem_cons_of_mem number rest)
  · rw [result] at same
    cases same
    exact List.mem_cons_self

theorem concat_silent {live : List Nat} {calls : List Call} {call : Call}
    (used : AllUsed live calls) (silent : call.result? = none) : AllUsed live (calls ++ [call]) :=
  append (used.mono (subset_sourcesOf live [call]))
    ⟨fun _ result => by simp [silent] at result, trivial⟩

end AllUsed

structure Opening where
  machine : Machine
  past : List Call
  count : Nat
  source : Option Path
  options : Entries

namespace Opening

def call (opening : Opening) : Call :=
  .openPicture (pathText opening.source) opening.options (some opening.count)

def yielded (opening : Opening) (edits : List Call) : List Nat :=
  opening.count :: edits.filterMap Call.result?

structure IsEdited (opening : Opening) (edits : List Call) (live : List Nat) (world : World) :
    Prop where
  calls : world.calls = opening.past ++ opening.call :: edits
  areEdits : ∀ call ∈ edits, call.isEdit = true
  used : AllUsed live (opening.call :: edits)
  distinct : (opening.yielded edits).Nodup
  fresh : ∀ number ∈ opening.yielded edits, number < world.pictureCount

def Yields (opening : Opening) (live : List Nat) (world : World) : Prop :=
  ∃ edits, opening.IsEdited edits live world

def IsAwaited (opening : Opening) (world : World) : Prop :=
  world.machine = opening.machine ∧ world.calls = opening.past ∧ world.pictureCount = opening.count

variable {opening : Opening} {live kept : List Nat} {picture : Picture}

theorem load : Task.Ensures opening.IsAwaited Library.load fun _ => opening.IsAwaited := by
  intro world _ after awaited loaded
  rw [Library.load_eq_ok loaded]
  exact awaited

theorem openPicture : Task.Ensures opening.IsAwaited
    (Library.openPicture (pathText opening.source) opening.options)
    fun made => opening.Yields [made.number] := by
  rintro world made after ⟨-, past, count⟩ ran
  obtain ⟨-, rfl, rfl⟩ := Library.openPicture_eq_ok.mp ran
  refine ⟨[], ⟨?_, by simp, ?_, by simp [yielded], ?_⟩⟩
  · simp [World.yielded, World.record, past, count, call]
  · exact ⟨fun number result => by simpa [call, Call.result?, sourcesOf, count] using result.symm,
      trivial⟩
  · simp [yielded, World.yielded, count]

theorem transform {transformation : Transformation} (kept : List Nat)
    (taken : live ⊆ picture.number :: transformation.operands.map Picture.number ++ kept) :
    Task.Ensures (opening.Yields live) (Library.transform transformation picture)
      fun made => opening.Yields (made.number :: kept) := by
  rintro world made after ⟨edits, edited⟩ ran
  obtain ⟨-, number, rfl⟩ := Library.transform_eq_ok ran
  have results : opening.yielded (edits ++ [.transform transformation picture.number
      (some world.pictureCount)]) = opening.yielded edits ++ [world.pictureCount] := by
    simp [yielded, Call.result?]
  refine ⟨edits ++ [.transform transformation picture.number (some world.pictureCount)], ?_⟩
  constructor
  · simp [World.yielded, World.record, edited.calls]
  · intro call member
    rcases List.mem_append.mp member with inside | last
    · exact edited.areEdits call inside
    · rw [List.mem_singleton.mp last]
      rfl
  · rw [number]
    exact edited.used.concat rfl taken
  · rw [results, List.nodup_append]
    refine ⟨edited.distinct, by simp, fun first early other last => ?_⟩
    rw [List.mem_singleton.mp last]
    exact Nat.ne_of_lt (edited.fresh first early)
  · rw [results]
    intro number member
    rcases List.mem_append.mp member with inside | last
    · exact Nat.lt_succ_of_lt (edited.fresh number inside)
    · rw [List.mem_singleton.mp last]
      exact Nat.lt_succ_self _

theorem setMetadata {name : String} {value : Value} :
    Task.Ensures (opening.Yields [picture.number]) (Library.setMetadata name value picture)
      fun made => opening.Yields [made.number] := by
  rintro world made after ⟨edits, edited⟩ ran
  obtain ⟨rfl, rfl⟩ := Library.setMetadata_eq_ok ran
  have results : opening.yielded (edits ++ [.setMetadata picture.number name value]) =
      opening.yielded edits := by
    simp [yielded, Call.result?]
  refine ⟨edits ++ [.setMetadata picture.number name value], ?_⟩
  constructor
  · simp [World.record, edited.calls]
  · intro call member
    rcases List.mem_append.mp member with inside | last
    · exact edited.areEdits call inside
    · rw [List.mem_singleton.mp last]
      rfl
  · exact edited.used.concat_silent rfl
  · rw [results]
    exact edited.distinct
  · rw [results]
    exact edited.fresh

theorem Yields.asking {world : World} (yields : opening.Yields live world) (methods : List String) :
    opening.Yields live (world.asking methods) := by
  obtain ⟨edits, edited⟩ := yields
  exact ⟨edits, edited.calls, edited.areEdits, edited.used, edited.distinct, edited.fresh⟩

theorem metadata (name : String) :
    Task.Ensures (opening.Yields live) (Library.metadata? name picture)
      fun _ => opening.Yields live := by
  intro world _ after yields ran
  obtain ⟨-, methods, rfl⟩ := Library.metadata_eq_ok ran
  exact yields.asking methods

theorem hasAlpha :
    Task.Ensures (opening.Yields live) (Library.hasAlpha picture) fun _ => opening.Yields live := by
  intro world _ after yields ran
  obtain ⟨-, rfl⟩ := Library.hasAlpha_eq_ok ran
  exact yields.asking _

theorem transformOnly {transformation : Transformation}
    (taken : live ⊆ picture.number :: transformation.operands.map Picture.number) :
    Task.Ensures (opening.Yields live) (Library.transform transformation picture)
      fun made => opening.Yields [made.number] :=
  transform [] (by simpa using taken)

theorem Yields.mono {world : World} (yields : opening.Yields live world) (more : live ⊆ kept) :
    opening.Yields kept world := by
  obtain ⟨edits, edited⟩ := yields
  exact ⟨edits, { edited with used := edited.used.mono more }⟩

theorem transformMore (transformations : List Transformation) (live : List Nat) :
    Task.Ensures (opening.Yields live)
      (Task.forAll (fun transformation => Library.transform transformation picture) transformations)
      fun made => opening.Yields (made.map Picture.number ++ live) := by
  induction transformations generalizing live with
  | nil => exact .pure fun _ yields => yields
  | cons transformation rest ih =>
    refine .bind (transform live (List.subset_append_right _ live)) fun first => ?_
    refine .bind (ih (first.number :: live)) fun others => .pure fun world yields => ?_
    exact yields.mono List.perm_middle.subset

theorem transformAll (transformations : List Transformation) :
    Task.Ensures (opening.Yields [picture.number])
      (Task.forAll (fun transformation => Library.transform transformation picture) transformations)
      fun made => opening.Yields
        (if made.isEmpty then [picture.number] else made.map Picture.number) := by
  cases transformations with
  | nil => exact .pure fun _ yields => yields
  | cons transformation rest =>
    refine .bind (transformOnly (by simp)) fun first => ?_
    refine .bind (transformMore rest [first.number]) fun others => .pure fun world yields => ?_
    exact yields.mono (by simp [List.subset_def, or_comm])

def IsSaved (opening : Opening) (world : World) : Prop :=
  ∃ edits saved extension options before,
    opening.IsEdited edits [saved] before ∧
    world.calls = before.calls ++ [.encode saved extension options]

theorem logAll (records : List LogRecord) :
    Task.Ensures (opening.Yields live) (logAll records) fun _ => opening.Yields live :=
  .modify fun _ ⟨edits, edited⟩ =>
    ⟨edits, edited.calls, edited.areEdits, edited.used, edited.distinct, edited.fresh⟩

theorem encode (extension : String) (options : Entries) :
    Task.Ensures (opening.Yields [picture.number]) (Library.encode extension options picture)
      fun _ => opening.IsSaved := by
  rintro world content after ⟨edits, edited⟩ ran
  refine ⟨edits, picture.number, extension, options, world, edited, ?_⟩
  rw [Library.encode_eq_ok ran]
  rfl

theorem write (destination : Path) (content : Bytes) :
    Task.Ensures opening.IsSaved (Files.write destination content) fun _ => opening.IsSaved := by
  rintro world _ after ⟨edits, saved, extension, options, before, edited, calls⟩ ran
  rcases Files.change_cases destination
    (fun files folder => files.write folder destination content) world with
    ⟨failure, failed⟩ | ⟨files, -, -, wrote⟩
  · cases failed.symm.trans (Files.write_eq_ok ran)
  · cases wrote.symm.trans (Files.write_eq_ok ran)
    exact ⟨edits, saved, extension, options, before, edited, calls⟩

end Opening

end Thumbnailing
