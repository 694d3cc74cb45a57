import Thumbnailing.Proofs.Directive.Names
import Thumbnailing.Proofs.Engine.Commands
import Thumbnailing.Proofs.World.Plain

set_option autoImplicit false

namespace Thumbnailing

namespace Vips

def loadedOptions (options : Entries) : Entries → Outcome Entries
  | [] => .ok options
  | entry :: rest =>
    match loaderNames.lookup entry.1 with
    | none => loadedOptions options rest
    | some name =>
      match loaderValue? name entry.2 with
      | none => .error (invalidValue entry.1 entry.2)
      | some value => loadedOptions (options.put name value) rest

def isRefused (entry : String × Value) : Bool :=
  (loaderNames.lookup entry.1).any fun name => (loaderValue? name entry.2).isNone

def loaderRecords : Entries → List LogRecord
  | [] => []
  | entry :: rest =>
    match loaderNames.lookup entry.1 with
    | none => unsupported .vips ("-" ++ entry.1) :: loaderRecords rest
    | some _ => if isRefused entry then [] else loaderRecords rest

theorem run_loaderOptionsFrom (options entries : Entries) (world : World) :
    (loaderOptionsFrom options entries).run world =
      (loadedOptions options entries, world.append (loaderRecords entries)) := by
  induction entries generalizing options world with
  | nil => simp [loadedOptions, loaderRecords, World.append_nil]
  | cons entry rest ih =>
    cases found : loaderNames.lookup entry.1 with
    | none =>
      simp [loaderOptionsFrom, addLoaderOption, loadedOptions, loaderRecords, found, Task.run_bind,
        ih, World.append_append]
    | some name =>
      cases value : loaderValue? name entry.2 <;>
        simp [loaderOptionsFrom, addLoaderOption, loadedOptions, loaderRecords, isRefused, found,
          value, Task.run_bind, ih, World.append_nil]

theorem loadedOptions_append (options before rest : Entries) :
    loadedOptions options (before ++ rest) =
      loadedOptions options before >>= fun options => loadedOptions options rest := by
  induction before generalizing options with
  | nil => rfl
  | cons entry before ih =>
    cases found : loaderNames.lookup entry.1 with
    | none => simpa [loadedOptions, found] using ih options
    | some name =>
      cases value : loaderValue? name entry.2 with
      | none => simp [loadedOptions, found, value, bind, Except.bind]
      | some value => simp [loadedOptions, found, value, ih]

theorem loadedOptions_of_refused {before : Entries} (refused : before.any isRefused = true)
    (options rest : Entries) :
    loadedOptions options (before ++ rest) = loadedOptions options before := by
  induction before generalizing options with
  | nil => cases refused
  | cons entry before ih =>
    rw [List.any_cons, Bool.or_eq_true] at refused
    cases found : loaderNames.lookup entry.1 with
    | none =>
      have later : before.any isRefused = true := by simpa [isRefused, found] using refused
      simpa [loadedOptions, found] using ih later options
    | some name =>
      cases value : loaderValue? name entry.2 with
      | none => simp [loadedOptions, found, value]
      | some accepted =>
        have later : before.any isRefused = true := by simpa [isRefused, found, value] using refused
        simpa [loadedOptions, found, value] using ih later _

theorem loaderRecords_append (before rest : Entries) :
    loaderRecords (before ++ rest) =
      loaderRecords before ++ if before.any isRefused then [] else loaderRecords rest := by
  induction before with
  | nil => rfl
  | cons entry before ih =>
    cases found : loaderNames.lookup entry.1 with
    | none =>
      have accepted : isRefused entry = false := by simp [isRefused, found]
      rw [List.any_cons, accepted, Bool.false_or]
      simp [loaderRecords, found, ih]
    | some name =>
      cases refused : isRefused entry with
      | true => simp [loaderRecords, found, refused]
      | false =>
        rw [List.any_cons, refused, Bool.false_or]
        simp [loaderRecords, found, refused, ih]

theorem lookup_canonical {key name : String} (known : loaderNames.lookup key = some name) :
    Directive.canonicalName key = key ∧ '_' ∉ key.toList ∧ '-' ∉ key.toList := by
  obtain ⟨before, after, whole, -⟩ := List.lookup_eq_some_iff.mp known
  have all : ∀ entry ∈ loaderNames, Directive.canonicalName entry.1 = entry.1 ∧
    '_' ∉ entry.1.toList ∧ '-' ∉ entry.1.toList := by decide +kernel
  exact all (key, name) (by simp [whole])

variable {key other : String} {value : Value} {before after : Entries}

theorem known_unique {name otherName : String}
    (same : Directive.canonicalName key = Directive.canonicalName other)
    (known : loaderNames.lookup key = some name)
    (otherKnown : loaderNames.lookup other = some otherName) : key = other := by
  rw [← (lookup_canonical known).1, same, (lookup_canonical otherKnown).1]

theorem unknown_warns {name : String} (unknown : loaderNames.lookup key = none)
    (known : loaderNames.lookup other = some name) :
    (loaderRecords ((other, value) :: after)).length <
      (loaderRecords ((key, value) :: after)).length := by
  have warned : loaderRecords ((key, value) :: after) =
      unsupported .vips ("-" ++ key) :: loaderRecords after := by simp [loaderRecords, unknown]
  have quiet : loaderRecords ((other, value) :: after) =
      if isRefused (other, value) then [] else loaderRecords after := by
    simp [loaderRecords, known]
  rw [warned, quiet, List.length_cons]
  split
  · exact Nat.zero_lt_succ _
  · exact Nat.lt_succ_self _

theorem map_hyphens {chars : List Char} (plain : '_' ∉ chars) :
    chars.map Directive.hyphenOfUnderscore = chars := by
  induction chars with
  | nil => rfl
  | cons c rest ih =>
    simp only [List.mem_cons, not_or] at plain
    rw [List.map_cons, ih plain.2, Directive.hyphenOfUnderscore, if_neg (Ne.symm plain.1)]

theorem eq_of_hyphens {name : String} (known : loaderNames.lookup key = some name)
    (hyphens : Magick.loaderFlag key = Magick.loaderFlag other) : key = other := by
  obtain ⟨-, underscores, hyphen⟩ := lookup_canonical known
  have written : other.toList.map Directive.hyphenOfUnderscore = key.toList := by
    have chars := congrArg String.toList hyphens
    simp only [Magick.loaderFlag, String.toList_ofList, map_hyphens underscores] at chars
    exact chars.symm
  -- An underscore in the other spelling would be written as a hyphen, which the key has not.
  have apart : '_' ∉ other.toList := by
    intro inside
    have member := List.mem_map_of_mem (f := Directive.hyphenOfUnderscore) inside
    rw [written] at member
    exact hyphen member
  rw [map_hyphens apart] at written
  exact String.toList_inj.mp written.symm

theorem lookup_of_hyphens (hyphens : Magick.loaderFlag key = Magick.loaderFlag other) :
    loaderNames.lookup key = loaderNames.lookup other := by
  cases known : loaderNames.lookup key with
  | some name =>
    obtain rfl := eq_of_hyphens known hyphens
    exact known.symm
  | none =>
    cases otherKnown : loaderNames.lookup other with
    | none => rfl
    | some name =>
      obtain rfl := eq_of_hyphens otherKnown hyphens.symm
      exact known.symm.trans otherKnown

theorem loaderRecords_respelled
    (same : Directive.canonicalName key = Directive.canonicalName other) :
    (loaderRecords ((key, value) :: after)).length =
        (loaderRecords ((other, value) :: after)).length ↔
      loaderNames.lookup key = loaderNames.lookup other := by
  cases known : loaderNames.lookup key with
  | none =>
    cases otherKnown : loaderNames.lookup other with
    | none => simp [loaderRecords, known, otherKnown]
    | some name =>
      exact iff_of_false (Nat.ne_of_gt (unknown_warns known otherKnown)) nofun
  | some name =>
    cases otherKnown : loaderNames.lookup other with
    | none =>
      exact iff_of_false (Nat.ne_of_lt (unknown_warns otherKnown known)) nofun
    | some otherName =>
      obtain rfl := known_unique same known otherKnown
      exact iff_of_true rfl (known.symm.trans otherKnown)

theorem loadedOptions_respelled
    (same : Directive.canonicalName key = Directive.canonicalName other)
    (alike : loaderNames.lookup key = loaderNames.lookup other) (options : Entries) :
    loadedOptions options ((key, value) :: after) =
      loadedOptions options ((other, value) :: after) := by
  cases known : loaderNames.lookup key with
  | none => simp [loadedOptions, known, alike.symm.trans known]
  | some name =>
    obtain rfl := known_unique same known (alike.symm.trans known)
    rfl

end Vips

namespace Magick

variable {key other : String} {value : Value} {before after : Entries}

theorem isAllowed_respelled (same : Directive.canonicalName key = Directive.canonicalName other) :
    Vocabulary.isAllowed key = Vocabulary.isAllowed other := by
  rw [Vocabulary.isAllowed, same, Vocabulary.isAllowed]

theorem loaderWarnings_respelled
    (same : Directive.canonicalName key = Directive.canonicalName other) :
    (loaderWarnings (before ++ (key, value) :: after)).length =
      (loaderWarnings (before ++ (other, value) :: after)).length := by
  have here : (loaderWords (key, value)).2.length = (loaderWords (other, value)).2.length := by
    simp only [loaderWords, isAllowed_respelled same]
    split
    · rfl
    · split
      · rfl
      · split <;> rfl
  simp only [loaderWarnings, List.flatMap_append, List.flatMap_cons, List.length_append, here]

theorem loaderWords_respelled
    (same : Directive.canonicalName key = Directive.canonicalName other) :
    (loaderWords (key, value)).1 = (loaderWords (other, value)).1 ↔
      (Vocabulary.isAllowed key = true → isOff value = false →
        loaderFlag key = loaderFlag other) := by
  have flags : "-" ++ loaderFlag key = "-" ++ loaderFlag other ↔
      loaderFlag key = loaderFlag other := by simp [← String.toList_inj]
  have allowed := isAllowed_respelled same
  cases known : Vocabulary.isAllowed key with
  | false => simp [loaderWords, known, allowed.symm.trans known]
  | true =>
    cases off : isOff value with
    | true =>
      cases value with
      | boolean truth => cases truth <;> simp_all [loaderWords, isOff, Value.isNumber]
      | null | integer _ | real _ | text _ | list _ | dictionary _ =>
        simp [loaderWords, known, allowed.symm.trans known, off]
    | false =>
      cases value with
      | boolean truth =>
        cases truth <;> simp_all [loaderWords, isOff, Value.isNumber]
      | null | integer _ | real _ | text _ | list _ | dictionary _ =>
        simp [loaderWords, known, allowed.symm.trans known, off, flags]

theorem loaderArguments_respelled
    (same : Directive.canonicalName key = Directive.canonicalName other) :
    loaderArguments (before ++ (key, value) :: after) =
        loaderArguments (before ++ (other, value) :: after) ↔
      (Vocabulary.isAllowed key = true → isOff value = false →
        loaderFlag key = loaderFlag other) := by
  rw [← loaderWords_respelled same]
  simp only [loaderArguments, List.flatMap_append, List.flatMap_cons, List.append_cancel_left_eq,
    List.append_cancel_right_eq]

end Magick

namespace Engine

def readingOf : Job → List String × Entries
  | .magick command => (command.loaderArguments, [])
  | .vips job => ([], job.loaderOptions)

/-- Two tables of options are loaded as the same ones, with as many warnings. -/
structure LoadsAlike (engine : Engine) (source : Option Path) (world : World)
    (first second : Entries) : Prop where
  reading : ((engine.loadJob source first).run world).1.toOption.map readingOf =
    ((engine.loadJob source second).run world).1.toOption.map readingOf
  warnings : ((engine.loadJob source first).run world).2.log.length =
    ((engine.loadJob source second).run world).2.log.length

variable {settings : Settings} {source : Option Path} {world between : World}
  {first second : Entries}

theorem loadsAlike_magick :
    LoadsAlike ⟨.imageMagick, settings⟩ source world first second ↔
      Magick.loaderArguments first = Magick.loaderArguments second ∧
      (Magick.loaderWarnings first).length = (Magick.loaderWarnings second).length := by
  have run (entries : Entries) : (loadJob ⟨.imageMagick, settings⟩ source entries).run world =
    (.ok (.magick (Magick.load source entries)), world.append (Magick.loaderWarnings entries)) := rfl
  constructor
  · rintro ⟨reading, warnings⟩
    simp only [run, World.append, List.length_append] at reading warnings
    exact ⟨congrArg Prod.fst (Option.some.inj reading), by omega⟩
  · rintro ⟨words, warnings⟩
    constructor
    · simp [run, Except.toOption, readingOf, Magick.load, words]
    · simp [run, World.append, warnings]

theorem loadsAlike_vips (loaded : Library.load.run world = (.ok (), between)) :
    LoadsAlike ⟨.vips, settings⟩ source world first second ↔
      (Vips.loadedOptions [] first).toOption = (Vips.loadedOptions [] second).toOption ∧
      (Vips.loaderRecords first).length = (Vips.loaderRecords second).length := by
  have run (entries : Entries) : (loadJob ⟨.vips, settings⟩ source entries).run world =
      ((Vips.loadedOptions [] entries).map fun options => .vips ⟨source, options, none, [], none⟩,
        between.append (Vips.loaderRecords entries)) := by
    simp only [loadJob, Vips.load, Task.run_bind, loaded, Vips.run_loaderOptionsFrom]
    cases Vips.loadedOptions [] entries <;> rfl
  have read (entries : Entries) : ((Vips.loadedOptions [] entries).map fun options =>
      (Job.vips ⟨source, options, none, [], none⟩)).toOption.map readingOf =
        (Vips.loadedOptions [] entries).toOption.map fun options => ([], options) := by
    cases Vips.loadedOptions [] entries <;> rfl
  constructor
  · rintro ⟨reading, warnings⟩
    simp only [run, read, World.append, List.length_append] at reading warnings
    exact ⟨Option.map_injective (fun _ _ pair => congrArg Prod.snd pair) reading, by omega⟩
  · rintro ⟨options, warnings⟩
    constructor
    · simp only [run, read, options]
    · simp [run, World.append, warnings]

theorem loadsAlike_of_unavailable {failure : Failure}
    (failed : Library.load.run world = (.error failure, between)) :
    LoadsAlike ⟨.vips, settings⟩ source world first second := by
  have run (entries : Entries) : (loadJob ⟨.vips, settings⟩ source entries).run world =
      (.error failure, between) := by
    simp only [loadJob, Vips.load, Task.run_bind, failed]
  constructor <;> simp only [run]

variable {key other : String} {value : Value} {before after : Entries}

theorem loadsAlike_vips_respelled
    (same : Directive.canonicalName key = Directive.canonicalName other) :
    LoadsAlike ⟨.vips, settings⟩ source world
        (before ++ (key, value) :: after) (before ++ (other, value) :: after) ↔
      ((Library.load.run world).1.isOk = true → before.any Vips.isRefused = false →
        Vips.loaderNames.lookup key = Vips.loaderNames.lookup other) := by
  rcases ran : Library.load.run world with ⟨outcome, between⟩
  cases outcome with
  | error failure => exact iff_of_true (loadsAlike_of_unavailable ran) nofun
  | ok loaded =>
    rw [loadsAlike_vips ran, Vips.loaderRecords_append, Vips.loaderRecords_append]
    cases refused : before.any Vips.isRefused with
    | true =>
      -- Nothing behind an option that is refused is read.
      rw [Vips.loadedOptions_of_refused refused, Vips.loadedOptions_of_refused refused]
      exact iff_of_true ⟨rfl, rfl⟩ nofun
    | false =>
      simp only [Bool.false_eq_true, if_false, List.length_append, Nat.add_left_cancel_iff,
        Vips.loaderRecords_respelled same]
      constructor
      · rintro ⟨-, alike⟩ - -
        exact alike
      · intro given
        have alike := given rfl trivial
        refine ⟨?_, alike⟩
        rw [Vips.loadedOptions_append, Vips.loadedOptions_append]
        simp only [Vips.loadedOptions_respelled same alike]

/-- A key in another spelling is the same option to a command if it is not allowed, or turned off,
or differs in hyphens and underscores only; and to the library if it is known to it under the same
name or not at all, unless the library is not there or another option was refused before. So hyphens
and underscores make no difference, but capitals and signs do. -/
theorem load_respelled (same : Directive.canonicalName key = Directive.canonicalName other)
    (settings : Settings) (source : Option Path) (world : World) (value : Value)
    (before after : Entries) :
    (LoadsAlike ⟨.imageMagick, settings⟩ source world
        (before ++ (key, value) :: after) (before ++ (other, value) :: after) ↔
      (Vocabulary.isAllowed key = true → Magick.isOff value = false →
        Magick.loaderFlag key = Magick.loaderFlag other)) ∧
    (LoadsAlike ⟨.vips, settings⟩ source world
        (before ++ (key, value) :: after) (before ++ (other, value) :: after) ↔
      ((Library.load.run world).1.isOk = true → before.any Vips.isRefused = false →
        Vips.loaderNames.lookup key = Vips.loaderNames.lookup other)) ∧
    (Magick.loaderFlag key = Magick.loaderFlag other → ∀ kind,
      LoadsAlike ⟨kind, settings⟩ source world
        (before ++ (key, value) :: after) (before ++ (other, value) :: after)) := by
  have magick : LoadsAlike ⟨.imageMagick, settings⟩ source world
        (before ++ (key, value) :: after) (before ++ (other, value) :: after) ↔
      (Vocabulary.isAllowed key = true → Magick.isOff value = false →
        Magick.loaderFlag key = Magick.loaderFlag other) := by
    rw [loadsAlike_magick, Magick.loaderArguments_respelled same]
    exact and_iff_left (Magick.loaderWarnings_respelled same)
  refine ⟨magick, loadsAlike_vips_respelled same, ?_⟩
  intro hyphens kind
  cases kind with
  | imageMagick => exact magick.mpr fun _ _ => hyphens
  | vips => exact (loadsAlike_vips_respelled same).mpr fun _ _ => Vips.lookup_of_hyphens hyphens

theorem hyphens_load_alike :
    Directive.canonicalName "sampling_factor" = Directive.canonicalName "sampling-factor" ∧
    ∀ kind, LoadsAlike ⟨kind, .standard⟩ none .plain
      [("density", .text "300"), ("sampling_factor", .text "2x1")]
      [("density", .text "300"), ("sampling-factor", .text "2x1")] := by
  have same : Directive.canonicalName "sampling_factor" =
    Directive.canonicalName "sampling-factor" := by decide +kernel
  obtain ⟨-, -, alike⟩ := load_respelled same .standard none .plain (.text "2x1")
    [("density", .text "300")] []
  exact ⟨same, alike (by decide +kernel)⟩

/-- A key with a sign in front is allowed, but is written with another sign, and the library does
not know it. -/
theorem signed_key_loads_otherwise :
    Directive.canonicalName "density" = Directive.canonicalName "-density" ∧
    ¬ LoadsAlike ⟨.imageMagick, .standard⟩ none .plain
      [("density", .text "300")] [("-density", .text "300")] ∧
    ¬ LoadsAlike ⟨.vips, .standard⟩ none .plain
      [("density", .text "300")] [("-density", .text "300")] := by
  have same : Directive.canonicalName "density" = Directive.canonicalName "-density" := by
    decide +kernel
  refine ⟨same, fun alike => ?_, fun alike => ?_⟩
  · exact absurd (loadsAlike_magick.mp alike).1 (by decide +kernel)
  · have placed : LoadsAlike ⟨.vips, .standard⟩ none .plain
        ([] ++ ("density", .text "300") :: []) ([] ++ ("-density", .text "300") :: []) := alike
    exact absurd ((loadsAlike_vips_respelled same).mp placed rfl rfl) (by decide +kernel)

end Engine

end Thumbnailing
