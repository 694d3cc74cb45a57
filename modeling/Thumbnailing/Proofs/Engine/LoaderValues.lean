import Thumbnailing.Engine.Basic
import Thumbnailing.Proofs.Engine.LoaderArguments

set_option autoImplicit false

namespace Thumbnailing

namespace Magick

def isTurnedOff : Value → Bool
  | .null => true
  | .boolean truth => !truth
  | _ => false

def isZero : Value → Bool
  | .integer n => n == 0
  | .real x => x.isZero
  | _ => false

def optionGroup (entry : String × Value) : List String :=
  if Vocabulary.isAllowed entry.1 && !isTurnedOff entry.2 then
    (loaderReading entry).1 :: (loaderReading entry).2
  else []

theorem isNumber_zero (x : Binary64) : (Value.real x).isNumber 0 = x.isZero := by
  have zero : (Binary64.ofInt 0).toOption = some (.zero false) := rfl
  rw [Value.isNumber, zero]
  by_cases same : x = .zero false
  · subst same
    rfl
  · have apart : (some (Binary64.zero false) == some x) = false := by simpa using Ne.symm same
    simp [apart]

theorem isOff_eq (value : Value) : isOff value = (isTurnedOff value || isZero value) := by
  cases value with
  | real x => simpa [isOff, isTurnedOff, isZero] using isNumber_zero x
  | boolean truth => cases truth <;> rfl
  | null | integer _ | text _ | list _ | dictionary _ => rfl

theorem loaderWords_eq (entry : String × Value) :
    (loaderWords entry).1 = if isZero entry.2 then [] else optionGroup entry := by
  obtain ⟨key, value⟩ := entry
  by_cases allowed : Vocabulary.isAllowed key = true
  · cases value with
    | boolean truth =>
      cases truth <;>
        simp [loaderWords, optionGroup, allowed, isOff_eq, isTurnedOff, isZero, loaderReading,
          optionWords]
    | null | text _ | list _ | dictionary _ =>
      simp [loaderWords, optionGroup, allowed, isOff_eq, isTurnedOff, isZero, loaderReading,
        optionWords]
    | integer _ | real _ =>
      simp only [loaderWords, optionGroup, allowed, isOff_eq, isTurnedOff, loaderReading,
        optionWords, Bool.not_true, Bool.false_eq_true, if_false, Bool.false_or, Bool.not_false,
        Bool.and_self, if_true]
      split <;> rfl
  · simp [loaderWords, optionGroup, allowed]

theorem loaderWords_sublist (entry : String × Value) :
    (loaderWords entry).1.Sublist (optionGroup entry) := by
  rw [loaderWords_eq]
  split
  · exact List.nil_sublist _
  · exact List.Sublist.refl _

theorem loaderWords_eq_iff (entry : String × Value) :
    (loaderWords entry).1 = optionGroup entry ↔
      (Vocabulary.isAllowed entry.1 = true → isZero entry.2 = false) := by
  rw [loaderWords_eq]
  by_cases zero : isZero entry.2 = true
  · -- A zero is not turned off, so its group is empty only where the option is not allowed.
    have on : isTurnedOff entry.2 = false := by
      cases value : entry.2 <;> simp_all [isZero, isTurnedOff]
    simp [zero, on, optionGroup]
  · simp [zero]

theorem loaderWords_records (entry : String × Value) :
    (loaderWords entry).2 =
      if Vocabulary.isAllowed entry.1 then [] else [.notAllowed .imageMagick (loaderFlag entry.1)] := by
  obtain ⟨key, value⟩ := entry
  unfold loaderWords
  by_cases allowed : Vocabulary.isAllowed key = true
  · simp only [allowed, Bool.not_true, Bool.false_eq_true, if_false, if_true]
    split
    · rfl
    · split <;> rfl
  · simp [allowed]

theorem loaderArguments_eq (entries : Entries) :
    loaderArguments entries = (entries.filter fun entry => !isZero entry.2).flatMap optionGroup := by
  induction entries with
  | nil => rfl
  | cons entry rest ih =>
    rw [loaderArguments, List.flatMap_cons, ← loaderArguments, ih, loaderWords_eq, List.filter_cons]
    cases isZero entry.2 <;> simp

theorem loaderWarnings_eq (entries : Entries) :
    loaderWarnings entries =
      (entries.filter fun entry => !Vocabulary.isAllowed entry.1).map fun entry =>
        .notAllowed .imageMagick (loaderFlag entry.1) := by
  induction entries with
  | nil => rfl
  | cons entry rest ih =>
    rw [loaderWarnings, List.flatMap_cons, ← loaderWarnings, ih, loaderWords_records,
      List.filter_cons]
    cases Vocabulary.isAllowed entry.1 <;> simp

theorem flatMap_sublist {Item Word : Type} {first second : Item → List Word}
    (part : ∀ item, (first item).Sublist (second item)) (items : List Item) :
    (items.flatMap first).Sublist (items.flatMap second) := by
  induction items with
  | nil => exact List.Sublist.refl []
  | cons item rest ih => exact (part item).append ih

theorem flatMap_eq_iff {Item Word : Type} {first second : Item → List Word}
    (part : ∀ item, (first item).Sublist (second item)) (items : List Item) :
    items.flatMap first = items.flatMap second ↔ ∀ item ∈ items, first item = second item := by
  induction items with
  | nil => simp
  | cons item rest ih =>
    have shorter := (flatMap_sublist part rest).length_le
    have here := (part item).length_le
    rw [List.forall_mem_cons, ← ih, List.flatMap_cons, List.flatMap_cons]
    constructor
    · intro whole
      have lengths := congrArg List.length whole
      simp only [List.length_append] at lengths
      exact List.append_inj whole (by omega)
    · rintro ⟨same, later⟩
      rw [same, later]

theorem loaderArguments_eq_iff (entries : Entries) :
    loaderArguments entries = entries.flatMap optionGroup ↔
      ∀ entry ∈ entries, Vocabulary.isAllowed entry.1 = true → isZero entry.2 = false := by
  rw [loaderArguments, flatMap_eq_iff loaderWords_sublist]
  exact forall₂_congr fun entry _ => loaderWords_eq_iff entry

end Magick

/-- A table of options adds the groups of its entries to a command, one after the other, but for
those whose value is zero. So all that are allowed and not turned off are there exactly if none of
the allowed ones has the value zero; the others are named in warnings. -/
theorem Engine.load_groups (settings : Settings) (source : Option Path) (entries : Entries)
    (session : Session) :
    ((Engine.load ⟨.imageMagick, settings⟩ source entries).run session =
      (.ok (), ⟨session.world.append
        ((entries.filter fun entry => !Vocabulary.isAllowed entry.1).map fun entry =>
          .notAllowed .imageMagick (Magick.loaderFlag entry.1)),
        some (.magick ⟨source,
          (entries.filter fun entry => !Magick.isZero entry.2).flatMap Magick.optionGroup,
          "", [], none⟩)⟩)) ∧
    ((entries.filter fun entry => !Magick.isZero entry.2).flatMap Magick.optionGroup =
        entries.flatMap Magick.optionGroup ↔
      ∀ entry ∈ entries, Vocabulary.isAllowed entry.1 = true → Magick.isZero entry.2 = false) := by
  rw [← Magick.loaderArguments_eq, ← Magick.loaderWarnings_eq]
  exact ⟨rfl, Magick.loaderArguments_eq_iff entries⟩

theorem zero_left_out :
    ¬ ∀ entries : Entries, Magick.loaderArguments entries = entries.flatMap Magick.optionGroup := by
  intro claimed
  have kept := (Magick.loaderArguments_eq_iff [("loop", .integer 0)]).mp (claimed _) _
    List.mem_cons_self (by decide +kernel)
  exact absurd kept (by decide)

end Thumbnailing
