import Thumbnailing.Proofs.Json.Places
import Thumbnailing.Proofs.Request.Options

set_option autoImplicit false

namespace Thumbnailing.ThumbnailOptions

variable {limit : Nat}

theorem ofDocument_answers {document : List Char}
    (passable : ∀ reason, ¬ Json.Breaks limit document reason) :
    IsAnswer (ofDocument document limit) := by
  unfold ofDocument
  split
  · exact .inr ⟨_, rfl⟩
  · rename_i fault stopped
    exact absurd ((Json.readDocument_error_iff rfl).mp stopped) (passable _)
  · rename_i kind stopped
    exact absurd ((Json.readDocument_error_iff rfl).mp stopped) (passable _)
  · exact ofFormEntries_answers _
  · exact .inr ⟨_, rfl⟩

theorem ofForm_of_breaks {content : String} {reason : Json.Stop}
    (breaks : Json.Breaks limit content.toList reason) :
    ofForm (some content) limit = ofDocument content.toList limit := by
  obtain ⟨around, here, meets, stops⟩ := breaks
  have filled : content.isEmpty = false := by
    by_contra empty
    have none : content.toList = [] := by simpa using empty
    have stopped := (Json.readDocument_error_iff stops.escapes).mpr ⟨around, here, meets, stops⟩
    rw [none] at stopped
    cases stopped
    exact stops
  simp [ofForm, filled]

theorem ofForm_overlong {content : String} {digits : Nat}
    (breaks : Json.Breaks limit content.toList (.numeral (.tooLong digits))) :
    ofForm (some content) limit = .error (.numeral (.tooLong digits)) := by
  rw [ofForm_of_breaks breaks, ofDocument, (Json.readDocument_error_iff rfl).mpr breaks]

theorem ofForm_tooDeep {content : String} {kind : Enclosure}
    (breaks : Json.Breaks limit content.toList (.tooDeep kind)) :
    ofForm (some content) limit = .error (.documentTooDeep kind) := by
  rw [ofForm_of_breaks breaks, ofDocument, (Json.readDocument_error_iff rfl).mpr breaks]

theorem not_isAnswer_of_breaks {content : String} {reason : Json.Stop}
    (breaks : Json.Breaks limit content.toList reason) : ¬ IsAnswer (ofForm (some content) limit) := by
  cases reason with
  | syntactic problem unread =>
    obtain ⟨around, here, -, stops⟩ := breaks
    exact absurd stops id
  | numeral fault =>
    obtain ⟨around, here, meets, digits, starts, rfl⟩ := breaks
    rw [ofForm_overlong ⟨around, here, meets, digits, starts, rfl⟩]
    exact not_isAnswer rfl
  | tooDeep kind =>
    rw [ofForm_tooDeep breaks]
    exact not_isAnswer rfl

/-- The text of a form is answered by options without parsers or as a bad request, unless reading it
comes to an integer of too many digits, or to a list or dictionary that is nested too deep. These
two end with failures of their own. -/
theorem ofForm_isAnswer_iff (limit : Nat) (options : Option String) :
    (IsAnswer (ofForm options limit) ↔
      ∀ content ∈ options, ∀ reason, ¬ Json.Breaks limit content.toList reason) ∧
    ∀ content ∈ options,
      (∀ digits, Json.Breaks limit content.toList (.numeral (.tooLong digits)) →
        ofForm options limit = .error (.numeral (.tooLong digits))) ∧
      ∀ kind, Json.Breaks limit content.toList (.tooDeep kind) →
        ofForm options limit = .error (.documentTooDeep kind) := by
  cases options with
  | none => exact ⟨iff_of_true (.inl ⟨standard, rfl, rfl, rfl⟩) nofun, nofun⟩
  | some content =>
    refine ⟨⟨fun answered given asked reason breaks => ?_, fun passable => ?_⟩, ?_⟩
    · cases asked
      exact not_isAnswer_of_breaks breaks answered
    · by_cases empty : content.isEmpty = true
      · rw [ofForm, if_pos empty]
        exact .inl ⟨standard, rfl, rfl, rfl⟩
      · rw [ofForm, if_neg empty]
        exact ofDocument_answers (passable content rfl)
    · rintro given ⟨⟩
      exact ⟨fun digits => ofForm_overlong, fun kind => ofForm_tooDeep⟩

def longFrameIndex (ones : Nat) : String :=
  String.ofList ('\x7b' :: '"' :: 'f' :: 'r' :: 'a' :: 'm' :: 'e' :: '_' :: 'i' :: 'n' :: 'd' ::
    'e' :: 'x' :: '"' :: ':' :: (List.replicate ones '1' ++ ['\x7d']))

theorem longFrameIndex_breaks {ones : Nat} (nested : 0 < limit) (many : digitLimit < ones) :
    Json.Breaks limit (longFrameIndex ones).toList (.numeral (.tooLong ones)) := by
  obtain ⟨more, rfl⟩ : ∃ more, ones = more + 1 := ⟨ones - 1, by omega⟩
  have ended : ∀ c ∈ ['\x7d'].head?, c.isDigit = false ∧ c ≠ '.' ∧ c ≠ 'e' ∧ c ≠ 'E' := by
    rintro c ⟨⟩
    decide
  have overlong : Json.StartsOverlong (List.replicate (more + 1) '1' ++ ['\x7d'])
      (List.replicate (more + 1) '1').length :=
    Json.startsOverlong_of_digits (by simp) (by simp [List.replicate_succ]) (by simpa using many)
      ended
  have inside : Json.Meets limit (longFrameIndex (more + 1)).toList [.dictionary]
      (List.replicate (more + 1) '1' ++ ['\x7d']) := by
    rw [longFrameIndex, String.toList_ofList, List.replicate_succ, List.cons_append]
    have unclosed : some '"' ≠ some Enclosure.dictionary.closing := by simp [Enclosure.closing]
    exact @Json.Meets.inside _ _ _ .dictionary _ _ .start nested unclosed rfl
  rw [List.length_replicate] at overlong
  exact ⟨_, _, inside, more + 1, overlong, rfl⟩

theorem long_frame_index_escapes : ¬ ∀ options, IsAnswer (ofForm options) := by
  intro claimed
  have breaks : Json.Breaks Json.usualLimit _ _ :=
    longFrameIndex_breaks (by decide) (Nat.lt_succ_self digitLimit)
  exact not_isAnswer_of_breaks breaks (claimed _)

end Thumbnailing.ThumbnailOptions
