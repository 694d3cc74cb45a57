import Mathlib.Data.List.TakeWhile
import Thumbnailing.Proofs.Number.Digits
import Thumbnailing.Proofs.Text.Trimming

set_option autoImplicit false

namespace Thumbnailing

open Text

theorem digitRun_plain {text : List Char} (plain : '_' ∉ text) :
    digitRun text =
      ((text.takeWhile isDecimalDigit).filterMap decimalValue?, text.dropWhile isDecimalDigit) := by
  induction text with
  | nil => rfl
  | cons c rest ih =>
    obtain ⟨other, plain⟩ := not_or.mp (mt List.mem_cons.mpr plain)
    rw [digitRun.eq_3 _ _ (by rintro _ _ rfl; exact absurd rfl other)]
    cases read : decimalValue? c with
    | none => simp [isDecimalDigit, read]
    | some digit => simp [isDecimalDigit, read, ih plain]

theorem digitLike_ne {c : Char} (like : isDigitLike c = true) : c ≠ '_' ∧ c ≠ '+' ∧ c ≠ '-' := by
  have marks : isDigitLike '_' = false ∧ isDigitLike '+' = false ∧ isDigitLike '-' = false := by
    decide +kernel
  refine ⟨?_, ?_, ?_⟩ <;> rintro rfl
  · exact absurd like (by simp [marks])
  · exact absurd like (by simp [marks])
  · exact absurd like (by simp [marks])

def signMark (negative : Bool) : List Char := if negative then ['-'] else []

variable {word : List Char}

theorem splitSign_signMark (filled : word ≠ []) (like : ∀ c ∈ word, isDigitLike c = true)
    (negative : Bool) : splitSign (signMark negative ++ word) = (negative, word) := by
  cases negative with
  | true => rfl
  | false =>
    obtain ⟨c, rest, rfl⟩ := List.exists_cons_of_ne_nil filled
    have other := digitLike_ne (like c List.mem_cons_self)
    simp only [signMark, Bool.false_eq_true, if_false, List.nil_append]
    unfold splitSign
    split <;> simp_all

theorem integerOfText_digitLike (filled : word ≠ []) (like : ∀ c ∈ word, isDigitLike c = true)
    (negative : Bool) :
    integerOfText (String.ofList (signMark negative ++ word)) =
      if (word.takeWhile isDecimalDigit).filterMap decimalValue? = [] then
        .error (.malformed (String.ofList (signMark negative ++ word)))
      else
        (digitsInteger ((word.takeWhile isDecimalDigit).filterMap decimalValue?)).bind fun value =>
          if word.dropWhile isDecimalDigit = [] then .ok (Binary64.signed negative value)
          else .error (.malformed (String.ofList (signMark negative ++ word))) := by
  have bare : ∀ c ∈ signMark negative ++ word, isWhiteSpace c = false := by
    intro c member
    rcases List.mem_append.mp member with marked | digit
    · cases negative
      · cases marked
      · rw [List.mem_singleton.mp marked]
        decide
    · have held := @not_blank_of_digitLike _ (like c digit)
      exact Bool.eq_false_iff.mpr fun white => by simp [blank_of_whiteSpace white] at held
  have trimmed : trim isWhiteSpace (signMark negative ++ word) = signMark negative ++ word := by
    have some : signMark negative ++ word ≠ [] := by simp [filled]
    simpa using @trim_between isWhiteSpace [] _ [] some bare nofun nofun
  have plain : '_' ∉ word := fun member => (digitLike_ne (like _ member)).1 rfl
  have leading : leadingDigits word =
      ((word.takeWhile isDecimalDigit).filterMap decimalValue?, word.dropWhile isDecimalDigit) := by
    rw [← digitRun_plain plain]
    unfold leadingDigits
    split
    · exact absurd List.mem_cons_self plain
    · rfl
  have ends : ((word.dropWhile isDecimalDigit).head? == some '_') = false := by
    rw [beq_eq_false_iff_ne]
    intro last
    exact plain ((List.dropWhile_sublist _).mem (List.mem_of_mem_head? last))
  simp only [integerOfText, String.toList_ofList, trimmed, splitSign_signMark filled like, leading,
    ends, Bool.or_false, List.isEmpty_iff, Bool.not_eq_true']
  split
  · rfl
  · cases digitsInteger ((word.takeWhile isDecimalDigit).filterMap decimalValue?) with
    | error fault => rfl
    | ok value => cases word.dropWhile isDecimalDigit <;> rfl

theorem integerOfText_signed (filled : word ≠ []) (digits : IsDigitRun word) (negative : Bool) :
    integerOfText (String.ofList (signMark negative ++ word)) =
      if digitLimit < word.length then .error (.tooLong word.length)
      else .ok (Binary64.signed negative (runValue word)) := by
  have like : ∀ c ∈ word, isDigitLike c = true := fun c member =>
    digitLike_of_decimalDigit (digits c member)
  have some : word.filterMap decimalValue? ≠ [] := by
    intro none
    have length := List.filterMap_length_eq_length.mpr digits
    rw [none] at length
    exact filled (List.length_eq_zero_iff.mp length.symm)
  have all := List.takeWhile_eq_self_iff.mpr digits
  have nothing := List.dropWhile_eq_nil_iff.mpr digits
  rw [integerOfText_digitLike filled like, all, nothing, if_neg some, digitsInteger_run digits]
  split <;> rfl

theorem integerOfText_run (filled : word ≠ []) (digits : IsDigitRun word) :
    integerOfText (String.ofList word) =
      if digitLimit < word.length then .error (.tooLong word.length) else .ok (runValue word) :=
  integerOfText_signed filled digits false

theorem integerOfText_signs (filled : word ≠ []) (like : ∀ c ∈ word, isDigitLike c = true)
    (other : ¬ IsDigitRun word) : ∃ fault, integerOfText (String.ofList word) = .error fault := by
  have left : word.dropWhile isDecimalDigit ≠ [] := mt List.dropWhile_eq_nil_iff.mp other
  have read := integerOfText_digitLike filled like false
  simp only [signMark, Bool.false_eq_true, if_false, List.nil_append, if_neg left] at read
  rw [read]
  split
  · exact ⟨_, rfl⟩
  · cases digitsInteger ((word.takeWhile isDecimalDigit).filterMap decimalValue?) with
    | error fault => exact ⟨fault, rfl⟩
    | ok value => exact ⟨.malformed (String.ofList word), rfl⟩

end Thumbnailing
