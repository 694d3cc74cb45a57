import Thumbnailing.Json.Reader
import Thumbnailing.Proofs.Number.Words

set_option autoImplicit false

namespace Thumbnailing.Json

open Text

structure NumeralParts where
  sign : List Char
  whole : List Char
  fraction : List Char
  exponent : List Char
  rest : List Char

namespace NumeralParts

def isInteger (parts : NumeralParts) : Bool := parts.fraction.isEmpty && parts.exponent.isEmpty

def word (parts : NumeralParts) : String :=
  String.ofList (parts.sign ++ parts.whole ++ parts.fraction ++ parts.exponent)

def read (parts : NumeralParts) : Reading (Value × List Char) :=
  if parts.isInteger then
    match integerOfText parts.word with
    | .ok n => .ok (.integer n, parts.rest)
    | .error fault => .error (.numeral fault)
  else .ok (.real ((numberOfText? parts.word).getD .undefined), parts.rest)

end NumeralParts

def signPart : List Char → List Char × List Char
  | '-' :: body => (['-'], body)
  | text => ([], text)

def numeralParts (text : List Char) : NumeralParts :=
  let (sign, body) := signPart text
  let (whole, afterWhole) := wholeDigits body
  let (fraction, afterFraction) := fractionPart afterWhole
  let (exponent, rest) := exponentPart afterFraction
  ⟨sign, whole, fraction, exponent, rest⟩

theorem readNumeral_eq (text : List Char) :
    readNumeral text =
      if (numeralParts text).whole = [] then stop .noValue text else (numeralParts text).read := by
  unfold readNumeral
  split
  rename_i sign body signed
  have parted : signPart text = (sign, body) := by
    split at signed
    · exact signed
    · rename_i unsigned
      rw [signPart.eq_2 _ unsigned]
      exact signed
  simp only [numeralParts, parted, NumeralParts.read, NumeralParts.isInteger, NumeralParts.word,
    ← List.isEmpty_iff]
  split <;> rfl

theorem takeDigits_append (text : List Char) : (takeDigits text).1 ++ (takeDigits text).2 = text :=
  List.takeWhile_append_dropWhile

theorem signPart_append (text : List Char) : (signPart text).1 ++ (signPart text).2 = text := by
  unfold signPart
  split <;> rfl

theorem signPart_mark (text : List Char) : ∃ negative, (signPart text).1 = signMark negative := by
  unfold signPart
  split
  · exact ⟨true, rfl⟩
  · exact ⟨false, rfl⟩

theorem wholeDigits_append (text : List Char) :
    (wholeDigits text).1 ++ (wholeDigits text).2 = text := by
  unfold wholeDigits
  split
  · rfl
  · exact takeDigits_append text

theorem wholeDigits_isDigitRun (text : List Char) : IsDigitRun (wholeDigits text).1 := by
  have decimal {c : Char} (digit : c.isDigit = true) : isDecimalDigit c = true := by
    have ascii : c.toNat < 128 := by
      simp only [Char.isDigit, Bool.and_eq_true, decide_eq_true_eq] at digit
      have most : c.toNat ≤ 57 := digit.2
      omega
    simp [isDecimalDigit, decimalValue?, ascii, digit]
  unfold wholeDigits
  split
  · exact List.forall_mem_singleton.mpr (decimal rfl)
  · exact fun c member => decimal (List.all_eq_true.mp List.all_takeWhile c member)

theorem fractionPart_append (text : List Char) :
    (fractionPart text).1 ++ (fractionPart text).2 = text := by
  unfold fractionPart
  split
  · simp only
    split
    · rfl
    · simp [takeDigits_append]
  · rfl

theorem exponentPart_append (text : List Char) :
    (exponentPart text).1 ++ (exponentPart text).2 = text := by
  cases text with
  | nil => rfl
  | cons mark rest =>
    by_cases marked : mark = 'e' ∨ mark = 'E'
    · simp only [exponentPart, if_pos marked]
      split
      all_goals
        simp only
        split
        · rfl
        · simp [takeDigits_append]
    · simp [exponentPart, marked]

theorem numeralParts_append (text : List Char) :
    (numeralParts text).sign ++ ((numeralParts text).whole ++ ((numeralParts text).fraction ++
      ((numeralParts text).exponent ++ (numeralParts text).rest))) = text := by
  simp only [numeralParts, exponentPart_append, fractionPart_append, wholeDigits_append,
    signPart_append]

theorem length_numeralParts_rest {text : List Char} (filled : (numeralParts text).whole ≠ []) :
    (numeralParts text).rest.length < text.length := by
  have whole := congrArg List.length (numeralParts_append text)
  have some := List.length_pos_iff.mpr filled
  simp only [List.length_append] at whole
  omega

/-- The text starts with an integer of so many digits, and these are too many. -/
structure StartsOverlong (text : List Char) (digits : Nat) : Prop where
  integer : (numeralParts text).isInteger = true
  counted : (numeralParts text).whole.length = digits
  overlong : digitLimit < digits

theorem StartsOverlong.filled {text : List Char} {digits : Nat}
    (starts : StartsOverlong text digits) : (numeralParts text).whole ≠ [] := by
  have counted := starts.counted
  have overlong := starts.overlong
  intro none
  rw [none, List.length_nil] at counted
  omega

theorem startsOverlong_of_digits {digits rest : List Char}
    (decimal : ∀ c ∈ digits, c.isDigit = true) (first : digits.head? ≠ some '0')
    (overlong : digitLimit < digits.length)
    (ended : ∀ c ∈ rest.head?, c.isDigit = false ∧ c ≠ '.' ∧ c ≠ 'e' ∧ c ≠ 'E') :
    StartsOverlong (digits ++ rest) digits.length := by
  have none : rest.takeWhile Char.isDigit = [] ∧ rest.dropWhile Char.isDigit = rest := by
    cases rest with
    | nil => exact ⟨rfl, rfl⟩
    | cons c rest => simp [(ended c rfl).1]
  have plain : fractionPart rest = ([], rest) ∧ exponentPart rest = ([], rest) := by
    cases rest with
    | nil => exact ⟨rfl, rfl⟩
    | cons c rest =>
      obtain ⟨-, point, small, large⟩ := ended c rfl
      simp [fractionPart, exponentPart, point, small, large]
  have taken : takeDigits (digits ++ rest) = (digits, rest) := by
    rw [takeDigits, List.takeWhile_append_of_pos decimal, List.dropWhile_append_of_pos decimal,
      none.1, none.2, List.append_nil]
  have parts : numeralParts (digits ++ rest) = ⟨[], digits, [], [], rest⟩ := by
    cases digits with
    | nil => cases overlong
    | cons c more =>
      have zero : c ≠ '0' := by simpa using first
      have minus : c ≠ '-' := by
        rintro rfl
        exact absurd (decimal '-' List.mem_cons_self) (by decide)
      rw [List.cons_append] at taken ⊢
      have whole : wholeDigits (c :: (more ++ rest)) = (c :: more, rest) := by
        rw [wholeDigits.eq_2 _ (by simp [zero]), taken]
      rw [numeralParts, signPart.eq_2 _ (by simp [minus])]
      simp only [whole, plain]
  exact ⟨by rw [parts]; rfl, by rw [parts], overlong⟩

theorem integerOfText_word {text : List Char} (filled : (numeralParts text).whole ≠ [])
    (integer : (numeralParts text).isInteger = true) :
    ∃ negative, integerOfText (numeralParts text).word =
      if digitLimit < (numeralParts text).whole.length then
        .error (.tooLong (numeralParts text).whole.length)
      else .ok (Binary64.signed negative (runValue (numeralParts text).whole)) := by
  obtain ⟨negative, signed⟩ := signPart_mark text
  have marked : (numeralParts text).sign = signMark negative := signed
  simp only [NumeralParts.isInteger, Bool.and_eq_true, List.isEmpty_iff] at integer
  refine ⟨negative, ?_⟩
  rw [NumeralParts.word, integer.1, integer.2, marked, List.append_nil, List.append_nil]
  exact integerOfText_signed filled (wholeDigits_isDigitRun _) negative

theorem readNumeral_overlong {text : List Char} {digits : Nat}
    (starts : StartsOverlong text digits) :
    readNumeral text = .error (.numeral (.tooLong digits)) := by
  have filled := starts.filled
  obtain ⟨integer, rfl, overlong⟩ := starts
  obtain ⟨negative, read⟩ := integerOfText_word filled integer
  rw [readNumeral_eq, if_neg filled, NumeralParts.read, if_pos integer, read, if_pos overlong]

theorem readNumeral_cases (text : List Char) :
    readNumeral text = stop .noValue text ∨
    (∃ value left, left.length < text.length ∧ readNumeral text = .ok (value, left)) ∨
    ∃ digits, StartsOverlong text digits ∧ readNumeral text = .error (.numeral (.tooLong digits)) := by
  by_cases none : (numeralParts text).whole = []
  · exact .inl (by rw [readNumeral_eq, if_pos none])
  · have shorter := length_numeralParts_rest none
    rw [readNumeral_eq, if_neg none, NumeralParts.read]
    by_cases integer : (numeralParts text).isInteger = true
    · obtain ⟨negative, read⟩ := integerOfText_word none integer
      rw [if_pos integer, read]
      by_cases overlong : digitLimit < (numeralParts text).whole.length
      · rw [if_pos overlong]
        exact .inr (.inr ⟨_, ⟨integer, rfl, overlong⟩, rfl⟩)
      · rw [if_neg overlong]
        exact .inr (.inl ⟨_, _, shorter, rfl⟩)
    · rw [if_neg integer]
      exact .inr (.inl ⟨_, _, shorter, rfl⟩)

theorem readWord?_some {text left : List Char} {value : Value}
    (read : readWord? text = some (value, left)) :
    left.length < text.length ∧ (numeralParts text).whole = [] := by
  obtain ⟨word, listed, found⟩ := List.exists_of_findSome?_eq_some read
  split at found
  · rename_i start
    obtain ⟨rest, rfl⟩ := List.isPrefixOf_iff_prefix.mp start
    cases found
    constructor
    · have filled : ∀ word ∈ words, 0 < word.1.length := by decide
      have some := filled word listed
      rw [List.length_drop, List.length_append, String.length_toList]
      omega
    · simp only [words, List.mem_cons, List.not_mem_nil, or_false] at listed
      obtain rfl | rfl | rfl | rfl | rfl | rfl := listed
      all_goals rfl
  · cases found

theorem readAtom_overlong {text : List Char} {digits : Nat} (starts : StartsOverlong text digits) :
    readAtom text = .error (.numeral (.tooLong digits)) := by
  unfold readAtom
  cases word : readWord? text with
  | some reading => exact absurd (readWord?_some word).2 starts.filled
  | none => exact readNumeral_overlong starts

theorem readAtom_cases (text : List Char) :
    readAtom text = stop .noValue text ∨
    (∃ value left, left.length < text.length ∧ readAtom text = .ok (value, left)) ∨
    ∃ digits, StartsOverlong text digits ∧ readAtom text = .error (.numeral (.tooLong digits)) := by
  unfold readAtom
  cases word : readWord? text with
  | some reading => exact .inr (.inl ⟨reading.1, reading.2, (readWord?_some word).1, rfl⟩)
  | none => exact readNumeral_cases text

variable {Item Other : Type}

def Stop.isSyntactic : Stop → Bool
  | .syntactic .. => true
  | _ => false

def Advances (text : List Char) (reading : Reading (Item × List Char)) : Prop :=
  (∃ item left, reading = .ok (item, left) ∧ left.length < text.length) ∨
    ∃ reason, reason.isSyntactic = true ∧ reading = .error reason

theorem advances_stop (problem : Problem) (place text : List Char) :
    Advances text (stop problem place : Reading (Item × List Char)) :=
  .inr ⟨_, rfl, rfl⟩

theorem Advances.change {text rest : List Char} {reading : Reading (Item × List Char)}
    (advances : Advances rest reading) (within : rest.length ≤ text.length) (change : Item → Other) :
    Advances text (reading >>= fun found => pure (change found.1, found.2)) := by
  obtain ⟨item, left, rfl, shorter⟩ | ⟨reason, syntactic, rfl⟩ := advances
  · exact .inl ⟨change item, left, rfl, by omega⟩
  · exact .inr ⟨reason, syntactic, rfl⟩

theorem codeEscape_cases (text : List Char) :
    (∃ c used, codeEscape text = .ok (c, used)) ∨
      ∃ reason, reason.isSyntactic = true ∧ codeEscape text = .error reason := by
  unfold codeEscape
  split
  · exact .inr ⟨_, rfl, rfl⟩
  · split
    · split
      · split
        · exact .inr ⟨_, rfl, rfl⟩
        · split
          · exact .inl ⟨_, _, rfl⟩
          · exact .inl ⟨_, _, rfl⟩
      · exact .inl ⟨_, _, rfl⟩
    · exact .inl ⟨_, _, rfl⟩

theorem readTextFrom_advances (opening skip : Nat) (text : List Char) :
    Advances text (readTextFrom opening skip text) := by
  -- Behind an escape reading goes on with any number of characters to skip.
  induction skip, text using readTextFrom.induct with
  | case1 | case4 =>
    rw [readTextFrom]
    exact .inr ⟨_, rfl, rfl⟩
  | case2 skip c rest ih =>
    obtain ⟨chars, left, read, shorter⟩ | failed := ih
    · refine .inl ⟨chars, left, by rw [readTextFrom, read], ?_⟩
      simp only [List.length_cons]
      omega
    · exact .inr (by rwa [readTextFrom])
  | case3 rest => exact .inl ⟨[], rest, by rw [readTextFrom], by simp⟩
  | case5 rest ih =>
    rw [readTextFrom]
    obtain ⟨c, used, escaped⟩ | ⟨reason, syntactic, refused⟩ := codeEscape_cases rest
    · rw [escaped]
      exact (ih used).change (by simp only [List.length_cons]; omega) (c :: ·)
    · exact .inr ⟨reason, syntactic, by rw [refused]; rfl⟩
  | case6 c rest other unknown =>
    rw [readTextFrom.eq_6 _ _ _ other, unknown]
    exact advances_stop _ _ _
  | case7 c rest other plain known ih =>
    rw [readTextFrom.eq_6 _ _ _ other, known]
    exact ih.change (by simp only [List.length_cons]; omega) (plain :: ·)
  | case8 c rest quote final code escape control =>
    rw [readTextFrom.eq_7 _ _ _ quote final code escape, if_pos control]
    exact advances_stop _ _ _
  | case9 c rest quote final code escape plain ih =>
    rw [readTextFrom.eq_7 _ _ _ quote final code escape, if_neg plain]
    exact ih.change (by simp) (c :: ·)

theorem readText_advances (text : List Char) : Advances text (readText text) :=
  (readTextFrom_advances _ _ text).change (Nat.le_refl _) String.ofList

theorem snd_change (change : Item → Other) (reading : Reading (Item × List Char)) :
    Prod.snd <$> (reading >>= fun found => pure (change found.1, found.2)) =
      Prod.snd <$> reading := by
  cases reading <;> rfl

def leaf : List Char → Reading (List Char)
  | '"' :: rest => Prod.snd <$> readText rest
  | text => Prod.snd <$> readAtom text

theorem leaf_overlong {text : List Char} {digits : Nat} (starts : StartsOverlong text digits) :
    leaf text = .error (.numeral (.tooLong digits)) := by
  unfold leaf
  split
  · exact absurd rfl starts.filled
  · rw [readAtom_overlong starts]
    rfl

theorem leaf_cases (text : List Char) :
    (∃ left, left.length < text.length ∧ leaf text = .ok left) ∨
    (∃ reason, reason.isSyntactic = true ∧ leaf text = .error reason) ∨
    ∃ digits, StartsOverlong text digits ∧ leaf text = .error (.numeral (.tooLong digits)) := by
  unfold leaf
  split
  · rename_i rest
    obtain ⟨content, left, read, shorter⟩ | ⟨reason, syntactic, failed⟩ := readText_advances rest
    · rw [read]
      exact .inl ⟨left, by simp only [List.length_cons]; omega, rfl⟩
    · rw [failed]
      exact .inr (.inl ⟨reason, syntactic, rfl⟩)
  · obtain stopped | ⟨value, left, shorter, read⟩ | ⟨digits, starts, failed⟩ := readAtom_cases text
    · rw [stopped]
      exact .inr (.inl ⟨_, rfl, rfl⟩)
    · rw [read]
      exact .inl ⟨left, shorter, rfl⟩
    · rw [failed]
      exact .inr (.inr ⟨digits, starts, rfl⟩)

end Thumbnailing.Json
