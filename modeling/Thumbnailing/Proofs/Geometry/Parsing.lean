import Thumbnailing.Geometry.Target
import Thumbnailing.Proofs.Task

set_option autoImplicit false

namespace Thumbnailing.TargetGeometry

open Text

structure IsPositive (target : TargetGeometry) : Prop where
  width : ∀ width, target.width = some width → 0 < width
  height : ∀ height, target.height = some height → 0 < height

theorem nonzero?_of_pos {side : Option Int} (positive : ∀ n, side = some n → 0 < n) :
    nonzero? side = side := by
  unfold nonzero?
  split
  · exact absurd (positive 0 rfl) (Int.lt_irrefl 0)
  · rfl

theorem scalar_pos {target : TargetGeometry} (positive : target.IsPositive) {n : Int}
    (given : target.scalar = some n) : 0 < n := by
  unfold scalar at given
  split at given
  · rename_i same
    cases given
    exact positive.width n same
  · exact positive.height n given

theorem scalar_eq_none {target : TargetGeometry} (nothing : target.scalar = none) :
    target.width = none ∧ target.height = none := by
  unfold scalar at nothing
  split at nothing
  · cases nothing
  · rename_i same
    exact ⟨same, nothing⟩

theorem dimension?_pos {n : Nat} {side : Int} (given : dimension? n = some side) : 0 < side := by
  unfold dimension? at given
  split at given
  · cases given
  · cases given
    omega

def Parts.IsLong (parts : Parts) : Prop :=
  digitLimit < parts.width.length ∨ digitLimit < parts.height.length

def partsOf (geometry : String) : Parts := .ofChars (stripped geometry).toList

/-- A text that ends like a geometry, one of whose numbers has more digits than are read. -/
structure IsOverlong (geometry : String) : Prop where
  written : isAllBlank geometry = false
  known : (Modifier.ofToken? (partsOf geometry).token).isSome = true
  long : (partsOf geometry).IsLong

theorem digitsInteger_cases (digits : List Nat) :
    (digitLimit < digits.length ∧ digitsInteger digits = .error (.tooLong digits.length)) ∨
      (¬ digitLimit < digits.length ∧ digitsInteger digits = .ok (digitsValue digits)) := by
  unfold digitsInteger
  by_cases long : digitLimit < digits.length
  · exact .inl ⟨long, if_pos long⟩
  · exact .inr ⟨long, if_neg long⟩

theorem numerically_bind {Read Result : Type} (read : Read) (next : Read → Outcome Result) :
    numerically (.ok read) >>= next = next read := rfl

theorem parseTrimmed_cases {geometry : String} {modifier : Modifier}
    (known : Modifier.ofToken? (Parts.ofChars geometry.toList).token = some modifier) :
    ((Parts.ofChars geometry.toList).IsLong ∧
      ∃ digits, parseTrimmed geometry = .error (.numeral (.tooLong digits))) ∨
    (¬ (Parts.ofChars geometry.toList).IsLong ∧
      ((∃ error, parseTrimmed geometry = .error (.service error)) ∨
        ∃ target, parseTrimmed geometry = .ok target ∧ target.IsPositive)) := by
  unfold parseTrimmed
  simp only [known]
  generalize Parts.ofChars geometry.toList = parts
  rcases digitsInteger_cases parts.width with ⟨long, refused⟩ | ⟨short, read⟩
  · refine .inl ⟨.inl long, parts.width.length, ?_⟩
    rw [refused]
    rfl
  · rcases digitsInteger_cases parts.height with ⟨long, refused⟩ | ⟨brief, also⟩
    · refine .inl ⟨.inr long, parts.height.length, ?_⟩
      rw [read, refused]
      rfl
    · refine .inr ⟨not_or.mpr ⟨short, brief⟩, ?_⟩
      rw [read, also]
      simp only [numerically_bind]
      split
      · exact .inl ⟨_, rfl⟩
      · exact .inr ⟨_, rfl, fun _ given => dimension?_pos given, fun _ given => dimension?_pos given⟩

theorem parseTrimmed_unknown {geometry : String}
    (unknown : Modifier.ofToken? (Parts.ofChars geometry.toList).token = none) :
    ∃ error, parseTrimmed geometry = .error (.service error) := by
  unfold parseTrimmed
  simp only [unknown]
  exact ⟨_, rfl⟩

theorem parse_cases (geometry : String) :
    (IsOverlong geometry ∧ ∃ digits, parse (some geometry) = .error (.numeral (.tooLong digits))) ∨
      (¬ IsOverlong geometry ∧ ((∃ error, parse (some geometry) = .error (.service error)) ∨
        ∃ target, parse (some geometry) = .ok target ∧ target.IsPositive)) := by
  simp only [parse]
  split
  · rename_i blank
    refine .inr ⟨fun overlong => ?_, .inr ⟨identity, rfl, nofun, nofun⟩⟩
    exact absurd (overlong.written.symm.trans blank) nofun
  · rename_i written
    cases known : Modifier.ofToken? (partsOf geometry).token with
    | none =>
      refine .inr ⟨fun overlong => ?_, .inl (parseTrimmed_unknown known)⟩
      simpa [known] using overlong.known
    | some modifier =>
      rcases parseTrimmed_cases known with ⟨long, refused⟩ | ⟨short, read⟩
      · exact .inl ⟨⟨by simpa using written, by simp [known], long⟩, refused⟩
      · exact .inr ⟨fun overlong => short overlong.long, read⟩

def onesThen (count : Nat) (token : List Char) : String :=
  String.ofList (List.replicate count '1' ++ token)

theorem onesThen_written {count : Nat} (filled : 0 < count) (token : List Char) :
    isAllBlank (onesThen count token) = false := by
  have mark : isBlank '1' = false := by decide
  obtain ⟨rest, rfl⟩ := Nat.exists_eq_add_one.mpr filled
  simp [isAllBlank, onesThen, List.replicate_succ, mark]

theorem onesThen_parts {count : Nat} (filled : 0 < count) {token : List Char}
    (known : token = [] ∨ token = ['%']) :
    partsOf (onesThen count token) = ⟨List.replicate count 1, [], token⟩ := by
  have mark : isBlank '1' = false := by decide
  have digit : isDecimalDigit '1' = true := by decide
  have value : decimalValue? '1' = some 1 := by decide
  have sign : isDecimalDigit '%' = false ∧ isBlank '%' = false ∧ isSeparator '%' = false := by decide
  obtain ⟨rest, rfl⟩ := Nat.exists_eq_add_one.mpr filled
  rcases known with rfl | rfl
  · simp [partsOf, onesThen, stripped, trim, trimEnd, mark,
      Parts.ofChars, afterDigits, digitsOf,
      digit, value]
  · simp [partsOf, onesThen, stripped, trim, trimEnd, mark,
      Parts.ofChars, afterDigits, digitsOf,
      digit, value, sign, List.dropWhile_append]

theorem le_foldl_digits (digits : List Nat) (value : Nat) :
    value ≤ digits.foldl (fun value digit => 10 * value + digit) value := by
  induction digits generalizing value with
  | nil => exact Nat.le_refl value
  | cons digit rest ih => exact Nat.le_trans (by omega) (ih (10 * value + digit))

theorem digitsValue_ones_pos {count : Nat} (filled : 0 < count) :
    0 < digitsValue (List.replicate count 1) := by
  obtain ⟨rest, rfl⟩ := Nat.exists_eq_add_one.mpr filled
  exact le_foldl_digits (List.replicate rest 1) 1

theorem parse_onesPercent {count : Nat} (filled : 0 < count) (short : count ≤ digitLimit) :
    parse (some (onesThen count ['%'])) =
      .ok ⟨some (digitsValue (List.replicate count 1)), none, .percent⟩ := by
  have parts := onesThen_parts filled (.inr rfl)
  rw [partsOf] at parts
  have known : Modifier.ofToken? ['%'] = some .percent := by decide
  have read : digitsInteger (List.replicate count 1) = .ok (digitsValue (List.replicate count 1)) :=
    if_neg (by rw [List.length_replicate]; omega)
  have value := Nat.ne_of_gt (digitsValue_ones_pos filled)
  simp only [parse, onesThen_written filled, parseTrimmed, parts, known, read]
  generalize digitsValue (List.replicate count 1) = percent at *
  have none : digitsInteger [] = .ok 0 := rfl
  simp only [none, numerically_bind]
  simp [dimension?, value, pure, Except.pure]

end Thumbnailing.TargetGeometry
