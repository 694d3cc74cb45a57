import Mathlib.Data.Nat.Digits.Defs
import Thumbnailing.Number.DecimalText
import Thumbnailing.Number.Numeral

set_option autoImplicit false

namespace Thumbnailing

namespace Text

theorem decimalValue_lt {c : Char} {value : Nat} (read : decimalValue? c = some value) :
    value < 10 := by
  unfold decimalValue? at read
  split at read
  · split at read
    · rename_i digit
      cases read
      simp only [Char.isDigit, Bool.and_eq_true, decide_eq_true_eq] at digit
      have most : c.toNat ≤ 57 := digit.2
      omega
    · cases read
  · obtain ⟨start, found, rfl⟩ := Option.map_eq_some_iff.mp read
    have range := Array.find?_some found
    simp only [Bool.and_eq_true, decide_eq_true_eq] at range
    omega

end Text

open Text

def IsDigitRun (run : List Char) : Prop := ∀ c ∈ run, isDecimalDigit c = true

instance (run : List Char) : Decidable (IsDigitRun run) :=
  decidable_of_iff (run.all isDecimalDigit = true) List.all_eq_true

def runValue (run : List Char) : Nat := Nat.ofDigits 10 (run.filterMap decimalValue?).reverse

theorem digitsValue_eq_ofDigits (digits : List Nat) :
    digitsValue digits = Nat.ofDigits 10 digits.reverse := by
  rw [digitsValue, Nat.ofDigits_eq_foldr, List.foldr_reverse]
  congr 1
  funext value digit
  simp [Nat.add_comm]

theorem digitsValue_run (run : List Char) :
    digitsValue (run.filterMap decimalValue?) = runValue run := digitsValue_eq_ofDigits _

theorem digitsInteger_run {run : List Char} (digits : IsDigitRun run) :
    digitsInteger (run.filterMap decimalValue?) =
      if digitLimit < run.length then .error (.tooLong run.length) else .ok (runValue run) := by
  rw [digitsInteger, List.filterMap_length_eq_length.mpr digits, digitsValue_run]

theorem runValue_lt {run : List Char} (digits : IsDigitRun run) :
    runValue run < 10 ^ run.length := by
  have small : ∀ digit ∈ (run.filterMap decimalValue?).reverse, digit < 10 := by
    intro digit member
    obtain ⟨c, -, read⟩ := List.mem_filterMap.mp (List.mem_reverse.mp member)
    exact decimalValue_lt read
  have bound := Nat.ofDigits_lt_base_pow_length (by decide) small
  rwa [List.length_reverse, List.filterMap_length_eq_length.mpr digits] at bound

theorem decimalValue_digitChar {digit : Nat} (small : digit < 10) :
    decimalValue? (digitChar digit) = some digit := by
  have all : ∀ digit < 10, decimalValue? (digitChar digit) = some digit := by decide
  exact all digit small

theorem natChars_isDigitRun (n : Nat) : IsDigitRun (natChars n) := by
  induction n using natChars.induct with
  | case1 n small =>
    rw [natChars, if_pos small]
    simp [IsDigitRun, isDecimalDigit, decimalValue_digitChar small]
  | case2 n large ih =>
    rw [natChars, if_neg large]
    have last := decimalValue_digitChar (Nat.mod_lt n (by decide : 0 < 10))
    intro c member
    rcases List.mem_append.mp member with front | back
    · exact ih c front
    · rw [List.mem_singleton.mp back]
      simp [isDecimalDigit, last]

theorem runValue_natChars (n : Nat) : runValue (natChars n) = n := by
  induction n using natChars.induct with
  | case1 n small =>
    rw [natChars, if_pos small]
    simp [runValue, decimalValue_digitChar small]
  | case2 n large ih =>
    rw [natChars, if_neg large]
    have last := decimalValue_digitChar (Nat.mod_lt n (by decide : 0 < 10))
    have step : runValue (natChars (n / 10) ++ [digitChar (n % 10)]) =
        n % 10 + 10 * runValue (natChars (n / 10)) := by
      simp [runValue, last, Nat.ofDigits_cons]
    rw [step, ih]
    omega

theorem length_natChars_le {n places : Nat} (filled : 0 < places) (below : n < 10 ^ places) :
    (natChars n).length ≤ places := by
  induction n using natChars.induct generalizing places with
  | case1 n small =>
    rw [natChars, if_pos small]
    exact filled
  | case2 n large ih =>
    obtain ⟨fewer, rfl⟩ := Nat.exists_eq_add_one.mpr filled
    rw [Nat.pow_succ] at below
    have more : 0 < fewer := by
      rcases fewer.eq_zero_or_pos with rfl | more
      · omega
      · exact more
    have front := ih more (by omega)
    rw [natChars, if_neg large, List.length_append, List.length_singleton]
    omega

theorem length_natChars_runValue {run : List Char} (digits : IsDigitRun run)
    (filled : runValue run ≠ 0) : (natChars (runValue run)).length ≤ run.length := by
  refine length_natChars_le (List.length_pos_iff.mpr ?_) (runValue_lt digits)
  rintro rfl
  exact filled rfl

end Thumbnailing
