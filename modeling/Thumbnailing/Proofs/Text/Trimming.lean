import Thumbnailing.Text.Characters

set_option autoImplicit false

namespace Thumbnailing.Text

variable {blank : Char → Bool} {before body after : List Char}

theorem trim_split (blank : Char → Bool) (text : List Char) :
    ∃ before after, text = before ++ trim blank text ++ after ∧
      (∀ c ∈ before, blank c = true) ∧ ∀ c ∈ after, blank c = true := by
  have front := List.takeWhile_append_dropWhile (p := blank) (l := text)
  have back := List.takeWhile_append_dropWhile (p := blank) (l := (text.dropWhile blank).reverse)
  have whole : text.dropWhile blank =
      trim blank text ++ ((text.dropWhile blank).reverse.takeWhile blank).reverse := by
    rw [trim, trimEnd, ← List.reverse_append, back, List.reverse_reverse]
  have blanks (run : List Char) : ∀ c ∈ run.takeWhile blank, blank c = true :=
    List.all_eq_true.mp List.all_takeWhile
  refine ⟨text.takeWhile blank, ((text.dropWhile blank).reverse.takeWhile blank).reverse, ?_,
    blanks text, ?_⟩
  · rw [List.append_assoc, ← whole, front]
  · exact fun c member => blanks _ c (List.mem_reverse.mp member)

theorem dropWhile_bare (filled : body ≠ []) (bare : ∀ c ∈ body, blank c = false)
    (rest : List Char) : (body ++ rest).dropWhile blank = body ++ rest := by
  cases body with
  | nil => exact absurd rfl filled
  | cons c body => simp [bare c List.mem_cons_self]

theorem trim_between (filled : body ≠ []) (bare : ∀ c ∈ body, blank c = false)
    (front : ∀ c ∈ before, blank c = true) (back : ∀ c ∈ after, blank c = true) :
    trim blank (before ++ body ++ after) = body := by
  have bareBackwards : body.reverse.dropWhile blank = body.reverse := by
    simpa using dropWhile_bare (List.reverse_ne_nil_iff.mpr filled) (by simpa using bare) []
  rw [trim, List.append_assoc, List.dropWhile_append_of_pos front, dropWhile_bare filled bare, trimEnd,
    List.reverse_append, List.dropWhile_append_of_pos (by simpa using back), bareBackwards,
    List.reverse_reverse]

def blankCodes : List Nat :=
  [9, 10, 11, 12, 13, 28, 29, 30, 31, 32, 133, 160, 5760, 8192, 8193, 8194, 8195, 8196, 8197, 8198,
    8199, 8200, 8201, 8202, 8232, 8233, 8239, 8287, 12288]

theorem code_of_blank {c : Char} (blank : isBlank c = true) : c.toNat ∈ blankCodes := by
  simp only [isBlank, isWhiteSpace, Bool.or_eq_true, Bool.and_eq_true, decide_eq_true_eq,
    beq_iff_eq] at blank
  simp only [blankCodes, List.mem_cons, List.not_mem_nil, or_false]
  omega

theorem not_blank_of_digitLike {c : Char} (digit : isDigitLike c = true) : isBlank c = false := by
  have none : ∀ code ∈ blankCodes, isDigitLike (Char.ofNat code) = false := by
    decide +kernel
  rw [← Bool.not_eq_true]
  intro blank
  have other := none c.toNat (code_of_blank blank)
  rw [Char.ofNat_toNat, digit] at other
  cases other

theorem not_blank_of_decimalDigit {c : Char} (digit : isDecimalDigit c = true) :
    isBlank c = false := not_blank_of_digitLike (digitLike_of_decimalDigit digit)

end Thumbnailing.Text
