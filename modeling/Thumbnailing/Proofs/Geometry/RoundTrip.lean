import Thumbnailing.Proofs.Geometry.Grammar

set_option autoImplicit false

namespace Thumbnailing.TargetGeometry

open Text

def IsLegible (side : Option Int) : Prop :=
  ∀ n, side = some n → 0 < n ∧ (natChars n.natAbs).length ≤ digitLimit

/-- What parsing can yield: legible sides, and no modifier where there are none. -/
structure IsCanonical (target : TargetGeometry) : Prop where
  width : IsLegible target.width
  height : IsLegible target.height
  plain : target.isIdentity = true → target.modifier = .plain

theorem IsCanonical.identity : identity.IsCanonical := ⟨nofun, nofun, fun _ => rfl⟩

theorem isIdentity_iff {target : TargetGeometry} :
    target.isIdentity = true ↔ target.width = none ∧ target.height = none := by
  simp [isIdentity]

theorem dimension?_eq_none {n : Nat} : dimension? n = none ↔ n = 0 := by
  simp [dimension?]

def sideChars : Option Int → List Char
  | none => []
  | some n => natChars n.natAbs

theorem sideChars_isDigitRun (side : Option Int) : IsDigitRun (sideChars side) := by
  cases side with
  | none => exact nofun
  | some n => exact natChars_isDigitRun _

theorem length_sideChars {side : Option Int} (legible : IsLegible side) :
    (sideChars side).length ≤ digitLimit := by
  cases side with
  | none => exact Nat.zero_le _
  | some n => exact (legible n rfl).2

theorem dimension?_sideChars {side : Option Int} (legible : IsLegible side) :
    dimension? (runValue (sideChars side)) = side := by
  cases side with
  | none => rfl
  | some n =>
    have positive := (legible n rfl).1
    rw [sideChars, runValue_natChars, dimension?, if_neg (by omega),
      Int.natAbs_of_nonneg positive.le]

theorem integerText_legible {n : Int} (legible : IsLegible (some n)) :
    (integerText n).toList = sideChars (some n) := by
  have positive := (legible n rfl).1
  rw [integerText, if_neg (by omega), natText, String.toList_ofList, sideChars]

theorem symbol_known (modifier : Modifier) : (modifier.symbol, modifier) ∈ modifierTokens := by
  cases modifier <;> decide

theorem text_chars {target : TargetGeometry} (canonical : target.IsCanonical) :
    target.text.toList = sideChars target.width ++ (match target.height with
      | none => []
      | some height => 'x' :: sideChars (some height)) ++ target.modifier.symbol.toList := by
  obtain ⟨width, height, modifier⟩ := target
  obtain ⟨wide, high, -⟩ := canonical
  unfold text
  simp only
  rw [nonzero?_of_pos fun n same => (wide n same).1, nonzero?_of_pos fun n same => (high n same).1]
  cases width with
  | none =>
    cases height with
    | none => simp [sideChars]
    | some height => simp [sideChars, integerText_legible high]
  | some width =>
    cases height with
    | none => simp [sideChars, integerText_legible wide]
    | some height => simp [sideChars, integerText_legible wide, integerText_legible high]

theorem text_sized {target : TargetGeometry} (canonical : target.IsCanonical)
    (filled : target.isIdentity = false) :
    Sized target.text.toList (sideChars target.width) (sideChars target.height)
      target.modifier := by
  have known := symbol_known target.modifier
  have first := sideChars_isDigitRun target.width
  have second := sideChars_isDigitRun target.height
  have given : ¬ (runValue (sideChars target.width) = 0 ∧
      runValue (sideChars target.height) = 0) := by
    rw [← dimension?_eq_none, ← dimension?_eq_none, dimension?_sideChars canonical.width,
      dimension?_sideChars canonical.height, ← isIdentity_iff, filled]
    exact Bool.false_ne_true
  rw [text_chars canonical]
  obtain ⟨width, height, modifier⟩ := target
  cases height with
  | none => exact ⟨_, _, by rw [List.append_nil], .single first, known, given⟩
  | some height => exact ⟨_, _, rfl, .pair first (.inl rfl) second, known, given⟩

theorem ofRuns_sideChars {target : TargetGeometry} (canonical : target.IsCanonical) :
    ofRuns (sideChars target.width) (sideChars target.height) target.modifier = target := by
  rw [ofRuns, dimension?_sideChars canonical.width, dimension?_sideChars canonical.height]

theorem parse_text {target : TargetGeometry} (canonical : target.IsCanonical) :
    parse (some target.text) = .ok target := by
  cases filled : target.isIdentity with
  | true =>
    obtain ⟨wide, high⟩ := isIdentity_iff.mp filled
    have plain := canonical.plain filled
    obtain ⟨width, height, modifier⟩ := target
    subst wide high plain
    rfl
  | false =>
    -- The text is its own body: there is no blank to trim off.
    have nothing : ∀ c ∈ [], isBlank c = true := nofun
    have whole : target.text.toList = [] ++ target.text.toList ++ [] := by simp
    rw [parse_sized (text_sized canonical filled) (length_sideChars canonical.width)
      (length_sideChars canonical.height) nothing nothing whole, ofRuns_sideChars canonical]

theorem isLegible_run {run : List Char} (digits : IsDigitRun run)
    (short : run.length ≤ digitLimit) : IsLegible (dimension? (runValue run)) := by
  intro n same
  unfold dimension? at same
  split at same
  · cases same
  · rename_i filled
    cases same
    refine ⟨by omega, ?_⟩
    rw [Int.natAbs_natCast]
    exact (length_natChars_runValue digits filled).trans short

theorem isCanonical_sized {body width height : List Char} {modifier : Modifier}
    (sized : Sized body width height modifier) (wide : width.length ≤ digitLimit)
    (high : height.length ≤ digitLimit) : (ofRuns width height modifier).IsCanonical := by
  obtain ⟨⟨-, first⟩, -, second⟩ := sized.runs
  obtain ⟨-, -, -, -, -, filled⟩ := sized
  refine ⟨isLegible_run first wide, isLegible_run second high, fun nothing => absurd ?_ filled⟩
  simpa [isIdentity_iff, ofRuns, dimension?_eq_none] using nothing

theorem isCanonical_of_parse {geometry : Option String} {target : TargetGeometry}
    (parsed : parse geometry = .ok target) : target.IsCanonical := by
  cases geometry with
  | none =>
    cases parsed
    exact .identity
  | some text =>
    rcases parse_cases_blank text with blank | trimmed
    · rw [parse_blank blank] at parsed
      cases parsed
      exact .identity
    · rw [trimmed] at parsed
      obtain ⟨width, height, modifier, sized, wide, high, rfl⟩ := parseTrimmed_eq_ok parsed
      exact isCanonical_sized sized wide high

/-- A target that was parsed is parsed again from its text, and no other target is written like it.
-/
theorem text_canonical {geometry : Option String} {target : TargetGeometry}
    (parsed : parse geometry = .ok target) :
    parse (some target.text) = .ok target ∧
      ∀ other second, parse other = .ok second → (second.text = target.text ↔ second = target) := by
  refine ⟨parse_text (isCanonical_of_parse parsed), fun other second parsedToo => ⟨?_, ?_⟩⟩
  · intro same
    have again := parse_text (isCanonical_of_parse parsedToo)
    rw [same, parse_text (isCanonical_of_parse parsed)] at again
    exact (Except.ok.inj again).symm
  · rintro rfl
    rfl

theorem padded_canonical :
    parse (some " 007X\u0665>@") = .ok ⟨some 7, some 5, .areaShrinkOnly⟩ ∧
      parse (some "7x5@>") = .ok ⟨some 7, some 5, .areaShrinkOnly⟩ := by
  have parsed : parse (some " 007X\u0665>@") = .ok ⟨some 7, some 5, .areaShrinkOnly⟩ := rfl
  have written : text ⟨some 7, some 5, .areaShrinkOnly⟩ = "7x5@>" := by decide +kernel
  exact ⟨parsed, written ▸ (text_canonical parsed).1⟩

end Thumbnailing.TargetGeometry
