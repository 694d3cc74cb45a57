import Thumbnailing.Text.LetterCase

set_option autoImplicit false

namespace Thumbnailing.Text

namespace CapitalRun

def target (run : CapitalRun) (code : Nat) : Nat := ((code : Int) + run.offset).toNat

def isApartFrom (run other : CapitalRun) : Bool :=
  -- Whether no small letter of a run is a capital of another. Two runs that overlap are still apart
  -- if both go in steps and never meet.
  Nat.blt (run.target run.last) other.first || Nat.blt other.last (run.target run.first) ||
    ((Nat.beq (run.step % other.step) 0 || Nat.beq run.first run.last) &&
      !Nat.beq (run.target run.first % other.step) (other.first % other.step))

def dottedCapital : CapitalRun := ⟨0x130, 0x130, 1, 0⟩

def hasLetterTargets (run : CapitalRun) : Bool :=
  97 ≤ (run.first : Int) + run.offset &&
    (run.target run.last < 0xD800 ||
      (0xE000 ≤ run.target run.first && run.target run.last < 0x110000))

def isSound (run : CapitalRun) : Bool :=
  run.hasLetterTargets && run.isApartFrom dottedCapital &&
    capitalRuns.toList.all run.isApartFrom

theorem target_valid {run : CapitalRun} {code : Nat} (letters : run.hasLetterTargets = true)
    (inside : run.contains code = true) :
    97 ≤ run.target code ∧ (run.target code).isValidChar := by
  simp only [hasLetterTargets, Bool.and_eq_true, Bool.or_eq_true, decide_eq_true_eq] at letters
  obtain ⟨least, valid⟩ := letters
  simp only [contains, Bool.and_eq_true, decide_eq_true_eq, beq_iff_eq] at inside
  unfold target at valid ⊢
  unfold Nat.isValidChar
  omega

theorem target_apart {run other : CapitalRun} {code : Nat}
    (letters : 97 ≤ (run.first : Int) + run.offset) (apart : run.isApartFrom other = true)
    (inside : run.contains code = true) : other.contains (run.target code) = false := by
  simp only [contains, Bool.and_eq_true, decide_eq_true_eq, beq_iff_eq] at inside
  obtain ⟨⟨low, high⟩, stepped⟩ := inside
  simp only [isApartFrom, Bool.or_eq_true, Bool.and_eq_true, Nat.blt_eq, Nat.beq_eq,
    Bool.not_eq_true', Bool.eq_false_iff, ne_eq] at apart
  have shifted : run.target code = run.target run.first + (code - run.first) := by
    unfold target
    omega
  have bounded : run.target code ≤ run.target run.last := by
    unfold target
    omega
  rw [Bool.eq_false_iff]
  intro within
  simp only [contains, Bool.and_eq_true, decide_eq_true_eq, beq_iff_eq] at within
  obtain ⟨⟨otherLow, otherHigh⟩, otherStepped⟩ := within
  -- Where the runs overlap, both go in steps of one size, and the steps never meet.
  rcases apart with (before | after) | ⟨aligned, different⟩
  · omega
  · omega
  · obtain ⟨k, hk⟩ := Nat.dvd_of_mod_eq_zero otherStepped
    have here : run.target code % other.step = other.first % other.step := by
      rw [show run.target code = other.first + other.step * k by omega,
        Nat.add_mul_mod_self_left]
    apply different
    rw [← here, shifted]
    rcases aligned with multiple | single
    · obtain ⟨m, hm⟩ := Nat.dvd_of_mod_eq_zero multiple
      obtain ⟨n, hn⟩ := Nat.dvd_of_mod_eq_zero stepped
      rw [hn, hm, Nat.mul_assoc, Nat.add_mul_mod_self_left]
    · rw [show code - run.first = 0 by omega, Nat.add_zero]

end CapitalRun

theorem capitalRuns_sound : capitalRuns.toList.all CapitalRun.isSound = true := by decide +kernel

def IsSettled (c : Char) : Prop :=
  c ≠ capitalSigma ∧ c.toNat ≠ 0x130 ∧ lowercaseLetter c = c

theorem sound_of_find {runs : Array CapitalRun} {test sound : CapitalRun → Bool}
    {run : CapitalRun} (allSound : runs.toList.all sound = true)
    (found : runs.find? test = some run) : test run = true ∧ sound run = true :=
  ⟨Array.find?_some found, List.all_eq_true.mp allSound run
    (Array.mem_toList_iff.mpr (Array.mem_of_find?_eq_some found))⟩

theorem sigma_has_run :
    capitalRuns.toList.any (fun run => run.contains 0x3A3) = true := by decide +kernel

theorem letter_of_run {code : Nat} {run : CapitalRun}
    (found : capitalRuns.find? (fun run => run.contains code) = some run) :
    97 ≤ (Char.ofNat (run.target code)).toNat ∧ IsSettled (Char.ofNat (run.target code)) := by
  obtain ⟨inside, sound⟩ := sound_of_find capitalRuns_sound found
  simp only [CapitalRun.isSound, Bool.and_eq_true, List.all_eq_true] at sound
  obtain ⟨⟨letters, dotted⟩, apart⟩ := sound
  obtain ⟨large, isValid⟩ := CapitalRun.target_valid letters inside
  have least : 97 ≤ (run.first : Int) + run.offset := by
    simp only [CapitalRun.hasLetterTargets, Bool.and_eq_true, decide_eq_true_eq] at letters
    exact letters.1
  have same : (Char.ofNat (run.target code)).toNat = run.target code := by
    rw [Char.ofNat, dif_pos isValid]
    rfl
  -- The small letter is in no run, so it is no capital of the table itself.
  have free (other : CapitalRun) (member : other ∈ capitalRuns.toList) :
      other.contains (run.target code) = false :=
    CapitalRun.target_apart least (apart other member) inside
  have absent : capitalRuns.find? (fun run' => run'.contains (run.target code)) = none := by
    rw [Array.find?_eq_none]
    intro other member
    simp [free other (Array.mem_toList_iff.mpr member)]
  refine ⟨by omega, ?_, ?_, ?_⟩
  · intro sigma
    obtain ⟨other, member, holdsSigma⟩ := List.any_eq_true.mp sigma_has_run
    have outside := free other member
    rw [show run.target code = 0x3A3 by rw [← same, sigma]; decide, holdsSigma] at outside
    cases outside
  · have outside := CapitalRun.target_apart least dotted inside
    intro dottedCode
    rw [← same, dottedCode] at outside
    exact absurd outside (by decide)
  · unfold lowercaseLetter
    rw [same]
    split
    · have notCapital :
          ¬ ('A' ≤ Char.ofNat (run.target code) ∧ Char.ofNat (run.target code) ≤ 'Z') := by
        rintro ⟨-, upper⟩
        have : (Char.ofNat (run.target code)).toNat ≤ 90 := upper
        omega
      rw [if_neg notCapital]
    · rw [absent]

theorem lowercaseLetter_settled {c : Char} (notSigma : c ≠ capitalSigma)
    (notDotted : c.toNat ≠ 0x130) :
    IsSettled (lowercaseLetter c) ∧ (lowercaseLetter c = c ∨ 97 ≤ (lowercaseLetter c).toNat) := by
  by_cases ascii : c.toNat < 128
  · by_cases capital : 'A' ≤ c ∧ c ≤ 'Z'
    · have low : 65 ≤ c.toNat := capital.1
      have high : c.toNat ≤ 90 := capital.2
      have small : lowercaseLetter c = Char.ofNat (c.toNat + 32) := by
        rw [lowercaseLetter, if_pos ascii, if_pos capital]
      have isValid : (c.toNat + 32).isValidChar := Or.inl (by omega)
      have same : (Char.ofNat (c.toNat + 32)).toNat = c.toNat + 32 := by
        rw [Char.ofNat, dif_pos isValid]
        rfl
      rw [small]
      refine ⟨⟨?_, by omega, ?_⟩, Or.inr (by omega)⟩
      · intro sigma
        have := congrArg Char.toNat sigma
        rw [same, show capitalSigma.toNat = 0x3A3 by decide] at this
        omega
      · have notCapital : ¬ ('A' ≤ Char.ofNat (c.toNat + 32) ∧ Char.ofNat (c.toNat + 32) ≤ 'Z') := by
          rintro ⟨-, upper⟩
          have : (Char.ofNat (c.toNat + 32)).toNat ≤ 90 := upper
          omega
        rw [lowercaseLetter, if_pos (by omega), if_neg notCapital]
    · have small : lowercaseLetter c = c := by rw [lowercaseLetter, if_pos ascii, if_neg capital]
      rw [small]
      exact ⟨⟨notSigma, notDotted, small⟩, Or.inl rfl⟩
  · rcases found : capitalRuns.find? (fun run => run.contains c.toNat) with _ | run
    · have small : lowercaseLetter c = c := by rw [lowercaseLetter, if_neg ascii, found]
      rw [small]
      exact ⟨⟨notSigma, notDotted, small⟩, Or.inl rfl⟩
    · have small : lowercaseLetter c = Char.ofNat (run.target c.toNat) := by
        rw [lowercaseLetter, if_neg ascii, found]
        rfl
      rw [small]
      exact ⟨(letter_of_run found).2, Or.inr (letter_of_run found).1⟩

theorem lowercaseLetter_of_outside {c : Char} (ascii : ¬ c.toNat < 128)
    (outside : capitalRuns.toList.all (fun run => !run.contains c.toNat) = true) :
    lowercaseLetter c = c := by
  have absent : capitalRuns.find? (fun run => run.contains c.toNat) = none := by
    rw [Array.find?_eq_none]
    intro run member
    simpa using List.all_eq_true.mp outside run (Array.mem_toList_iff.mpr member)
  rw [lowercaseLetter, if_neg ascii, absent]

theorem sigmas_settled (mark : Char) (small : mark = Char.ofNat 0x3C2 ∨ mark = Char.ofNat 0x3C3) :
    IsSettled mark ∧ 97 ≤ mark.toNat := by
  rcases small with rfl | rfl
  · exact ⟨⟨by decide, by decide, lowercaseLetter_of_outside (by decide) (by decide +kernel)⟩,
      by decide⟩
  · exact ⟨⟨by decide, by decide, lowercaseLetter_of_outside (by decide) (by decide +kernel)⟩,
      by decide⟩

def smallOf (before : List Char) (c : Char) (after : List Char) : List Char :=
  if c = capitalSigma then [lowercaseSigma before after]
  else if c.toNat = 0x130 then ['i', Char.ofNat 0x307]
  else [lowercaseLetter c]

theorem lowercaseFrom_cons (before : List Char) (c : Char) (after : List Char) :
    lowercaseFrom before (c :: after) = smallOf before c after ++ lowercaseFrom (c :: before) after :=
  rfl

theorem smallOf_ne_nil (before : List Char) (c : Char) (after : List Char) :
    smallOf before c after ≠ [] := by
  unfold smallOf
  split
  · simp
  · split <;> simp

theorem smallOf_settled {before after : List Char} {c small : Char}
    (member : small ∈ smallOf before c after) :
    IsSettled small ∧ (small = c ∨ 97 ≤ small.toNat) := by
  unfold smallOf at member
  split at member
  · rw [List.mem_singleton] at member
    subst member
    have settled := sigmas_settled (lowercaseSigma before after) (by
      unfold lowercaseSigma
      split
      · exact Or.inl rfl
      · exact Or.inr rfl)
    exact ⟨settled.1, Or.inr settled.2⟩
  · rename_i notSigma
    split at member
    · simp only [List.mem_cons, List.not_mem_nil, or_false] at member
      rcases member with rfl | rfl
      · exact ⟨⟨by decide, by decide, rfl⟩, Or.inr (by decide)⟩
      · exact ⟨⟨by decide, by decide, lowercaseLetter_of_outside (by decide) (by decide +kernel)⟩,
          Or.inr (by decide)⟩
    · rename_i notDotted
      rw [List.mem_singleton] at member
      subst member
      exact lowercaseLetter_settled notSigma notDotted

theorem mem_lowercaseFrom {before text : List Char} {small : Char}
    (member : small ∈ lowercaseFrom before text) :
    IsSettled small ∧ (small ∈ text ∨ 97 ≤ small.toNat) := by
  -- What was read before is general, since it grows along the text.
  induction text generalizing before with
  | nil => simp at member
  | cons c after ih =>
    rw [lowercaseFrom_cons, List.mem_append] at member
    rcases member with first | later
    · obtain ⟨settled, rfl | large⟩ := smallOf_settled first
      · exact ⟨settled, Or.inl List.mem_cons_self⟩
      · exact ⟨settled, Or.inr large⟩
    · obtain ⟨settled, inside | large⟩ := ih later
      · exact ⟨settled, Or.inl (List.mem_cons_of_mem _ inside)⟩
      · exact ⟨settled, Or.inr large⟩

theorem lowercaseFrom_of_settled {text : List Char} (before : List Char)
    (settled : ∀ c ∈ text, IsSettled c) : lowercaseFrom before text = text := by
  induction text generalizing before with
  | nil => rfl
  | cons c after ih =>
    obtain ⟨notSigma, notDotted, small⟩ := settled c List.mem_cons_self
    rw [lowercaseFrom_cons, smallOf, if_neg notSigma, if_neg notDotted, small,
      ih (c :: before) fun other member => settled other (List.mem_cons_of_mem c member)]
    rfl

theorem lowercaseChars_head (c : Char) (after : List Char) :
    ∃ first rest, lowercaseChars (c :: after) = first :: rest ∧
      (first = c ∨ 97 ≤ first.toNat) := by
  rcases h : smallOf [] c after with _ | ⟨first, others⟩
  · exact absurd h (smallOf_ne_nil [] c after)
  · refine ⟨first, others ++ lowercaseFrom [c] after, ?_, ?_⟩
    · rw [lowercaseChars, lowercaseFrom_cons, h]
      rfl
    · exact (smallOf_settled (h ▸ List.mem_cons_self : first ∈ smallOf [] c after)).2

end Thumbnailing.Text
