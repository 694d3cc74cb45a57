import Thumbnailing.Proofs.Geometry.Parsing
import Thumbnailing.Proofs.Number.Digits
import Thumbnailing.Proofs.Text.Trimming

set_option autoImplicit false

namespace Thumbnailing.TargetGeometry

open Text

def modifierTokens : List (String × Modifier) := [
  ("", .plain), ("#", .crop), (">", .shrinkOnly), ("<", .enlargeOnly), ("!", .force), ("^", .fill),
  ("%", .percent), ("@", .area), ("@>", .areaShrinkOnly), (">@", .areaShrinkOnly)]

/-- One run of digits, or two of them around a separator. Either run may be empty. -/
inductive Numbers : List Char → List Char → List Char → Prop
  | single {width : List Char} : IsDigitRun width → Numbers width width []
  | pair {width height : List Char} {mark : Char} : IsDigitRun width → mark = 'x' ∨ mark = 'X' →
    IsDigitRun height → Numbers (width ++ mark :: height) width height

def Sized (body width height : List Char) (modifier : Modifier) : Prop :=
  ∃ numbers token, body = numbers ++ String.toList token ∧ Numbers numbers width height ∧
    (token, modifier) ∈ modifierTokens ∧ ¬ (runValue width = 0 ∧ runValue height = 0)

def ofRuns (width height : List Char) (modifier : Modifier) : TargetGeometry :=
  ⟨dimension? (runValue width), dimension? (runValue height), modifier⟩

inductive Spells : List Char → TargetGeometry → Prop
  | blank : Spells [] identity
  | sized {body width height : List Char} {modifier : Modifier} :
    Sized body width height modifier → Spells body (ofRuns width height modifier)

/-- A text that spells a target between blanks. No text at all stands for the identity. -/
def Denotes : Option String → TargetGeometry → Prop
  | none, target => target = identity
  | some text, target => ∃ before body after, text.toList = before ++ body ++ after ∧
      (∀ c ∈ before, isBlank c = true) ∧ (∀ c ∈ after, isBlank c = true) ∧ Spells body target

/-- No run of digits in the text is longer than the limit. -/
def DigitRunsWithin (limit : Nat) (text : String) : Prop :=
  ∀ run, run <:+: text.toList → IsDigitRun run → run.length ≤ limit

theorem ofToken?_iff {token : List Char} {modifier : Modifier} :
    Modifier.ofToken? token = some modifier ↔ (String.ofList token, modifier) ∈ modifierTokens := by
  constructor
  · intro found
    unfold Modifier.ofToken? at found
    split at found
    · rename_i other
      cases found
      rw [other]
      decide
    · have same := List.find?_some found
      rw [beq_iff_eq] at same
      rw [← same, String.ofList_toList]
      cases modifier <;> decide
  · intro listed
    have all : ∀ entry ∈ modifierTokens, Modifier.ofToken? entry.1.toList = some entry.2 := by
      decide
    simpa using all _ listed

theorem token_bare {token : String} {modifier : Modifier}
    (known : (token, modifier) ∈ modifierTokens) {c : Char} (member : c ∈ token.toList) :
    isDecimalDigit c = false ∧ isSeparator c = false ∧ isBlank c = false := by
  have all : ∀ entry ∈ modifierTokens, (entry.1.toList.all fun c =>
      !isDecimalDigit c && !isSeparator c && !isBlank c) = true := by decide
  simpa [and_assoc] using List.all_eq_true.mp (all _ known) c member

theorem isSeparator_iff {c : Char} : isSeparator c = true ↔ c = 'x' ∨ c = 'X' := by
  simp [isSeparator]

theorem separator_bare {mark : Char} (separator : mark = 'x' ∨ mark = 'X') :
    isDecimalDigit mark = false ∧ isBlank mark = false := by
  rcases separator with rfl | rfl <;> decide

theorem digitsOf_run {run rest : List Char} (digits : IsDigitRun run)
    (stops : ∀ c ∈ rest.head?, isDecimalDigit c = false) :
    digitsOf (run ++ rest) = run.filterMap decimalValue? ∧ afterDigits (run ++ rest) = rest := by
  unfold digitsOf afterDigits
  rw [List.takeWhile_append_of_pos digits, List.dropWhile_append_of_pos digits]
  cases rest with
  | nil => simp
  | cons c rest => simp [stops c rfl]

theorem isDigitRun_front (text : List Char) : IsDigitRun (text.takeWhile isDecimalDigit) :=
  List.all_eq_true.mp List.all_takeWhile

theorem ofChars_numbers (chars : List Char) : ∃ numbers width height token,
    Numbers numbers width height ∧ chars = numbers ++ token ∧ Parts.ofChars chars =
      ⟨width.filterMap decimalValue?, height.filterMap decimalValue?, token⟩ := by
  have whole := List.takeWhile_append_dropWhile (p := isDecimalDigit) (l := chars)
  unfold Parts.ofChars
  split
  · rename_i c rest left
    rw [afterDigits] at left
    split
    · rename_i separator
      have again := List.takeWhile_append_dropWhile (p := isDecimalDigit) (l := rest)
      refine ⟨_, _, _, _, .pair (isDigitRun_front chars) (isSeparator_iff.mp separator)
        (isDigitRun_front rest), ?_, rfl⟩
      simp only [afterDigits]
      rw [List.append_assoc, List.cons_append, again, ← left, whole]
    · exact ⟨_, _, _, _, .single (isDigitRun_front chars), by rw [← left, whole], rfl⟩
  · rename_i left
    rw [afterDigits] at left
    exact ⟨_, _, _, _, .single (isDigitRun_front chars), by rw [← left, whole], rfl⟩

theorem ofChars_append {numbers width height token : List Char}
    (written : Numbers numbers width height)
    (bare : ∀ c ∈ token, isDecimalDigit c = false ∧ isSeparator c = false) :
    Parts.ofChars (numbers ++ token) =
      ⟨width.filterMap decimalValue?, height.filterMap decimalValue?, token⟩ := by
  have stops : ∀ c ∈ token.head?, isDecimalDigit c = false :=
    fun c first => (bare c (List.mem_of_mem_head? first)).1
  cases written with
  | single digits =>
    obtain ⟨read, left⟩ := digitsOf_run digits stops
    rw [Parts.ofChars, left, read]
    cases token with
    | nil => rfl
    | cons c token => simp [(bare c List.mem_cons_self).2]
  | @pair width height mark first separator second =>
    have markStops : ∀ c ∈ (mark :: (height ++ token)).head?, isDecimalDigit c = false := by
      intro c same
      cases same
      exact (separator_bare separator).1
    obtain ⟨read, left⟩ := digitsOf_run first markStops
    obtain ⟨readToo, leftToo⟩ := digitsOf_run second stops
    rw [Parts.ofChars, List.append_assoc, List.cons_append, left, read]
    simp only [if_pos (isSeparator_iff.mpr separator), readToo, leftToo]

theorem Numbers.runs {numbers width height : List Char} (written : Numbers numbers width height) :
    (width <:+: numbers ∧ IsDigitRun width) ∧ height <:+: numbers ∧ IsDigitRun height := by
  cases written with
  | single digits => exact ⟨⟨⟨[], [], by simp⟩, digits⟩, ⟨[], numbers, rfl⟩, nofun⟩
  | @pair _ _ mark first _ second =>
    exact ⟨⟨⟨[], mark :: height, by simp⟩, first⟩, ⟨width ++ [mark], [], by simp⟩, second⟩

theorem Numbers.bare {numbers width height : List Char} (written : Numbers numbers width height) :
    ∀ c ∈ numbers, isBlank c = false := by
  intro c member
  cases written with
  | single digits => exact not_blank_of_decimalDigit (digits c member)
  | pair first separator second =>
    rcases List.mem_append.mp member with left | right
    · exact not_blank_of_decimalDigit (first c left)
    · rcases List.mem_cons.mp right with rfl | right
      · exact (separator_bare separator).2
      · exact not_blank_of_decimalDigit (second c right)

namespace Sized

variable {body width height : List Char} {modifier : Modifier}

theorem runs (sized : Sized body width height modifier) :
    (width <:+: body ∧ IsDigitRun width) ∧ height <:+: body ∧ IsDigitRun height := by
  obtain ⟨numbers, token, rfl, written, -⟩ := sized
  have front : numbers <:+: numbers ++ token.toList := ⟨[], token.toList, by simp⟩
  obtain ⟨⟨wide, first⟩, high, second⟩ := written.runs
  exact ⟨⟨wide.trans front, first⟩, high.trans front, second⟩

theorem bare (sized : Sized body width height modifier) : ∀ c ∈ body, isBlank c = false := by
  obtain ⟨numbers, token, rfl, written, known, -⟩ := sized
  intro c member
  rcases List.mem_append.mp member with number | mark
  · exact written.bare c number
  · exact (token_bare known mark).2.2

theorem nonempty (sized : Sized body width height modifier) : body ≠ [] := by
  rintro rfl
  obtain ⟨⟨wide, -⟩, high, -⟩ := sized.runs
  obtain ⟨-, -, -, -, -, filled⟩ := sized
  rw [List.eq_nil_of_infix_nil wide, List.eq_nil_of_infix_nil high] at filled
  exact filled ⟨rfl, rfl⟩

end Sized

theorem parseTrimmed_parts {geometry : String} {width height token : List Char}
    (first : IsDigitRun width) (second : IsDigitRun height)
    (parts : Parts.ofChars geometry.toList =
      ⟨width.filterMap decimalValue?, height.filterMap decimalValue?, token⟩) :
    parseTrimmed geometry = match Modifier.ofToken? token with
      | none => .error (invalid "Invalid geometry string: " geometry)
      | some modifier =>
        if digitLimit < width.length then .error (.numeral (.tooLong width.length))
        else if digitLimit < height.length then .error (.numeral (.tooLong height.length))
        else if runValue width = 0 ∧ runValue height = 0 then
          .error (invalid "Geometry string has no dimensions: " geometry)
        else .ok (ofRuns width height modifier) := by
  simp only [parseTrimmed, parts, digitsInteger_run first, digitsInteger_run second]
  cases Modifier.ofToken? token with
  | none => rfl
  | some modifier =>
    by_cases wide : digitLimit < width.length
    · simp only [if_pos wide]
      rfl
    · by_cases high : digitLimit < height.length
      · simp only [if_neg wide, if_pos high]
        rfl
      · simp only [if_neg wide, if_neg high]
        rfl

theorem parseTrimmed_sized {geometry : String} {width height : List Char} {modifier : Modifier}
    (sized : Sized geometry.toList width height modifier) (wide : width.length ≤ digitLimit)
    (high : height.length ≤ digitLimit) :
    parseTrimmed geometry = .ok (ofRuns width height modifier) := by
  obtain ⟨⟨-, first⟩, -, second⟩ := sized.runs
  obtain ⟨numbers, token, whole, written, known, filled⟩ := sized
  have parts := ofChars_append written fun c mark =>
    ⟨(token_bare known mark).1, (token_bare known mark).2.1⟩
  have found : Modifier.ofToken? token.toList = some modifier :=
    ofToken?_iff.mpr (by rwa [String.ofList_toList])
  rw [← whole] at parts
  rw [parseTrimmed_parts first second parts, found]
  simp only [if_neg (Nat.not_lt.mpr wide), if_neg (Nat.not_lt.mpr high), if_neg filled]

theorem parseTrimmed_eq_ok {geometry : String} {target : TargetGeometry}
    (parsed : parseTrimmed geometry = .ok target) :
    ∃ width height modifier, Sized geometry.toList width height modifier ∧
      width.length ≤ digitLimit ∧ height.length ≤ digitLimit ∧
      target = ofRuns width height modifier := by
  obtain ⟨numbers, width, height, token, written, whole, parts⟩ := ofChars_numbers geometry.toList
  obtain ⟨⟨-, first⟩, -, second⟩ := written.runs
  rw [parseTrimmed_parts first second parts] at parsed
  cases found : Modifier.ofToken? token with
  | none => simp [found] at parsed
  | some modifier =>
    simp only [found] at parsed
    split at parsed
    · cases parsed
    · rename_i wide
      split at parsed
      · cases parsed
      · rename_i high
        split at parsed
        · cases parsed
        · rename_i filled
          cases parsed
          refine ⟨width, height, modifier, ⟨numbers, String.ofList token, ?_, written,
            ofToken?_iff.mp found, filled⟩, Nat.not_lt.mp wide, Nat.not_lt.mp high, rfl⟩
          rw [whole, String.toList_ofList]

theorem parseTrimmed_short {geometry : String}
    (short : ∀ run, run <:+: geometry.toList → IsDigitRun run → run.length ≤ digitLimit) :
    (∃ target, parseTrimmed geometry = .ok target) ∨
      ∃ message, parseTrimmed geometry = .error (invalid message geometry) := by
  obtain ⟨numbers, width, height, token, written, whole, parts⟩ := ofChars_numbers geometry.toList
  obtain ⟨⟨left, first⟩, right, second⟩ := written.runs
  have front : numbers <:+: geometry.toList := ⟨[], token, by simp [whole]⟩
  have wide := short width (left.trans front) first
  have high := short height (right.trans front) second
  rw [parseTrimmed_parts first second parts]
  cases Modifier.ofToken? token with
  | none => exact .inr ⟨_, rfl⟩
  | some modifier =>
    simp only [if_neg (Nat.not_lt.mpr wide), if_neg (Nat.not_lt.mpr high)]
    split
    · exact .inr ⟨_, rfl⟩
    · exact .inl ⟨_, rfl⟩

theorem parse_between {text : String} {before body after : List Char} (filled : body ≠ [])
    (bare : ∀ c ∈ body, isBlank c = false) (front : ∀ c ∈ before, isBlank c = true)
    (back : ∀ c ∈ after, isBlank c = true) (whole : text.toList = before ++ body ++ after) :
    parse (some text) = parseTrimmed (String.ofList body) := by
  obtain ⟨c, member⟩ := List.exists_mem_of_ne_nil body filled
  have inside : c ∈ text.toList := by simp [whole, member]
  have written : isAllBlank text = false := by
    rw [isAllBlank, List.all_eq_false]
    exact ⟨c, inside, by simp [bare c member]⟩
  have trimmed : stripped text = String.ofList body := by
    rw [stripped, whole, trim_between filled bare front back]
  simp [parse, written, trimmed]

theorem parse_sized {text : String} {before body after width height : List Char}
    {modifier : Modifier} (sized : Sized body width height modifier)
    (wide : width.length ≤ digitLimit) (high : height.length ≤ digitLimit)
    (front : ∀ c ∈ before, isBlank c = true) (back : ∀ c ∈ after, isBlank c = true)
    (whole : text.toList = before ++ body ++ after) :
    parse (some text) = .ok (ofRuns width height modifier) := by
  rw [parse_between sized.nonempty sized.bare front back whole]
  exact parseTrimmed_sized (by rwa [String.toList_ofList]) wide high

theorem parse_blank {text : String} (blank : ∀ c ∈ text.toList, isBlank c = true) :
    parse (some text) = .ok identity := by
  have nothing : isAllBlank text = true := List.all_eq_true.mpr blank
  simp [parse, nothing]

theorem parse_cases_blank (text : String) :
    (∀ c ∈ text.toList, isBlank c = true) ∨ parse (some text) = parseTrimmed (stripped text) := by
  cases blank : isAllBlank text with
  | true => exact .inl (List.all_eq_true.mp blank)
  | false => exact .inr (by simp [parse, blank])

theorem denotes_of_parse {geometry : Option String} {target : TargetGeometry}
    (parsed : parse geometry = .ok target) : Denotes geometry target := by
  cases geometry with
  | none => exact (Except.ok.inj parsed).symm
  | some text =>
    rcases parse_cases_blank text with blank | trimmed
    · rw [parse_blank blank] at parsed
      cases parsed
      exact ⟨text.toList, [], [], by simp, blank, nofun, .blank⟩
    · rw [trimmed] at parsed
      obtain ⟨width, height, modifier, sized, -, -, rfl⟩ := parseTrimmed_eq_ok parsed
      obtain ⟨before, after, whole, front, back⟩ := trim_split isBlank text.toList
      rw [stripped, String.toList_ofList] at sized
      exact ⟨before, _, after, whole, front, back, .sized sized⟩

theorem parse_of_denotes {geometry : Option String} {target : TargetGeometry}
    (short : DigitRunsWithin digitLimit (geometry.getD "")) (denoted : Denotes geometry target) :
    parse geometry = .ok target := by
  cases geometry with
  | none => exact congrArg Except.ok (Eq.symm denoted)
  | some text =>
    obtain ⟨before, body, after, whole, front, back, spelled⟩ := denoted
    cases spelled with
    | blank =>
      refine parse_blank fun c member => ?_
      rw [whole, List.append_nil] at member
      exact (List.mem_append.mp member).elim (front c) (back c)
    | @sized _ width height modifier sized =>
      have inside : body <:+: text.toList := ⟨before, after, whole.symm⟩
      obtain ⟨⟨left, first⟩, right, second⟩ := sized.runs
      exact parse_sized sized (short width (left.trans inside) first)
        (short height (right.trans inside) second) front back whole

theorem parse_short {geometry : Option String}
    (short : DigitRunsWithin digitLimit (geometry.getD "")) :
    (∃ target, parse geometry = .ok target) ∨
      ∃ message, parse geometry = .error (invalid message (stripped (geometry.getD ""))) := by
  cases geometry with
  | none => exact .inl ⟨identity, rfl⟩
  | some text =>
    rcases parse_cases_blank text with blank | trimmed
    · exact .inl ⟨identity, parse_blank blank⟩
    · obtain ⟨before, after, whole, -, -⟩ := trim_split isBlank text.toList
      have inside : (stripped text).toList <:+: text.toList :=
        ⟨before, after, by rw [stripped, String.toList_ofList, ← whole]⟩
      rw [trimmed]
      exact parseTrimmed_short fun run within digits => short run (within.trans inside) digits

/-- A text whose runs of digits are short enough to be read is parsed as a target exactly if it
denotes this target, and is invalid if it denotes none. -/
theorem parse_grammar {geometry : Option String}
    (short : DigitRunsWithin digitLimit (geometry.getD "")) :
    (∀ target, parse geometry = .ok target ↔ Denotes geometry target) ∧
      ((∀ target, ¬ Denotes geometry target) →
        ∃ message, parse geometry = .error (invalid message (stripped (geometry.getD "")))) := by
  refine ⟨fun target => ⟨denotes_of_parse, parse_of_denotes short⟩, fun nothing => ?_⟩
  -- What is parsed denotes its target, so a text that denotes none is refused.
  rcases parse_short short with ⟨target, parsed⟩ | refused
  · exact absurd (denotes_of_parse parsed) (nothing target)
  · exact refused

def mixedText : String := " \u0663X007>@\n"

theorem mixedText_parsed : DigitRunsWithin digitLimit mixedText ∧
    parse (some mixedText) = .ok ⟨some 3, some 7, .areaShrinkOnly⟩ := by
  have short : DigitRunsWithin digitLimit mixedText := by
    intro run inside _
    have whole : mixedText.toList.length ≤ digitLimit := by decide
    exact inside.length_le.trans whole
  have first : IsDigitRun ['\u0663'] := by decide
  have second : IsDigitRun ['0', '0', '7'] := by decide
  have sized : Sized "\u0663X007>@".toList ['\u0663'] ['0', '0', '7'] .areaShrinkOnly :=
    ⟨"\u0663X007".toList, ">@", by decide, .pair first (.inr rfl) second, by decide, by decide⟩
  have denoted : Denotes (some mixedText) ⟨some 3, some 7, .areaShrinkOnly⟩ :=
    ⟨[' '], _, ['\n'], by decide, List.forall_mem_singleton.mpr (by decide),
      List.forall_mem_singleton.mpr (by decide), .sized sized⟩
  have recognised := @parse_grammar (some mixedText) short
  exact ⟨short, (recognised.1 _).mpr denoted⟩

end Thumbnailing.TargetGeometry
