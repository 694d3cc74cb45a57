import Thumbnailing.Proofs.Json.Reading

set_option autoImplicit false

namespace Thumbnailing.Json

variable {limit : Nat} {text here : List Char} {around : List Enclosure} {reason : Stop}

/-- The reader of a document comes to a value: what encloses it, innermost first, and the text from
the value on. -/
inductive Meets (limit : Nat) (text : List Char) : List Enclosure → List Char → Prop
  | start : Meets limit text [] (skipSpace text)
  | inside {around : List Enclosure} {kind : Enclosure} {rest here : List Char} :
      Meets limit text around (kind.opening :: rest) → around.length < limit →
      (skipSpace rest).head? ≠ some kind.closing → entryValue kind (skipSpace rest) = .ok here →
      Meets limit text (kind :: around) here
  | next {around : List Enclosure} {kind : Enclosure} {here left rest later : List Char} :
      Meets limit text (kind :: around) here → behind limit (around.length + 1) here = .ok left →
      skipSpace left = ',' :: rest → entryValue kind (skipSpace rest) = .ok later →
      Meets limit text (kind :: around) later

/-- A value that the reader cannot pass, although the text is not at fault. -/
def StopsAt (limit depth : Nat) (here : List Char) : Stop → Prop
  | .syntactic .. => False
  | .numeral fault => ∃ digits, StartsOverlong here digits ∧ fault = .tooLong digits
  | .tooDeep kind => limit ≤ depth ∧ here.head? = some kind.opening

/-- The reader comes to a value that it cannot pass. -/
def Breaks (limit : Nat) (text : List Char) (reason : Stop) : Prop :=
  ∃ around here, Meets limit text around here ∧ StopsAt limit around.length here reason

theorem StopsAt.escapes {depth : Nat} (stops : StopsAt limit depth here reason) :
    reason.isSyntactic = false := by
  cases reason with
  | syntactic problem unread => exact absurd stops id
  | numeral | tooDeep => rfl

theorem leaf_stops (escapes : reason.isSyntactic = false) (failed : leaf here = .error reason) :
    ∃ digits, StartsOverlong here digits ∧ reason = .numeral (.tooLong digits) := by
  obtain ⟨left, -, read⟩ | ⟨other, syntactic, stopped⟩ | ⟨digits, starts, stopped⟩ := leaf_cases here
  · rw [read] at failed
    cases failed
  · rw [stopped] at failed
    cases failed
    rw [syntactic] at escapes
    cases escapes
  · rw [stopped] at failed
    cases failed
    exact ⟨digits, starts, rfl⟩

theorem StartsOverlong.plain {digits : Nat} (starts : StartsOverlong here digits)
    (kind : Enclosure) : here.head? ≠ some kind.opening := by
  intro first
  obtain ⟨rest, rfl⟩ := List.head?_eq_some_iff.mp first
  cases kind <;> exact starts.filled rfl

theorem StopsAt.behind {depth : Nat} (stops : StopsAt limit depth here reason) :
    behind limit depth here = .error reason := by
  cases reason with
  | syntactic problem unread => exact absurd stops id
  | numeral fault =>
    obtain ⟨digits, starts, rfl⟩ := stops
    rw [behind_leaf depth starts.plain, leaf_overlong starts]
  | tooDeep kind =>
    obtain ⟨deep, first⟩ := stops
    obtain ⟨rest, rfl⟩ := List.head?_eq_some_iff.mp first
    rw [behind_opening, if_pos deep]

theorem behind_stops {depth : Nat} (escapes : reason.isSyntactic = false)
    (failed : behind limit depth here = .error reason) :
    StopsAt limit depth here reason ∨
      ∃ (kind : Enclosure) (rest : List Char), here = kind.opening :: rest ∧ depth < limit ∧
        (skipSpace rest).head? ≠ some kind.closing ∧
        behindEntries limit kind (depth + 1) (skipSpace rest) = .error reason := by
  obtain ⟨kind, rest, rfl⟩ | plain := opening_or_leaf here
  · rw [behind_opening] at failed
    split at failed
    · rename_i deep
      cases failed
      exact .inl ⟨deep, rfl⟩
    · rename_i shallow
      split at failed
      · cases failed
      · rename_i unclosed
        exact .inr ⟨kind, rest, rfl, by omega, unclosed, failed⟩
  · rw [behind_leaf depth plain] at failed
    obtain ⟨digits, starts, rfl⟩ := leaf_stops escapes failed
    exact .inl ⟨digits, starts, rfl⟩

def onFrom (limit : Nat) : List Enclosure → List Char → Reading (List Char)
  | [], here => behind limit 0 here
  | kind :: around, here =>
    behind limit (around.length + 1) here >>=
      onwards kind (behindEntries limit kind (around.length + 1))

theorem onFrom_of_behind (around : List Enclosure)
    (failed : behind limit around.length here = .error reason) :
    onFrom limit around here = .error reason := by
  cases around with
  | nil => exact failed
  | cons kind around =>
    rw [List.length_cons] at failed
    rw [onFrom, failed]
    rfl

theorem behindEntries_of_onFrom {kind : Enclosure} {rest : List Char}
    (entered : entryValue kind rest = .ok here) :
    behindEntries limit kind (around.length + 1) rest = onFrom limit (kind :: around) here := by
  rw [behindEntries_eq, entered]
  rfl

theorem behindEntries_stops {kind : Enclosure} {rest : List Char}
    (escapes : reason.isSyntactic = false)
    (failed : behindEntries limit kind (around.length + 1) rest = .error reason) :
    ∃ here, entryValue kind rest = .ok here ∧ onFrom limit (kind :: around) here = .error reason := by
  obtain ⟨here, entered, -⟩ | ⟨other, syntactic, stopped⟩ := entryValue_cases kind rest
  · exact ⟨here, entered, by rwa [behindEntries_of_onFrom entered] at failed⟩
  · rw [behindEntries_eq, stopped] at failed
    cases failed
    rw [syntactic] at escapes
    cases escapes

theorem onwards_stops {kind : Enclosure} {next : List Char → Reading (List Char)}
    (escapes : reason.isSyntactic = false) (failed : onwards kind next text = .error reason) :
    ∃ rest, skipSpace text = ',' :: rest ∧ next (skipSpace rest) = .error reason := by
  unfold onwards at failed
  split at failed
  · cases failed
    cases escapes
  · rename_i c rest more
    split at failed
    · cases failed
    · split at failed
      · rename_i comma
        exact ⟨rest, by rw [more, comma], failed⟩
      · cases failed
        cases escapes

theorem onFrom_stops (escapes : reason.isSyntactic = false)
    (failed : onFrom limit around here = .error reason) :
    behind limit around.length here = .error reason ∨
      ∃ (kind : Enclosure) (outer : List Enclosure) (left rest : List Char),
        around = kind :: outer ∧ behind limit (outer.length + 1) here = .ok left ∧
        skipSpace left = ',' :: rest ∧
        behindEntries limit kind (outer.length + 1) (skipSpace rest) = .error reason := by
  cases around with
  | nil => exact .inl failed
  | cons kind outer =>
    rw [onFrom] at failed
    rw [List.length_cons]
    cases passed : behind limit (outer.length + 1) here with
    | error other =>
      rw [passed] at failed
      cases failed
      exact .inl rfl
    | ok left =>
      rw [passed] at failed
      obtain ⟨rest, comma, stopped⟩ := onwards_stops escapes failed
      exact .inr ⟨kind, outer, left, rest, rfl, passed, comma, stopped⟩

theorem Meets.behind_start (meets : Meets limit text around here)
    (failed : onFrom limit around here = .error reason) :
    behind limit 0 (skipSpace text) = .error reason := by
  induction meets with
  | start => exact failed
  | @inside around kind rest here _ shallow unclosed entered ih =>
    apply ih
    apply onFrom_of_behind
    rw [behind_opening, if_neg (by omega), if_neg unclosed, behindEntries_of_onFrom entered, failed]
  | @next around kind here left rest later _ passed comma entered ih =>
    apply ih
    rw [onFrom, passed]
    change onwards kind _ left = _
    rw [onwards_comma comma, behindEntries_of_onFrom entered, failed]

theorem Meets.breaks (meets : Meets limit text around here) (escapes : reason.isSyntactic = false)
    (failed : onFrom limit around here = .error reason) : Breaks limit text reason := by
  -- Both within a value and behind it less text is left.
  induction size : here.length using Nat.strong_induction_on generalizing around here with
  | _ size ih =>
    subst size
    obtain stopped | ⟨kind, outer, left, rest, rfl, passed, comma, stopped⟩ :=
      onFrom_stops escapes failed
    · obtain stops | ⟨kind, rest, rfl, shallow, unclosed, further⟩ := behind_stops escapes stopped
      · exact ⟨around, here, meets, stops⟩
      · obtain ⟨inner, entered, failed⟩ := behindEntries_stops escapes further
        have within := entryValue_length entered
        have skipped := length_skipSpace_le rest
        refine ih _ ?_ (meets.inside shallow unclosed entered) failed rfl
        simp only [List.length_cons]
        omega
    · obtain ⟨later, entered, failed⟩ := behindEntries_stops escapes stopped
      have within := entryValue_length entered
      have skipped := length_skipSpace_le rest
      have shorter := behind_shorter passed
      have spaces := length_skipSpace_le left
      rw [comma, List.length_cons] at spaces
      exact ih _ (by omega) (meets.next passed comma entered) failed rfl

theorem breaks_iff (escapes : reason.isSyntactic = false) :
    Breaks limit text reason ↔ behind limit 0 (skipSpace text) = .error reason := by
  constructor
  · rintro ⟨around, here, meets, stops⟩
    exact meets.behind_start (onFrom_of_behind around stops.behind)
  · intro failed
    exact Meets.start.breaks escapes failed

theorem not_breaks_marked (rest : List Char) : ¬ Breaks limit (Char.ofNat 0xFEFF :: rest) reason := by
  rintro ⟨around, here, meets, stops⟩
  have escapes := stops.escapes
  have failed := (breaks_iff escapes).mp ⟨around, here, meets, stops⟩
  obtain marked | ⟨kind, more, opened, -⟩ := behind_stops escapes failed
  · cases reason with
    | syntactic problem unread => exact marked
    | numeral fault =>
      obtain ⟨digits, starts, -⟩ := marked
      exact starts.filled rfl
    | tooDeep kind => cases kind <;> exact absurd (Option.some.inj marked.2) (by decide)
  · cases kind <;> exact absurd (List.cons.inj opened).1 (by decide)

theorem readDocument_error_iff (escapes : reason.isSyntactic = false) :
    readDocument text limit = .error reason ↔ Breaks limit text reason := by
  unfold readDocument
  by_cases marked : text.head? = some (Char.ofNat 0xFEFF)
  · rw [if_pos marked]
    obtain ⟨rest, rfl⟩ := List.head?_eq_some_iff.mp marked
    refine iff_of_false (fun failed => ?_) (not_breaks_marked rest)
    cases failed
    cases escapes
  · have skipped := length_skipSpace_le text
    rw [if_neg marked, breaks_iff escapes, ← @afterValue_eq limit (2 * text.length + 2) _ 0 (by omega),
      afterValue]
    cases readValue limit (2 * text.length + 2) 0 (skipSpace text) with
    | error other => simp only [bind, Except.bind, Functor.map, Except.map, Except.error.injEq]
    | ok found =>
      refine iff_of_false (fun failed => ?_) (fun failed => by cases failed)
      simp only [bind, Except.bind, pure, Except.pure] at failed
      split at failed
      · cases failed
      · cases failed
        cases escapes

end Thumbnailing.Json
