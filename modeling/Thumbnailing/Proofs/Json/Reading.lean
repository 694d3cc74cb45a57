import Thumbnailing.Proofs.Json.Leaves
import Thumbnailing.Proofs.Task

set_option autoImplicit false

namespace Thumbnailing

namespace Enclosure

def opening : Enclosure → Char
  | .list => '['
  | .dictionary => '\x7b'

def closing : Enclosure → Char
  | .list => ']'
  | .dictionary => '\x7d'

end Enclosure

namespace Json

theorem length_skipSpace_le (text : List Char) : (skipSpace text).length ≤ text.length :=
  (List.dropWhile_sublist isSpace).length_le

def memberName : List Char → Reading (String × List Char)
  | '"' :: body => do
    let (name, left) ← readText body
    match skipSpace left with
    | ':' :: rest => .ok (name, skipSpace rest)
    | other => stop .noColon other
  | text => stop .noMemberName text

def entryValue : Enclosure → List Char → Reading (List Char)
  | .list, text => .ok text
  | .dictionary, text => Prod.snd <$> memberName text

section

variable (limit : Nat)

def afterValue (fuel depth : Nat) (text : List Char) : Reading (List Char) :=
  Prod.snd <$> readValue limit fuel depth text

def afterEntries (fuel depth : Nat) (text : List Char) : Enclosure → Reading (List Char)
  | .list => Prod.snd <$> readItems limit fuel depth text
  | .dictionary => Prod.snd <$> readMembers limit fuel depth [] text

end

variable {limit : Nat}

theorem readMembers_succ (fuel depth : Nat) (entries : Entries) (text : List Char) :
    readMembers limit (fuel + 1) depth entries text =
      memberName text >>= fun member => readValue limit fuel depth member.2 >>= fun found =>
        match skipSpace found.2 with
        | '\x7d' :: rest => pure (entries.put member.1 found.1, rest)
        | ',' :: rest => readMembers limit fuel depth (entries.put member.1 found.1) (skipSpace rest)
        | other => stop .noComma other := by
  unfold memberName
  split
  · rename_i body
    rw [readMembers.eq_2]
    cases readText body with
    | error reason => rfl
    | ok named =>
      obtain ⟨name, left⟩ := named
      simp only [bind, Except.bind]
      cases skipSpace left with
      | nil => rfl
      | cons c rest =>
        by_cases colon : c = ':'
        · subst colon
          rfl
        · split
          · simp_all
          · split <;> simp_all [stop]
  · rename_i unnamed
    rw [readMembers.eq_3 _ _ _ _ _ unnamed]
    rfl

theorem afterMembers_eq (fuel depth : Nat) (entries : Entries) (text : List Char) :
    Prod.snd <$> readMembers limit fuel depth entries text =
      afterEntries limit fuel depth text .dictionary := by
  -- Members that were read before are only passed on.
  unfold afterEntries
  generalize ([] : Entries) = others
  induction fuel generalizing entries others text with
  | zero => rfl
  | succ fuel ih =>
    simp only [readMembers_succ]
    cases memberName text with
    | error reason => rfl
    | ok member =>
      simp only [bind, Except.bind]
      cases readValue limit fuel depth member.2 with
      | error reason => rfl
      | ok found =>
        simp only
        split
        · rfl
        · exact ih ..
        · rfl

theorem afterValue_opening (kind : Enclosure) (fuel depth : Nat) (rest : List Char) :
    afterValue limit (fuel + 1) depth (kind.opening :: rest) =
      if limit ≤ depth then .error (.tooDeep kind)
      else if (skipSpace rest).head? = some kind.closing then .ok (skipSpace rest).tail
      else afterEntries limit fuel (depth + 1) (skipSpace rest) kind := by
  unfold afterValue
  cases kind
  all_goals
    unfold Enclosure.opening readValue
    simp only
    split
    · rfl
    · split
      · rename_i closed
        rw [closed]
        rfl
      · rename_i unclosed
        rw [if_neg fun first => by
          obtain ⟨left, closed⟩ := List.head?_eq_some_iff.mp first
          exact unclosed left closed]
        exact snd_change _ _

theorem afterValue_leaf (fuel depth : Nat) {text : List Char}
    (plain : ∀ kind : Enclosure, text.head? ≠ some kind.opening) :
    afterValue limit (fuel + 1) depth text = leaf text := by
  have list := plain .list
  have dictionary := plain .dictionary
  unfold afterValue readValue leaf
  split
  · rename_i rest
    exact snd_change Value.text (readText rest)
  · exact absurd rfl list
  · exact absurd rfl dictionary
  · split
    · simp_all
    · rfl

def onwards (kind : Enclosure) (next : List Char → Reading (List Char)) (text : List Char) :
    Reading (List Char) :=
  match skipSpace text with
  | [] => stop .noComma []
  | c :: rest =>
    if c = kind.closing then .ok rest
    else if c = ',' then next (skipSpace rest)
    else stop .noComma (c :: rest)

theorem onwards_closing {kind : Enclosure} {next : List Char → Reading (List Char)}
    {text rest : List Char} (closed : skipSpace text = kind.closing :: rest) :
    onwards kind next text = .ok rest := by
  simp [onwards, closed]

theorem onwards_comma {kind : Enclosure} {next : List Char → Reading (List Char)}
    {text rest : List Char} (comma : skipSpace text = ',' :: rest) :
    onwards kind next text = next (skipSpace rest) := by
  cases kind <;> simp [onwards, comma, Enclosure.closing]

theorem onwards_other {kind : Enclosure} {next : List Char → Reading (List Char)}
    {text : List Char} (unclosed : ∀ rest, skipSpace text ≠ kind.closing :: rest)
    (single : ∀ rest, skipSpace text ≠ ',' :: rest) :
    onwards kind next text = stop .noComma (skipSpace text) := by
  unfold onwards
  split
  · rename_i ended
    rw [ended]
  · rename_i c rest more
    rw [more, if_neg (by rintro rfl; exact unclosed rest more),
      if_neg (by rintro rfl; exact single rest more)]

theorem afterEntries_succ (kind : Enclosure) (fuel depth : Nat) (text : List Char) :
    afterEntries limit (fuel + 1) depth text kind =
      entryValue kind text >>= fun here => afterValue limit fuel depth here >>=
        onwards kind fun next => afterEntries limit fuel depth next kind := by
  cases kind with
  | list =>
    simp only [afterEntries, readItems, entryValue, afterValue, bind, Except.bind]
    cases readValue limit fuel depth text with
    | error reason => rfl
    | ok found =>
      obtain ⟨value, left⟩ := found
      change _ = onwards .list _ left
      simp only
      split
      · rename_i rest closed
        rw [onwards_closing closed]
        rfl
      · rename_i rest comma
        rw [onwards_comma comma]
        exact snd_change (value :: ·) (readItems limit fuel depth (skipSpace rest))
      · rename_i unclosed single
        rw [onwards_other unclosed single]
        rfl
  | dictionary =>
    simp only [afterEntries, readMembers_succ, entryValue]
    cases memberName text with
    | error reason => rfl
    | ok member =>
      obtain ⟨name, here⟩ := member
      change _ = (Prod.snd <$> readValue limit fuel depth here >>= onwards .dictionary _)
      simp only [bind, Except.bind]
      cases readValue limit fuel depth here with
      | error reason => rfl
      | ok found =>
        obtain ⟨value, left⟩ := found
        change _ = onwards .dictionary _ left
        simp only
        split
        · rename_i rest closed
          rw [onwards_closing closed]
          rfl
        · rename_i rest comma
          rw [onwards_comma comma]
          exact afterMembers_eq ..
        · rename_i unclosed single
          rw [onwards_other unclosed single]
          rfl

theorem memberName_advances (text : List Char) : Advances text (memberName text) := by
  unfold memberName
  split
  · rename_i body
    obtain ⟨name, left, read, shorter⟩ | ⟨reason, syntactic, failed⟩ := readText_advances body
    · rw [read]
      simp only [bind, Except.bind]
      split
      · rename_i rest colon
        have skipped := length_skipSpace_le left
        have after := length_skipSpace_le rest
        rw [colon] at skipped
        simp only [List.length_cons] at skipped
        exact .inl ⟨name, _, rfl, by simp only [List.length_cons]; omega⟩
      · exact advances_stop _ _ _
    · exact .inr ⟨reason, syntactic, by rw [failed]; rfl⟩
  · exact advances_stop _ _ _

theorem entryValue_cases (kind : Enclosure) (text : List Char) :
    (∃ here, entryValue kind text = .ok here ∧ here.length ≤ text.length) ∨
      ∃ reason, reason.isSyntactic = true ∧ entryValue kind text = .error reason := by
  cases kind with
  | list => exact .inl ⟨text, rfl, Nat.le_refl _⟩
  | dictionary =>
    obtain ⟨name, here, read, shorter⟩ | ⟨reason, syntactic, failed⟩ := memberName_advances text
    · exact .inl ⟨here, by rw [entryValue, read]; rfl, by omega⟩
    · exact .inr ⟨reason, syntactic, by rw [entryValue, failed]; rfl⟩

theorem entryValue_length {kind : Enclosure} {text here : List Char}
    (entered : entryValue kind text = .ok here) : here.length ≤ text.length := by
  obtain ⟨found, read, within⟩ | ⟨reason, -, failed⟩ := entryValue_cases kind text
  · rw [read] at entered
    cases entered
    exact within
  · rw [failed] at entered
    cases entered

theorem opening_or_leaf (text : List Char) :
    (∃ (kind : Enclosure) (rest : List Char), text = kind.opening :: rest) ∨
      ∀ kind : Enclosure, text.head? ≠ some kind.opening := by
  by_cases opened : ∃ kind : Enclosure, text.head? = some kind.opening
  · obtain ⟨kind, first⟩ := opened
    obtain ⟨rest, rfl⟩ := List.head?_eq_some_iff.mp first
    exact .inl ⟨kind, rest, rfl⟩
  · exact .inr (not_exists.mp opened)

theorem onwards_shorter {kind : Enclosure} {next : List Char → Reading (List Char)}
    {text left : List Char}
    (further : ∀ rest left, next rest = .ok left → left.length < rest.length)
    (read : onwards kind next text = .ok left) : left.length < text.length := by
  have skipped := length_skipSpace_le text
  unfold onwards at read
  split at read
  · cases read
  · rename_i c rest more
    rw [more, List.length_cons] at skipped
    split at read
    · cases read
      omega
    · split at read
      · have later := further _ _ read
        have after := length_skipSpace_le rest
        omega
      · cases read

theorem after_shorter (fuel : Nat) :
    (∀ depth text left, afterValue limit fuel depth text = .ok left → left.length < text.length) ∧
    ∀ kind depth text left, afterEntries limit fuel depth text kind = .ok left →
      left.length < text.length := by
  -- Values and entries are read by each other with one step less, so one induction is on both.
  induction fuel with
  | zero =>
    constructor
    · intro depth text left read
      cases read
    · intro kind depth text left read
      cases kind <;> cases read
  | succ fuel ih =>
    obtain ⟨value, entries⟩ := ih
    constructor
    · intro depth text left read
      obtain ⟨kind, rest, rfl⟩ | plain := opening_or_leaf text
      · have skipped := length_skipSpace_le rest
        rw [afterValue_opening] at read
        split at read
        · cases read
        · split at read
          · cases read
            simp only [List.length_tail, List.length_cons]
            omega
          · have further := entries _ _ _ _ read
            simp only [List.length_cons]
            omega
      · rw [afterValue_leaf _ _ plain] at read
        obtain ⟨left, shorter, found⟩ | ⟨reason, -, failed⟩ | ⟨digits, -, failed⟩ := leaf_cases text
        all_goals simp_all
    · intro kind depth text left read
      rw [afterEntries_succ] at read
      obtain ⟨here, entered, read⟩ := Task.ok_of_bind read
      obtain ⟨behind, passed, read⟩ := Task.ok_of_bind read
      have within := entryValue_length entered
      have first := value _ _ _ passed
      have later := onwards_shorter (fun rest left => entries kind depth rest left) read
      omega

theorem bind_congr_of_ok {First Last : Type} {reading : Reading First}
    {next other : First → Reading Last}
    (same : ∀ found, reading = .ok found → next found = other found) :
    reading >>= next = reading >>= other := by
  cases reading with
  | error reason => rfl
  | ok found => exact same found rfl

theorem onwards_congr {kind : Enclosure} {next other : List Char → Reading (List Char)}
    {text : List Char} (same : ∀ rest, rest.length < text.length → next rest = other rest) :
    onwards kind next text = onwards kind other text := by
  have skipped := length_skipSpace_le text
  unfold onwards
  split
  · rfl
  · rename_i c rest more
    have after := length_skipSpace_le rest
    rw [more, List.length_cons] at skipped
    rw [same (skipSpace rest) (by omega)]

theorem entries_congr {kind : Enclosure} {text : List Char}
    {value other next later : List Char → Reading (List Char)}
    (values : ∀ here, here.length ≤ text.length → value here = other here)
    (shorter : ∀ here left, other here = .ok left → left.length < here.length)
    (nexts : ∀ rest, rest.length < text.length → next rest = later rest) :
    (entryValue kind text >>= fun here => value here >>= onwards kind next) =
      entryValue kind text >>= fun here => other here >>= onwards kind later := by
  apply bind_congr_of_ok
  intro here entered
  have within := entryValue_length entered
  rw [values here within]
  apply bind_congr_of_ok
  intro left passed
  have less := shorter here left passed
  exact onwards_congr fun rest fewer => nexts rest (by omega)

theorem after_stable (fuel : Nat) :
    (∀ depth text, 2 * text.length + 1 ≤ fuel →
      afterValue limit (fuel + 1) depth text = afterValue limit fuel depth text) ∧
    ∀ kind depth text, 2 * text.length + 2 ≤ fuel →
      afterEntries limit (fuel + 1) depth text kind = afterEntries limit fuel depth text kind := by
  induction fuel with
  | zero => simp
  | succ fuel ih =>
    obtain ⟨value, entries⟩ := ih
    constructor
    · intro depth text enough
      obtain ⟨kind, rest, rfl⟩ | plain := opening_or_leaf text
      · have skipped := length_skipSpace_le rest
        simp only [List.length_cons] at enough
        rw [afterValue_opening, afterValue_opening, entries kind _ _ (by omega)]
      · rw [afterValue_leaf _ _ plain, afterValue_leaf _ _ plain]
    · intro kind depth text enough
      rw [afterEntries_succ, afterEntries_succ]
      apply entries_congr
      · intro here within
        exact value depth here (by omega)
      · exact (after_shorter fuel).1 depth
      · intro rest fewer
        exact entries kind depth rest (by omega)

def behind (limit depth : Nat) (text : List Char) : Reading (List Char) :=
  afterValue limit (2 * text.length + 1) depth text

def behindEntries (limit : Nat) (kind : Enclosure) (depth : Nat) (text : List Char) :
    Reading (List Char) :=
  afterEntries limit (2 * text.length + 2) depth text kind

theorem afterValue_eq {fuel : Nat} {text : List Char} (depth : Nat)
    (enough : 2 * text.length + 1 ≤ fuel) :
    afterValue limit fuel depth text = behind limit depth text := by
  induction fuel, enough using Nat.le_induction with
  | base => rfl
  | succ fuel enough ih => rw [(after_stable fuel).1 _ _ enough, ih]

theorem afterEntries_eq {fuel : Nat} {text : List Char} (kind : Enclosure) (depth : Nat)
    (enough : 2 * text.length + 2 ≤ fuel) :
    afterEntries limit fuel depth text kind = behindEntries limit kind depth text := by
  induction fuel, enough using Nat.le_induction with
  | base => rfl
  | succ fuel enough ih => rw [(after_stable fuel).2 _ _ _ enough, ih]

theorem behind_shorter {depth : Nat} {text left : List Char}
    (read : behind limit depth text = .ok left) : left.length < text.length := (after_shorter _).1 _ _ _ read

theorem behind_leaf (depth : Nat) {text : List Char}
    (plain : ∀ kind : Enclosure, text.head? ≠ some kind.opening) :
    behind limit depth text = leaf text :=
  afterValue_leaf _ depth plain

theorem behind_opening (kind : Enclosure) (depth : Nat) (rest : List Char) :
    behind limit depth (kind.opening :: rest) =
      if limit ≤ depth then .error (.tooDeep kind)
      else if (skipSpace rest).head? = some kind.closing then .ok (skipSpace rest).tail
      else behindEntries limit kind (depth + 1) (skipSpace rest) := by
  have skipped := length_skipSpace_le rest
  rw [behind, afterValue_opening, afterEntries_eq]
  simp only [List.length_cons]
  omega

theorem behindEntries_eq (kind : Enclosure) (depth : Nat) (text : List Char) :
    behindEntries limit kind depth text =
      entryValue kind text >>= fun here => behind limit depth here >>=
        onwards kind (behindEntries limit kind depth) := by
  rw [behindEntries, afterEntries_succ]
  apply entries_congr
  · intro here within
    exact afterValue_eq depth (by omega)
  · intro here left passed
    exact behind_shorter passed
  · intro rest fewer
    exact afterEntries_eq kind depth (by omega)

end Json

end Thumbnailing
