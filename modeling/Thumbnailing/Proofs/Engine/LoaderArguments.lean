import Thumbnailing.Directive.LoaderOptions
import Thumbnailing.Engine.Magick
import Thumbnailing.Proofs.Directive.Names
import Thumbnailing.Proofs.Directive.ReadBack
import Thumbnailing.Proofs.Entries
import Thumbnailing.Proofs.Storage.Path
import Thumbnailing.Proofs.Task

set_option autoImplicit false

namespace Thumbnailing

namespace Vocabulary

theorem allowedNames_head {name : String} (allowed : name ∈ allowedNames) :
    ∃ first rest, name.toList = first :: rest ∧ first ≠ '_' ∧ Text.isDecimalDigit first = false := by
  -- The names are tested by their first character, since taking them apart to the end is slow.
  have all : ∀ name ∈ allowedNames, name.front?.any (fun first =>
      first != '_' && !Text.isDecimalDigit first) = true := by decide +kernel
  have plain := all name allowed
  rw [String.front?_eq] at plain
  cases chars : name.toList with
  | nil => simp [chars] at plain
  | cons first rest =>
    simp only [chars, List.head?_cons, Option.any_some, Bool.and_eq_true, bne_iff_ne, ne_eq,
      Bool.not_eq_true'] at plain
    exact ⟨first, rest, rfl, plain⟩

end Vocabulary

namespace SourceOptions

structure IsWritten (entry : String × Value) : Prop where
  canonical : Directive.canonicalName entry.1 = entry.1
  worded : entry.2 = .boolean true ∨ ∃ content, entry.2 = .text content

theorem loaderValue_worded (directive : Directive) :
    loaderValue directive = .boolean true ∨ ∃ content, loaderValue directive = .text content := by
  unfold loaderValue
  split
  · exact Or.inr ⟨_, rfl⟩
  · exact Or.inl rfl

theorem entriesOf_written (directives : List Directive) :
    ∀ entry ∈ entriesOf directives, IsWritten entry := by
  have grown (entries : Entries) (written : ∀ entry ∈ entries, IsWritten entry) :
      ∀ entry ∈ directives.foldl
        (fun entries directive => entries.put directive.key (loaderValue directive)) entries,
        IsWritten entry := by
    induction directives generalizing entries with
    | nil => exact written
    | cons directive rest ih =>
      refine ih _ fun entry member => ?_
      rcases Entries.mem_put member with inside | rfl
      · exact written entry inside
      · exact ⟨Directive.canonicalName_canonicalName _, loaderValue_worded directive⟩
  exact grown [] (by simp)

theorem loaderOptions_written {options : OptionWords} {entries : Entries}
    {records : List LogRecord}
    (parsed : loaderOptions (some (.written options)) = .ok (entries, records)) :
    ∀ entry ∈ entries, IsWritten entry := by
  obtain ⟨tokens, -, same⟩ := Task.ok_of_bind parsed
  cases same
  exact entriesOf_written tokens.directives

end SourceOptions

namespace Magick

def optionWords : Value → List String
  | .boolean true => []
  | value => [value.display]

def loaderReading (entry : String × Value) : String × List String :=
  ("-" ++ loaderFlag entry.1, optionWords entry.2)

def loaderReadings (entries : Entries) : List (String × List String) :=
  (entries.filter fun entry => Vocabulary.isAllowed entry.1).map loaderReading

/-- Whether every allowed option has just as many words as it takes. -/
def areFull (entries : Entries) : Prop :=
  ∀ entry ∈ entries, Vocabulary.isAllowed entry.1 = true →
    (optionWords entry.2).length = Vocabulary.argumentCount entry.1

theorem loaderWords_written {entry : String × Value} (written : SourceOptions.IsWritten entry) :
    (loaderWords entry).1 =
      if Vocabulary.isAllowed entry.1 then (loaderReading entry).1 :: (loaderReading entry).2
      else [] := by
  obtain ⟨key, value⟩ := entry
  unfold loaderWords
  by_cases allowed : Vocabulary.isAllowed key = true
  · rcases written.worded with rfl | ⟨content, rfl⟩ <;>
      simp [allowed, loaderReading, optionWords, isOff, Value.isNumber]
  · simp [allowed]

theorem loaderArguments_written {entries : Entries}
    (written : ∀ entry ∈ entries, SourceOptions.IsWritten entry) :
    loaderArguments entries = Vocabulary.written (loaderReadings entries) := by
  induction entries with
  | nil => rfl
  | cons entry rest ih =>
    have first := loaderWords_written (written entry List.mem_cons_self)
    have later := ih fun other member => written other (List.mem_cons_of_mem entry member)
    rw [loaderArguments, List.flatMap_cons, first, ← loaderArguments, later, loaderReadings,
      loaderReadings, List.filter_cons]
    split <;> simp [Vocabulary.written]

theorem loaderFlag_chars {key : String} (canonical : Directive.canonicalName key = key)
    (allowed : Vocabulary.isAllowed key = true) :
    ∃ first rest, ("-" ++ loaderFlag key).toList = '-' :: first :: rest ∧
      key.toList.head? = some first ∧ first ≠ '_' ∧ Text.isDecimalDigit first = false := by
  have listed : key ∈ Vocabulary.allowedNames := by
    rwa [Vocabulary.isAllowed, canonical, List.contains_iff_mem] at allowed
  obtain ⟨first, rest, chars, plain, letter⟩ := Vocabulary.allowedNames_head listed
  refine ⟨first, rest.map Directive.hyphenOfUnderscore, ?_, by simp [chars], plain, letter⟩
  simp [loaderFlag, String.toList_append, chars, Directive.hyphenOfUnderscore, plain]

theorem isFlag_loaderFlag {key : String} (canonical : Directive.canonicalName key = key)
    (allowed : Vocabulary.isAllowed key = true) :
    Directive.isFlag ("-" ++ loaderFlag key) = true := by
  obtain ⟨first, rest, chars, -, -, letter⟩ := loaderFlag_chars canonical allowed
  simp [Directive.isFlag, chars, Directive.isSign, letter]

theorem argumentCount_loaderFlag {key : String} (canonical : Directive.canonicalName key = key)
    (allowed : Vocabulary.isAllowed key = true) :
    Vocabulary.argumentCount ("-" ++ loaderFlag key) = Vocabulary.argumentCount key := by
  obtain ⟨first, rest, -, head, plain, -⟩ := loaderFlag_chars canonical allowed
  have notUnderscore : key.toList.head? ≠ some '_' := by simpa [head] using plain
  unfold Vocabulary.argumentCount
  rw [loaderFlag, Directive.canonicalName_written canonical notUnderscore, canonical]

theorem loaderReadings_full {entries : Entries}
    (written : ∀ entry ∈ entries, SourceOptions.IsWritten entry) :
    (∀ reading ∈ loaderReadings entries,
        reading.2.length = Vocabulary.argumentCount reading.1) ↔ areFull entries := by
  constructor
  · intro full entry member allowed
    have reading := full _ (List.mem_map_of_mem (List.mem_filter.mpr ⟨member, allowed⟩))
    rwa [loaderReading, argumentCount_loaderFlag (written entry member).canonical allowed] at reading
  · intro full found member
    obtain ⟨entry, inside, rfl⟩ := List.mem_map.mp member
    obtain ⟨present, allowed⟩ := List.mem_filter.mp inside
    rw [loaderReading, argumentCount_loaderFlag (written entry present).canonical allowed]
    exact full entry present allowed

theorem loaderReadings_flags {entries : Entries}
    (written : ∀ entry ∈ entries, SourceOptions.IsWritten entry) :
    ∀ reading ∈ loaderReadings entries, Directive.isFlag reading.1 = true := by
  intro found member
  obtain ⟨entry, inside, rfl⟩ := List.mem_map.mp member
  obtain ⟨present, allowed⟩ := List.mem_filter.mp inside
  exact isFlag_loaderFlag (written entry present).canonical allowed

theorem apply_reading {command changed : MagickCommand} {primitive : Primitive}
    (applied : apply command primitive = .ok changed) :
    changed.source = command.source ∧ changed.loaderArguments = command.loaderArguments := by
  obtain ⟨words, -, same⟩ := Task.ok_of_bind applied
  cases same
  cases primitive <;> exact ⟨rfl, rfl⟩

theorem applied_reading {command changed : MagickCommand} {primitives : List Primitive}
    (applied : primitives.foldlM apply command = .ok changed) :
    changed.source = command.source ∧ changed.loaderArguments = command.loaderArguments := by
  induction primitives generalizing command with
  | nil =>
    cases applied
    exact ⟨rfl, rfl⟩
  | cons primitive rest ih =>
    rw [List.foldlM_cons] at applied
    obtain ⟨between, first, later⟩ := Task.ok_of_bind applied
    obtain ⟨source, arguments⟩ := apply_reading first
    obtain ⟨sourceLater, argumentsLater⟩ := ih later
    exact ⟨sourceLater.trans source, argumentsLater.trans arguments⟩

theorem sourceWord_noFlag {command : MagickCommand}
    (rooted : ∀ path, command.source = some path → path.root ≠ .relative) :
    Directive.isFlag command.sourceWord = false := by
  unfold MagickCommand.sourceWord
  cases named : command.source with
  | none => simp [pathText, Directive.isFlag, String.toList_append, Directive.isSign]
  | some path =>
    obtain ⟨rest, chars⟩ := Path.text_head (rooted path named)
    simp [pathText, Directive.isFlag, String.toList_append, chars, Directive.isSign]

/-- Loader options that were written as words are read back from the command line exactly if each
of the allowed ones has just as many words as it takes. Then the source is the first file on every
command line that steps make of them. -/
theorem readBack_loaderArguments {options : OptionWords} {entries : Entries}
    {records : List LogRecord}
    (parsed : SourceOptions.loaderOptions (some (.written options)) = .ok (entries, records)) :
    (Vocabulary.readBack (loaderArguments entries) = some (loaderReadings entries) ↔
      areFull entries) ∧
    (areFull entries → ∀ (source : Option Path) (primitives : List Primitive)
      (command : MagickCommand) (destination : Path),
      (∀ path, source = some path → path.root ≠ .relative) →
      primitives.foldlM apply (load source entries) = .ok command →
      Vocabulary.firstFile (command.words destination) = some command.sourceWord) := by
  have written := SourceOptions.loaderOptions_written parsed
  have arguments := loaderArguments_written written
  have full := loaderReadings_full written
  constructor
  · rw [arguments, Vocabulary.readBack_written, full]
  · intro given source primitives command destination rooted applied
    obtain ⟨sameSource, sameArguments⟩ := applied_reading applied
    have front : command.loaderArguments = Vocabulary.written (loaderReadings entries) := by
      rw [sameArguments, ← arguments]
      rfl
    have noFlag : Directive.isFlag command.sourceWord = false :=
      sourceWord_noFlag fun path named => rooted path (sameSource.symm.trans named)
    rw [MagickCommand.words, front, List.append_assoc,
      Vocabulary.firstFile_written _ (loaderReadings_flags written) (full.mpr given),
      List.cons_append, Vocabulary.firstFile, if_neg (by simp [noFlag])]

def densityWords : List String := ["-density", "300", "-strip", "-size", "40x30", "-size", "20x20"]

theorem density_in_front :
    ∃ (entries : Entries) (command : MagickCommand),
      SourceOptions.loaderOptions (some (.written (.listed densityWords))) = .ok (entries, []) ∧
      Vocabulary.readBack (loaderArguments entries) = some (loaderReadings entries) ∧
      loaderReadings entries = [("-density", ["300"]), ("-strip", []), ("-size", ["20x20"])] ∧
      [.selectFrame 2, .autoOrient].foldlM apply
        (load (some ⟨.absolute, ["work", "a.gif"]⟩) entries) = .ok command ∧
      Vocabulary.firstFile (command.words ⟨.absolute, ["tmp", "b.png"]⟩) =
        some command.sourceWord := by
  have full : areFull (SourceOptions.entriesOf (Tokens.ofWords densityWords).directives) := by
    have listed : SourceOptions.entriesOf (Tokens.ofWords densityWords).directives =
        [("density", .text "300"), ("strip", .boolean true), ("size", .text "20x20")] := by rfl
    rw [listed]
    intro entry member
    simp only [List.mem_cons, List.not_mem_nil, or_false] at member
    rcases member with rfl | rfl | rfl <;> decide +kernel
  have rooted : ∀ path, some (⟨.absolute, ["work", "a.gif"]⟩ : Path) = some path →
      path.root ≠ .relative := by
    rintro path ⟨⟩
    decide
  have parsed : SourceOptions.loaderOptions (some (.written (.listed densityWords))) =
    .ok (SourceOptions.entriesOf (Tokens.ofWords densityWords).directives, []) := rfl
  obtain ⟨back, front⟩ := readBack_loaderArguments parsed
  exact ⟨_, _, parsed, back.mpr full, by decide +kernel, rfl,
    front full _ [.selectFrame 2, .autoOrient] _ ⟨.absolute, ["tmp", "b.png"]⟩ rooted rfl⟩

def strayWords : List String := ["-strip", "/tmp/b.png"]

theorem stray_word_in_front :
    ¬ ∀ (options : OptionWords) (entries : Entries) (records : List LogRecord),
      SourceOptions.loaderOptions (some (.written options)) = .ok (entries, records) →
      Vocabulary.readBack (loaderArguments entries) = some (loaderReadings entries) := by
  intro claimed
  have back := claimed (.listed strayWords)
    (SourceOptions.entriesOf (Tokens.ofWords strayWords).directives) [] rfl
  rw [loaderArguments_written (SourceOptions.entriesOf_written _),
    Vocabulary.readBack_written] at back
  exact absurd back (by decide +kernel)

end Magick

end Thumbnailing
