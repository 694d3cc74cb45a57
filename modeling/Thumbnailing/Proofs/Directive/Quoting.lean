import Thumbnailing.Directive.LoaderOptions

set_option autoImplicit false

namespace Thumbnailing.OptionWords

def quotedChar (c : Char) : List Char :=
  if c = '\'' then ['\'', '"', '\'', '"', '\''] else [c]

def quotedChars (word : List Char) : List Char :=
  '\'' :: (word.flatMap quotedChar ++ ['\''])

def quotedWord (word : String) : String := String.ofList (quotedChars word.toList)

def quotedLine (words : List String) : String := " ".intercalate (words.map quotedWord)

theorem splitFrom_quotedChar (c : Char) (word rest : List Char) :
    splitFrom (.quoted '\'') (some word) (quotedChar c ++ rest) =
      splitFrom (.quoted '\'') (some (word ++ [c])) rest := by
  unfold quotedChar
  split
  · rename_i mark
    subst mark
    -- The quotes around it close and open again, which adds nothing to the word.
    simp [splitFrom, isSeparator, isQuote, extend]
  · rename_i plain
    simp [splitFrom, plain, extend]

theorem splitFrom_quotedBody (chars word rest : List Char) :
    splitFrom (.quoted '\'') (some word) (chars.flatMap quotedChar ++ rest) =
      splitFrom (.quoted '\'') (some (word ++ chars)) rest := by
  -- The word so far is general, since it grows with each character.
  induction chars generalizing word with
  | nil => simp
  | cons c others ih =>
    rw [List.flatMap_cons, List.append_assoc, splitFrom_quotedChar, ih, List.append_assoc]
    rfl

theorem splitFrom_quotedChars (chars rest : List Char) :
    splitFrom .plain none (quotedChars chars ++ rest) = splitFrom .plain (some chars) rest := by
  have opened : splitFrom .plain none (quotedChars chars ++ rest) =
      splitFrom (.quoted '\'') (some []) (chars.flatMap quotedChar ++ '\'' :: rest) := by
    simp [quotedChars, splitFrom, isSeparator, isQuote, extend]
  rw [opened, splitFrom_quotedBody, List.nil_append, splitFrom, if_pos rfl]

theorem splitFrom_space {word rest : List Char} {words : List (List Char)}
    (read : splitFrom .plain none rest = .ok words) :
    splitFrom .plain (some word) (' ' :: rest) = .ok (word :: words) := by
  rw [splitFrom, if_pos (by decide), read]
  rfl

theorem splitFrom_quoted (words : List (List Char)) :
    splitFrom .plain none ([' '].intercalate (words.map quotedChars)) = .ok words := by
  induction words with
  | nil => rfl
  | cons word rest ih =>
    cases rest with
    | nil =>
      have read := splitFrom_quotedChars word []
      rw [List.append_nil] at read
      rw [List.map_singleton, List.intercalate_singleton, read]
      rfl
    | cons next others =>
      rw [List.map_cons] at ih
      rw [List.map_cons, List.map_cons, List.intercalate_cons_cons, List.append_assoc,
        splitFrom_quotedChars]
      exact splitFrom_space ih

theorem split_quotedLine (words : List String) : split (.line (quotedLine words)) = .ok words := by
  have chars : (quotedLine words).toList =
      [' '].intercalate ((words.map String.toList).map quotedChars) := by
    simp [quotedLine, quotedWord, Function.comp_def]
  have read : splitLine (quotedLine words) = .ok words := by
    rw [splitLine, chars, splitFrom_quoted]
    simp [Except.map, Function.comp_def]
  rw [split, read]

/-- A line of quoted words is split into these words, whatever they hold, so directives and loader
options are the same for the line as for the list. -/
theorem quotedLine_reads (words : List String) :
    split (.line (quotedLine words)) = .ok words ∧
    Tokens.ofOptions (some (.line (quotedLine words))) = Tokens.ofOptions (some (.listed words)) ∧
    SourceOptions.loaderOptions (some (.written (.line (quotedLine words)))) =
      SourceOptions.loaderOptions (some (.written (.listed words))) := by
  have tokens : Tokens.ofOptions (some (.line (quotedLine words))) =
      Tokens.ofOptions (some (.listed words)) := by
    rw [Tokens.ofOptions, Tokens.ofOptions, splitOptional, splitOptional, split_quotedLine,
      split_listed]
  refine ⟨split_quotedLine words, tokens, ?_⟩
  rw [SourceOptions.loaderOptions, SourceOptions.loaderOptions, tokens]

end Thumbnailing.OptionWords
