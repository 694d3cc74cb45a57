import Thumbnailing.Proofs.Directive.Grouping
import Thumbnailing.Proofs.Directive.Names

set_option autoImplicit false

namespace Thumbnailing

open Text

namespace Directive

def words (directive : Directive) : List String := directive.flag :: directive.arguments

/-- A directive whose words stand for nothing else. -/
structure IsPlain (directive : Directive) : Prop where
  small : lowercase directive.name = directive.name
  hyphened : '_' ∉ directive.name.toList
  unsigned : ∀ first, directive.name.toList.head? = some first → isSign first = false
  noNumber : ∀ first, directive.name.toList.head? = some first → isDecimalDigit first = false
  bareValue : ∀ word, directive.value = some word → isFlag word = false
  bareExtra : ∀ word ∈ directive.extra, isFlag word = false
  valued : directive.value = none → directive.extra = []

theorem signOf_flag (directive : Directive) : signOf directive.flag = directive.sign := by
  cases signed : directive.sign <;>
    simp [signOf, flag, signed, Sign.symbol, String.toList_append]

theorem isFlag_flag (directive : Directive) :
    isFlag directive.flag = true ↔
      ∀ first, directive.name.toList.head? = some first → isDecimalDigit first = false := by
  obtain ⟨sign, signed, chars⟩ := flag_chars directive
  cases name : directive.name.toList <;> simp [isFlag, chars, signed, name]

theorem writtenName_flag_iff (directive : Directive) :
    writtenName directive.flag = directive.name ↔
      lowercase directive.name = directive.name ∧ '_' ∉ directive.name.toList ∧
        ∀ first, directive.name.toList.head? = some first → isSign first = false := by
  obtain ⟨sign, signed, chars⟩ := flag_chars directive
  have written : writtenChars directive.flag.toList = writtenChars directive.name.toList := by
    rw [chars, writtenChars, withoutSigns_sign _ signed, writtenChars]
  rw [writtenName_eq, written, lowercase, ← String.toList_inj, ← String.toList_inj,
    String.toList_ofList, String.toList_ofList, writtenChars_eq_self_iff]

theorem mem_arguments {directive : Directive} {word : String} :
    word ∈ directive.arguments ↔ directive.value = some word ∨ word ∈ directive.extra := by
  cases value : directive.value <;> simp [arguments, value, eq_comm]

theorem arguments_split (directive : Directive) :
    directive.arguments.head? = directive.value ∧ directive.arguments.tail = directive.extra ↔
      (directive.value = none → directive.extra = []) := by
  cases value : directive.value <;> cases extra : directive.extra <;>
    simp [arguments, value, extra]

theorem ofFlag_eq_self_iff (directive : Directive) :
    ofFlag directive.flag directive.arguments = directive ↔
      writtenName directive.flag = directive.name ∧
        (directive.value = none → directive.extra = []) := by
  rw [← arguments_split]
  obtain ⟨name, value, sign, extra⟩ := directive
  simp only [ofFlag, mk.injEq, signOf_flag, true_and]

theorem isPlain_iff (directive : Directive) :
    directive.IsPlain ↔ isFlag directive.flag = true ∧
      (∀ word ∈ directive.arguments, isFlag word = false) ∧
      ofFlag directive.flag directive.arguments = directive := by
  rw [isFlag_flag, ofFlag_eq_self_iff, writtenName_flag_iff]
  constructor
  · intro plain
    refine ⟨plain.noNumber, fun word member => ?_, ⟨plain.small, plain.hyphened, plain.unsigned⟩,
      plain.valued⟩
    rcases mem_arguments.mp member with first | later
    · exact plain.bareValue word first
    · exact plain.bareExtra word later
  · rintro ⟨noNumber, bare, ⟨small, hyphened, unsigned⟩, valued⟩
    exact ⟨small, hyphened, unsigned, noNumber,
      fun word first => bare word (mem_arguments.mpr (.inl first)),
      fun word later => bare word (mem_arguments.mpr (.inr later)), valued⟩

end Directive

namespace Tokens

theorem ofWords_eq_iff {words stray : List String} {directives : List Directive} :
    ofWords words = ⟨stray, directives⟩ ↔
      bareFront words = stray ∧ directivesOf words = directives := by
  rw [ofWords, mk.injEq]
  exact Iff.rfl

theorem bareFront_eq_nil_iff {word : String} (rest : List String) :
    bareFront (word :: rest) = [] ↔ Directive.isFlag word = true := by
  simp [bareFront, List.takeWhile_cons]

theorem ofWords_flatMap_iff (directives : List Directive) :
    ofWords (directives.flatMap Directive.words) = ⟨[], directives⟩ ↔
      ∀ directive ∈ directives, directive.IsPlain := by
  induction directives with
  | nil => simp [ofWords, directivesOf]
  | cons directive rest ih =>
    have front : (directive :: rest).flatMap Directive.words =
      directive.flag :: (directive.arguments ++ rest.flatMap Directive.words) := rfl
    rw [front, List.forall_mem_cons, Directive.isPlain_iff, ← ih, ofWords_eq_iff, ofWords_eq_iff,
      bareFront_eq_nil_iff]
    constructor
    · rintro ⟨opens, read⟩
      rw [directivesOf_flag _ opens, List.cons.injEq] at read
      obtain ⟨same, later⟩ := read
      -- The directive takes the words up to the next flag, and these are all it was written with.
      have taken : bareFront (directive.arguments ++ rest.flatMap Directive.words) =
          directive.arguments := by
        have arguments := congrArg Directive.arguments same
        rwa [Directive.ofFlag_arguments] at arguments
      have bare : ∀ word ∈ directive.arguments, Directive.isFlag word = false :=
        taken ▸ bare_of_mem_bareFront
      rw [taken] at same
      rw [directivesOf_words _ bare] at later
      rw [bareFront_words _ bare, List.append_right_eq_self] at taken
      exact ⟨⟨opens, bare, same⟩, taken, later⟩
    · rintro ⟨⟨opens, bare, same⟩, stray, later⟩
      refine ⟨opens, ?_⟩
      rw [directivesOf_flag _ opens, bareFront_words _ bare, stray, List.append_nil, same,
        directivesOf_words _ bare, later]

/-- Directives written one after the other are read as they were, without a warning, exactly if
every one of them is plain: its name is in small letters with hyphens and starts neither with a
sign nor with a digit, none of its words is a flag, and it has no further words without a value. -/
theorem ofOptions_flatMap_iff (directives : List Directive) :
    (∃ tokens, ofOptions (some (.listed (directives.flatMap Directive.words))) = .ok tokens ∧
      tokens.directives = directives ∧ tokens.warnings = []) ↔
      ∀ directive ∈ directives, directive.IsPlain := by
  rw [← ofWords_flatMap_iff]
  constructor
  · rintro ⟨tokens, read, rfl, silent⟩
    have stray : tokens.stray = [] := List.map_eq_nil_iff.mp silent
    rw [← stray]
    exact Except.ok.inj read
  · intro read
    exact ⟨_, congrArg Except.ok read, rfl, rfl⟩

end Tokens

end Thumbnailing
