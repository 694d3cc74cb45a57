import Thumbnailing.Directive.LoaderOptions

set_option autoImplicit false

namespace Thumbnailing

theorem Directive.isFlag_iff (word : String) :
    isFlag word = true ↔ ∃ sign rest, word.toList = sign :: rest ∧ (sign = '-' ∨ sign = '+') ∧
      ∀ digit, rest.head? = some digit → Text.isDecimalDigit digit = false := by
  unfold isFlag
  cases word.toList with
  | nil => simp
  | cons first rest =>
    constructor
    · intro opens
      refine ⟨first, rest, rfl, ?_⟩
      cases rest <;> simp_all [isSign]
    · rintro ⟨sign, tail, same, signed, plain⟩
      cases same
      cases rest <;> simp_all [isSign]

namespace Tokens

def bareFront (words : List String) : List String :=
  words.takeWhile fun word => !Directive.isFlag word

theorem bareFront_words {front : List String} (rest : List String)
    (bare : ∀ word ∈ front, Directive.isFlag word = false) :
    bareFront (front ++ rest) = front ++ bareFront rest :=
  List.takeWhile_append_of_pos (by simpa using bare)

theorem bare_of_mem_bareFront {words : List String} :
    ∀ word ∈ bareFront words, Directive.isFlag word = false := by
  intro word member
  have all : (bareFront words).all (fun word => !Directive.isFlag word) = true :=
    List.all_takeWhile
  simpa using List.all_eq_true.mp all word member

theorem bareFront_flag {flag : String} (before after : List String)
    (opens : Directive.isFlag flag = true) :
    bareFront (before ++ flag :: after) = bareFront before := by
  induction before with
  | nil => simp [bareFront, opens]
  | cons word rest ih =>
    unfold bareFront at ih ⊢
    rw [List.cons_append, List.takeWhile_cons, List.takeWhile_cons, ih]

theorem directivesOf_flag {flag : String} (rest : List String)
    (opens : Directive.isFlag flag = true) :
    directivesOf (flag :: rest) = .ofFlag flag (bareFront rest) :: directivesOf rest :=
  if_pos opens

theorem directivesOf_word {word : String} (rest : List String)
    (plain : Directive.isFlag word = false) : directivesOf (word :: rest) = directivesOf rest :=
  if_neg (by simp [plain])

theorem directivesOf_words {front : List String} (rest : List String)
    (bare : ∀ word ∈ front, Directive.isFlag word = false) :
    directivesOf (front ++ rest) = directivesOf rest := by
  induction front with
  | nil => rfl
  | cons word others ih =>
    rw [List.cons_append, directivesOf_word _ (bare word List.mem_cons_self)]
    exact ih fun other member => bare other (List.mem_cons_of_mem word member)

theorem directivesOf_append {flag : String} (before after : List String)
    (opens : Directive.isFlag flag = true) :
    directivesOf (before ++ flag :: after) =
      directivesOf before ++ .ofFlag flag (bareFront after) :: directivesOf after := by
  induction before with
  | nil => exact directivesOf_flag after opens
  | cons word rest ih =>
    by_cases first : Directive.isFlag word = true
    · rw [List.cons_append, directivesOf_flag _ first, directivesOf_flag _ first, ih,
        bareFront_flag _ _ opens, List.cons_append]
    · rw [Bool.not_eq_true] at first
      rw [List.cons_append, directivesOf_word _ first, directivesOf_word _ first, ih]

end Tokens

structure FlagGroup where
  flag : String
  arguments : List String
  opens : Directive.isFlag flag = true
  bare : ∀ word ∈ arguments, Directive.isFlag word = false

namespace FlagGroup

def words (group : FlagGroup) : List String := group.flag :: group.arguments

def directive (group : FlagGroup) : Directive := .ofFlag group.flag group.arguments

def opened (flag : String) (opens : Directive.isFlag flag = true) : FlagGroup :=
  ⟨flag, [], opens, by simp⟩

def add (group : FlagGroup) (word : String) (plain : Directive.isFlag word = false) : FlagGroup :=
  ⟨group.flag, group.arguments ++ [word], group.opens, by
    simpa [or_imp, forall_and, plain] using group.bare⟩

@[simp] theorem directive_arguments (group : FlagGroup) :
    group.directive.arguments = group.arguments := Directive.ofFlag_arguments _ _

@[simp] theorem words_add (group : FlagGroup) (word : String)
    (plain : Directive.isFlag word = false) :
    (group.add word plain).words = group.words ++ [word] := rfl

end FlagGroup

@[ext] structure Grouping where
  stray : List String
  groups : List FlagGroup
  bare : ∀ word ∈ stray, Directive.isFlag word = false

namespace Grouping

def words (grouping : Grouping) : List String :=
  grouping.stray ++ grouping.groups.flatMap FlagGroup.words

def tokens (grouping : Grouping) : Tokens :=
  ⟨grouping.stray, grouping.groups.map FlagGroup.directive⟩

end Grouping

namespace Tokens

theorem bareFront_append {front : List String} (groups : List FlagGroup)
    (bare : ∀ word ∈ front, Directive.isFlag word = false) :
    bareFront (front ++ groups.flatMap FlagGroup.words) = front := by
  have stop : bareFront (groups.flatMap FlagGroup.words) = [] := by
    cases groups with
    | nil => rfl
    | cons group rest => simp [bareFront, FlagGroup.words, group.opens]
  rw [bareFront_words _ bare, stop, List.append_nil]

theorem directivesOf_groups (groups : List FlagGroup) :
    directivesOf (groups.flatMap FlagGroup.words) = groups.map FlagGroup.directive := by
  induction groups with
  | nil => rfl
  | cons group rest ih =>
    rw [List.flatMap_cons, FlagGroup.words, List.cons_append, directivesOf_flag _ group.opens,
      bareFront_append rest group.bare, directivesOf_words _ group.bare, ih]
    rfl

theorem ofWords_words (grouping : Grouping) : ofWords grouping.words = grouping.tokens := by
  have stray : (ofWords grouping.words).stray = grouping.stray :=
    bareFront_append grouping.groups grouping.bare
  have directives : (ofWords grouping.words).directives =
      grouping.groups.map FlagGroup.directive := by
    rw [← directivesOf_groups]
    exact directivesOf_words _ grouping.bare
  rw [Grouping.tokens, ← stray, ← directives]

end Tokens

namespace FlagGroup

theorem flatMap_words_injective {left right : List FlagGroup}
    (same : left.flatMap words = right.flatMap words) : left = right := by
  induction left generalizing right with
  | nil => cases right <;> simp_all [words]
  | cons first others ih =>
    cases right with
    | nil => simp [words] at same
    | cons second rest =>
      obtain ⟨flag, arguments, opens, bare⟩ := first
      obtain ⟨otherFlag, otherArguments, otherOpens, otherBare⟩ := second
      simp only [List.flatMap_cons, words, List.cons_append, List.cons.injEq] at same
      obtain ⟨rfl, behind⟩ := same
      -- The arguments end where the next flag stands, so equal words have equal arguments.
      have front := congrArg Tokens.bareFront behind
      rw [Tokens.bareFront_append _ bare, Tokens.bareFront_append _ otherBare] at front
      subst front
      rw [ih (List.append_cancel_left behind)]

end FlagGroup

theorem Grouping.words_injective {left right : Grouping} (same : left.words = right.words) :
    left = right := by
  have front := congrArg Tokens.bareFront same
  rw [words, words, Tokens.bareFront_append _ left.bare,
    Tokens.bareFront_append _ right.bare] at front
  rw [words, words, front] at same
  exact Grouping.ext front (FlagGroup.flatMap_words_injective (List.append_cancel_left same))

def Directive.add (directive : Directive) (word : String) : Directive :=
  if directive.arguments.isEmpty then { directive with value := some word }
  else { directive with extra := directive.extra ++ [word] }

theorem Directive.ofFlag_add (flag : String) (arguments : List String) (word : String) :
    (ofFlag flag arguments).add word = ofFlag flag (arguments ++ [word]) := by
  cases arguments <;> rfl

def Tokens.add (tokens : Tokens) (word : String) : Tokens :=
  if Directive.isFlag word then ⟨tokens.stray, tokens.directives ++ [.ofFlag word []]⟩
  else
    match tokens.directives.getLast? with
    | none => ⟨tokens.stray ++ [word], tokens.directives⟩
    | some last => ⟨tokens.stray, tokens.directives.dropLast ++ [last.add word]⟩

namespace Grouping

def empty : Grouping := ⟨[], [], by simp⟩

def add (grouping : Grouping) (word : String) : Grouping :=
  if opens : Directive.isFlag word = true then
    ⟨grouping.stray, grouping.groups ++ [.opened word opens], grouping.bare⟩
  else
    match grouping.groups.getLast? with
    | none => ⟨grouping.stray ++ [word], grouping.groups, by
        simpa [or_imp, forall_and, opens] using grouping.bare⟩
    | some last =>
      ⟨grouping.stray, grouping.groups.dropLast ++ [last.add word (by simpa using opens)],
        grouping.bare⟩

theorem words_add (grouping : Grouping) (word : String) :
    (grouping.add word).words = grouping.words ++ [word] := by
  -- The groups are taken apart from behind, since only the last one can grow.
  unfold add
  split
  · simp [words, FlagGroup.words, FlagGroup.opened]
  · rcases List.eq_nil_or_concat grouping.groups with none | ⟨before, last, some⟩
    · simp [words, none]
    · simp [words, some]

theorem tokens_add (grouping : Grouping) (word : String) :
    (grouping.add word).tokens = grouping.tokens.add word := by
  unfold add Tokens.add
  split
  · simp [tokens, FlagGroup.directive, FlagGroup.opened]
  · rcases List.eq_nil_or_concat grouping.groups with none | ⟨before, last, some⟩
    · simp [tokens, none]
    · simp [tokens, some, FlagGroup.directive, FlagGroup.add, Directive.ofFlag_add]

def ofWords (words : List String) : Grouping := words.foldl add empty

theorem words_foldl (words : List String) (grouping : Grouping) :
    (words.foldl add grouping).words = grouping.words ++ words := by
  -- The grouping is general, since it grows along the words.
  induction words generalizing grouping with
  | nil => simp
  | cons word rest ih => rw [List.foldl_cons, ih, words_add, List.append_assoc, List.cons_append,
      List.nil_append]

theorem words_ofWords (words : List String) : (ofWords words).words = words :=
  words_foldl words empty

theorem tokens_ofWords (words : List String) :
    (ofWords words).tokens = words.foldl Tokens.add ⟨[], []⟩ :=
  (List.foldl_hom tokens fun grouping word => (tokens_add grouping word).symm).symm

end Grouping

/-- Words are read as directives in groups. There is just one way to part them into words before
the first flag and flags with the words up to the next one. The first are left out, each with a
warning, and the directives are those of the flags with these words as their arguments. One pass
reads them all. -/
theorem Tokens.ofOptions_grouped (words : List String) :
    (∀ word, Directive.isFlag word = true ↔
      ∃ sign rest, word.toList = sign :: rest ∧ (sign = '-' ∨ sign = '+') ∧
        ∀ digit, rest.head? = some digit → Text.isDecimalDigit digit = false) ∧
    ∃ grouping : Grouping,
      (∀ other : Grouping, other.words = words ↔ other = grouping) ∧
      ofOptions (some (.listed words)) = .ok grouping.tokens ∧
      grouping.tokens.directives.map Directive.arguments =
        grouping.groups.map FlagGroup.arguments ∧
      grouping.tokens.warnings = grouping.stray.map (.notAllowed .tokenizer) ∧
      grouping.tokens = words.foldl add ⟨[], []⟩ ∧
      ∀ before flag after, Directive.isFlag flag = true → words = before ++ flag :: after →
        grouping.tokens.directives =
          directivesOf before ++ .ofFlag flag (bareFront after) :: directivesOf after := by
  have read : ofWords words = (Grouping.ofWords words).tokens := by
    rw [← ofWords_words, Grouping.words_ofWords]
  refine ⟨Directive.isFlag_iff, .ofWords words, ?_, congrArg Except.ok read, ?_, rfl,
    Grouping.tokens_ofWords words, ?_⟩
  · intro other
    constructor
    · intro same
      exact Grouping.words_injective (same.trans (Grouping.words_ofWords words).symm)
    · rintro rfl
      exact Grouping.words_ofWords words
  · simp [Grouping.tokens]
  · rintro before flag after opens rfl
    rw [← read]
    exact directivesOf_append before after opens

def mixedWords : List String := ["photo.png", "-90", "-Auto_Orient", "+set", "key", "", "+5", "--"]

theorem mixed_grouped :
    ∃ grouping : Grouping,
      (∀ other : Grouping, other.words = mixedWords ↔ other = grouping) ∧
      Tokens.ofOptions (some (.listed mixedWords)) = .ok grouping.tokens ∧
      grouping.tokens = ⟨["photo.png", "-90"], [⟨"auto-orient", none, .minus, []⟩,
        ⟨"set", some "key", .plus, ["", "+5"]⟩, ⟨"", none, .minus, []⟩]⟩ := by
  obtain ⟨-, grouping, only, read, -⟩ := Tokens.ofOptions_grouped mixedWords
  have computed : Tokens.ofWords mixedWords = ⟨["photo.png", "-90"],
      [⟨"auto-orient", none, .minus, []⟩, ⟨"set", some "key", .plus, ["", "+5"]⟩,
        ⟨"", none, .minus, []⟩]⟩ := by decide +kernel
  exact ⟨grouping, only, read, (Except.ok.inj read).symm.trans computed⟩

end Thumbnailing
