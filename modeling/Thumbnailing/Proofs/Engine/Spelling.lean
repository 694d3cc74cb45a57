import Thumbnailing.Proofs.Directive.Grouping
import Thumbnailing.Proofs.Engine.HandedOn
import Thumbnailing.Proofs.Engine.LoaderArguments

set_option autoImplicit false

namespace Thumbnailing

namespace Directive

theorem symbol_signOf {word : String} (opens : isFlag word = true) :
    (signOf word).symbol.toList = word.toList.take 1 := by
  unfold isFlag at opens
  cases chars : word.toList with
  | nil => simp [chars] at opens
  | cons first rest =>
    simp only [chars, Bool.and_eq_true, isSign, Bool.or_eq_true, beq_iff_eq] at opens
    rcases opens.1 with rfl | rfl <;> simp [signOf, chars, Sign.symbol]

theorem ofFlag_flag (word : String) (arguments : List String) :
    (ofFlag word arguments).flag =
      (signOf word).symbol ++ Magick.loaderFlag (canonicalName word) := by
  rw [flag, ofFlag, writtenName_eq, writtenChars_canonical, Magick.loaderFlag, canonicalName_eq,
    String.toList_ofList]

theorem ofFlag_key (word : String) (arguments : List String) :
    (ofFlag word arguments).key =
      String.ofList ((canonicalName word).toList.dropWhile isMark) := by
  rw [key, ofFlag, writtenName_eq, canonicalName_eq, canonicalName_eq, String.toList_ofList,
    String.toList_ofList, canonicalChars_writtenChars]

theorem ofFlag_key_iff (word : String) (arguments : List String) :
    (ofFlag word arguments).key = canonicalName word ↔
      (canonicalName word).toList.head? ≠ some '_' := by
  rw [ofFlag_key, ← String.toList_inj, String.toList_ofList, canonicalName_eq,
    String.toList_ofList, dropWhile_isMark_iff]

end Directive

namespace Vocabulary

def Spells (word : String) : Prop :=
  ∃ (sign : Sign) (name : String), Directive.canonicalName name = name ∧ isAllowed name = true ∧
    word = sign.symbol ++ Magick.loaderFlag name

theorem isAllowed_canonicalName (name : String) :
    isAllowed (Directive.canonicalName name) = isAllowed name := by
  rw [isAllowed, Directive.canonicalName_canonicalName, isAllowed]

theorem loaderFlag_injective {left right : String}
    (leftCanonical : Directive.canonicalName left = left)
    (rightCanonical : Directive.canonicalName right = right)
    (same : Magick.loaderFlag left = Magick.loaderFlag right) : left = right := by
  have kept {name : String} (canonical : Directive.canonicalName name = name) :
      (Magick.loaderFlag name).toList.map Directive.underscoreOfHyphen = name.toList :=
    calc (Magick.loaderFlag name).toList.map Directive.underscoreOfHyphen
        = name.toList.map Directive.underscoreOfHyphen := by
          simp [Magick.loaderFlag, Function.comp_def, Directive.underscore_hyphen]
      _ = name.toList :=
          Directive.chars_of_canonical canonical ▸ Directive.canonicalChars_underscored name.toList
  rw [← String.toList_inj, ← kept leftCanonical, ← kept rightCanonical, same]

theorem isAllowed_iff_spells (word : String) (arguments : List String) :
    isAllowed word = true ↔ Spells (Directive.ofFlag word arguments).flag := by
  rw [Directive.ofFlag_flag]
  constructor
  · intro allowed
    exact ⟨Directive.signOf word, Directive.canonicalName word,
      Directive.canonicalName_canonicalName word, by rwa [isAllowed_canonicalName], rfl⟩
  · rintro ⟨sign, name, canonical, allowed, same⟩
    have behind : Magick.loaderFlag (Directive.canonicalName word) = Magick.loaderFlag name := by
      have chars := congrArg String.toList same
      rw [String.toList_append, String.toList_append] at chars
      have long (sign : Sign) : sign.symbol.toList.length = 1 := by cases sign <;> rfl
      exact String.toList_inj.mp (List.append_inj chars ((long _).trans (long _).symm)).2
    have named := loaderFlag_injective (Directive.canonicalName_canonicalName word) canonical behind
    rw [← isAllowed_canonicalName, named]
    exact allowed

theorem allowed_noUnderscore {word : String} (allowed : isAllowed word = true) :
    (Directive.canonicalName word).toList.head? ≠ some '_' := by
  obtain ⟨first, rest, chars, plain, -⟩ := allowedNames_head (List.contains_iff_mem.mp allowed)
  simpa [chars] using plain

end Vocabulary

structure Directive.IsNamedBy (directive : Directive) (word : String) : Prop where
  flag : directive.flag = String.ofList (word.toList.take 1) ++
    String.ofList ((canonicalName word).toList.map hyphenOfUnderscore)
  key : directive.key = String.ofList ((canonicalName word).toList.dropWhile isMark)
  kept : directive.key = canonicalName word ↔ (canonicalName word).toList.head? ≠ some '_'
  spelled : Vocabulary.isAllowed word = true ↔ Vocabulary.Spells directive.flag

theorem Directive.ofFlag_isNamedBy {word : String} (arguments : List String)
    (opens : isFlag word = true) : (ofFlag word arguments).IsNamedBy word where
  flag := by
    rw [ofFlag_flag, ← symbol_signOf opens, String.ofList_toList]
    rfl
  key := ofFlag_key word arguments
  kept := ofFlag_key_iff word arguments
  spelled := Vocabulary.isAllowed_iff_spells word arguments

namespace Engine

theorem wordsOf_head (directive : Directive) :
    (wordsOf directive).head? = some directive.flag ↔
      Vocabulary.isAllowed directive.key = true := by
  unfold wordsOf
  split
  · rename_i allowed
    simp [allowed, keptWords]
  · rename_i disallowed
    simp [disallowed]

/-- The directive of a flag is written with the name of the flag, and is looked up by this name
without the underscores in front. So its flag is handed on just where the one it was read from is
allowed, unless there is an underscore in front of a name that is allowed without it. -/
theorem applyDirective_spelling (settings : Settings) (before after : List String) {word : String}
    (opens : Directive.isFlag word = true) (world : World) (command : MagickCommand) :
    ∃ tokens directive outcome records words,
      Tokens.ofOptions (some (.listed (before ++ word :: after))) = .ok tokens ∧
      tokens.directives =
        Tokens.directivesOf before ++ directive :: Tokens.directivesOf after ∧
      directive.IsNamedBy word ∧
      (applyDirective ⟨.imageMagick, settings⟩ directive).run ⟨world, some (.magick command)⟩ =
        (.ok outcome, ⟨world.append records, some (.magick (command.addWords words))⟩) ∧
      (words.head? = some directive.flag ↔ Vocabulary.isAllowed directive.key = true) ∧
      ((words.head? = some directive.flag ↔ Vocabulary.isAllowed word = true) ↔
        ¬ ((Directive.canonicalName word).toList.head? = some '_' ∧
          Vocabulary.isAllowed directive.key = true)) := by
  let directive := Directive.ofFlag word (Tokens.bareFront after)
  have named : directive.IsNamedBy word := Directive.ofFlag_isNamedBy _ opens
  obtain ⟨records, applied⟩ := run_applyDirective settings directive world command
  refine ⟨_, directive, _, records, _, rfl, Tokens.directivesOf_append before after opens, named,
    applied, wordsOf_head directive, ?_⟩
  rw [wordsOf_head]
  by_cases front : (Directive.canonicalName word).toList.head? = some '_'
  · have disallowed : ¬ Vocabulary.isAllowed word = true := fun allowed =>
      Vocabulary.allowed_noUnderscore allowed front
    simp [front, disallowed]
  · have same : Vocabulary.isAllowed directive.key = Vocabulary.isAllowed word := by
      rw [named.kept.mpr front, Vocabulary.isAllowed_canonicalName]
    simp [front, same]

theorem blur_spelled :
    Directive.isFlag "-Gaussian_Blur" = true ∧
    ∃ directive outcome after words,
      directive.flag = "-gaussian-blur" ∧ directive.key = "gaussian_blur" ∧
      (applyDirective ⟨.imageMagick, Settings.standard⟩ directive).run
          ⟨World.plain, some (.magick (Magick.load none []))⟩ =
        (.ok outcome, ⟨after, some (.magick ((Magick.load none []).addWords words))⟩) ∧
      words.head? = some "-gaussian-blur" := by
  have opens : Directive.isFlag "-Gaussian_Blur" = true := by decide +kernel
  obtain ⟨tokens, directive, outcome, records, words, -, -, named, applied, handed, -⟩ :=
    applyDirective_spelling Settings.standard ["-strip"] ["0x2", "-flip"] opens World.plain
      (Magick.load none [])
  have flag : directive.flag = "-gaussian-blur" := named.flag.trans (by decide +kernel)
  have key : directive.key = "gaussian_blur" :=
    (named.kept.mpr (by decide +kernel)).trans (by decide +kernel)
  have allowed : Vocabulary.isAllowed directive.key = true := by
    rw [key]
    decide +kernel
  exact ⟨opens, directive, outcome, _, words, flag, key, applied, flag ▸ handed.mpr allowed⟩

/-- A name with an underscore in front loses it with the sign it is written as, so it is looked up
as another name. -/
theorem underscore_taken_for_sign :
    ¬ ∀ (before after : List String) (word : String) (directive : Directive),
      Directive.isFlag word = true →
      (Tokens.ofWords (before ++ word :: after)).directives =
        Tokens.directivesOf before ++ directive :: Tokens.directivesOf after →
      directive.key = Directive.canonicalName word ∧
      directive.flag = String.ofList (word.toList.take 1) ++
        String.ofList ((Directive.canonicalName word).toList.map Directive.hyphenOfUnderscore) ∧
      (Vocabulary.isAllowed word = true ↔ Vocabulary.Spells directive.flag) := by
  intro claimed
  have named := claimed [] ["10x10"] "-_resize" ⟨"-resize", some "10x10", .minus, []⟩
    (by decide +kernel) (by decide +kernel)
  exact absurd named.1 (by decide +kernel)

end Engine

end Thumbnailing
