import Thumbnailing.Directive.Vocabulary
import Thumbnailing.Proofs.Text.LetterCase

set_option autoImplicit false

namespace Thumbnailing.Directive

open Text

theorem isSign_of_large {c : Char} (large : 97 ≤ c.toNat) : isSign c = false := by
  have notHyphen : c ≠ '-' := by
    rintro rfl
    exact absurd large (by decide)
  have notPlus : c ≠ '+' := by
    rintro rfl
    exact absurd large (by decide)
  simp [isSign, notHyphen, notPlus]

theorem withoutSigns_sign {sign : Char} (name : List Char) (signed : isSign sign = true) :
    withoutSigns (sign :: name) = withoutSigns name := by
  simp [withoutSigns, signed]

theorem withoutSigns_of_head {name : List Char}
    (head : ∀ c, name.head? = some c → isSign c = false) : withoutSigns name = name := by
  cases name with
  | nil => rfl
  | cons c rest => simp [withoutSigns, head c rfl]

theorem withoutSigns_head {name : List Char} {c : Char}
    (first : (withoutSigns name).head? = some c) : isSign c = false := by
  have front := List.head?_dropWhile_not isSign name
  rwa [← withoutSigns, first] at front

theorem isSign_underscoreOfHyphen {c : Char} (plain : isSign c = false) :
    isSign (underscoreOfHyphen c) = false := by
  unfold underscoreOfHyphen
  split
  · decide
  · exact plain

theorem underscoreOfHyphen_twice (c : Char) :
    underscoreOfHyphen (underscoreOfHyphen c) = underscoreOfHyphen c := by
  unfold underscoreOfHyphen
  split <;> simp_all

theorem underscore_settled {c : Char} (settled : IsSettled c) :
    IsSettled (underscoreOfHyphen c) := by
  unfold underscoreOfHyphen
  split
  · exact ⟨by decide, by decide, rfl⟩
  · exact settled

theorem hyphen_settled {c : Char} (settled : IsSettled c) : IsSettled (hyphenOfUnderscore c) := by
  unfold hyphenOfUnderscore
  split
  · exact ⟨by decide, by decide, rfl⟩
  · exact settled

theorem underscore_hyphen (c : Char) :
    underscoreOfHyphen (hyphenOfUnderscore c) = underscoreOfHyphen c := by
  unfold hyphenOfUnderscore
  split
  · rename_i underscore
    rw [underscore]
    rfl
  · rfl

theorem hyphen_underscore (c : Char) :
    hyphenOfUnderscore (underscoreOfHyphen c) = hyphenOfUnderscore c := by
  unfold underscoreOfHyphen
  split
  · rename_i hyphen
    rw [hyphen]
    rfl
  · rfl

theorem hyphenOfUnderscore_ne (c : Char) : hyphenOfUnderscore c ≠ '_' := by
  unfold hyphenOfUnderscore
  split
  · decide
  · assumption

def isMark (c : Char) : Bool := c == '_' || isSign c

theorem isSign_hyphenOfUnderscore (c : Char) : isSign (hyphenOfUnderscore c) = isMark c := by
  unfold hyphenOfUnderscore isMark
  split <;> simp_all [isSign]

theorem isMark_underscoreOfHyphen (c : Char) : isMark (underscoreOfHyphen c) = isMark c := by
  rw [← isSign_hyphenOfUnderscore, hyphen_underscore, isSign_hyphenOfUnderscore]

theorem lowered_head {name : List Char} {c : Char}
    (first : (lowercaseChars (withoutSigns name)).head? = some c) :
    isSign c = false ∧ (c = '_' → '_' ∈ name) := by
  -- Lowercasing may change the first letter, but only into another letter.
  rcases h : withoutSigns name with _ | ⟨d, rest⟩
  · rw [h] at first
    cases first
  · have plain : isSign d = false := withoutSigns_head (by rw [h]; rfl)
    have inside : d ∈ name := by
      have member : d ∈ withoutSigns name := h ▸ List.mem_cons_self
      exact (List.dropWhile_sublist isSign).subset member
    obtain ⟨small, others, lowered, same | large⟩ := lowercaseChars_head d rest
    · rw [h, lowered, same] at first
      cases first
      exact ⟨plain, fun underscore => underscore ▸ inside⟩
    · rw [h, lowered] at first
      cases first
      refine ⟨isSign_of_large large, ?_⟩
      rintro rfl
      exact absurd large (by decide)

def canonicalChars (name : List Char) : List Char :=
  (lowercaseChars (withoutSigns name)).map underscoreOfHyphen

theorem canonicalChars_sign {sign : Char} (name : List Char) (signed : isSign sign = true) :
    canonicalChars (sign :: name) = canonicalChars name := by
  rw [canonicalChars, withoutSigns_sign name signed, canonicalChars]

theorem canonicalName_eq (name : String) :
    canonicalName name = String.ofList (canonicalChars name.toList) := rfl

theorem canonicalChars_head {name : List Char} {c : Char}
    (first : (canonicalChars name).head? = some c) : isSign c = false := by
  rw [canonicalChars, List.head?_map] at first
  obtain ⟨d, head, rfl⟩ := Option.map_eq_some_iff.mp first
  exact isSign_underscoreOfHyphen (lowered_head head).1

theorem canonicalChars_settled {name : List Char} : ∀ c ∈ canonicalChars name, IsSettled c := by
  intro c member
  obtain ⟨d, inside, rfl⟩ := List.mem_map.mp member
  exact underscore_settled (mem_lowercaseFrom inside).1

theorem canonicalChars_underscored (name : List Char) :
    (canonicalChars name).map underscoreOfHyphen = canonicalChars name := by
  simp [canonicalChars, underscoreOfHyphen_twice]

theorem canonicalChars_canonicalChars (name : List Char) :
    canonicalChars (canonicalChars name) = canonicalChars name := by
  -- The signs are gone, all letters are small, and no hyphen is left to replace.
  have lowered : lowercaseChars (canonicalChars name) = canonicalChars name :=
    lowercaseFrom_of_settled [] canonicalChars_settled
  rw [show canonicalChars (canonicalChars name) =
    (lowercaseChars (withoutSigns (canonicalChars name))).map underscoreOfHyphen from rfl,
    withoutSigns_of_head (fun _ => canonicalChars_head), lowered, canonicalChars_underscored]

theorem canonicalName_canonicalName (name : String) :
    canonicalName (canonicalName name) = canonicalName name := by
  rw [canonicalName_eq, canonicalName_eq, String.toList_ofList, canonicalChars_canonicalChars]

theorem chars_of_canonical {name : String} (canonical : canonicalName name = name) :
    canonicalChars name.toList = name.toList := by
  have same := congrArg String.toList canonical
  rwa [canonicalName_eq, String.toList_ofList] at same

theorem flag_chars (directive : Directive) :
    ∃ sign, isSign sign = true ∧ directive.flag.toList = sign :: directive.name.toList := by
  cases signed : directive.sign with
  | minus => exact ⟨'-', rfl, by simp [flag, signed, Sign.symbol, String.toList_append]⟩
  | plus => exact ⟨'+', rfl, by simp [flag, signed, Sign.symbol, String.toList_append]⟩

theorem canonicalName_flag (directive : Directive) :
    canonicalName directive.flag = directive.key := by
  obtain ⟨sign, signed, chars⟩ := flag_chars directive
  rw [canonicalName_eq, chars, canonicalChars_sign _ signed]
  rfl

def writtenChars (name : List Char) : List Char :=
  (lowercaseChars (withoutSigns name)).map hyphenOfUnderscore

theorem writtenName_eq (name : String) :
    writtenName name = String.ofList (writtenChars name.toList) := rfl

theorem writtenChars_canonical (name : List Char) :
    writtenChars name = (canonicalChars name).map hyphenOfUnderscore := by
  simp [writtenChars, canonicalChars, Function.comp_def, hyphen_underscore]

theorem writtenChars_eq_self_iff (name : List Char) :
    writtenChars name = name ↔
      lowercaseChars name = name ∧ '_' ∉ name ∧
        ∀ first, name.head? = some first → isSign first = false := by
  constructor
  · intro same
    have hyphened : '_' ∉ name := by
      intro inside
      rw [← same] at inside
      obtain ⟨c, -, underscore⟩ := List.mem_map.mp inside
      exact hyphenOfUnderscore_ne c underscore
    refine ⟨lowercaseFrom_of_settled [] fun c inside => ?_, hyphened, fun first head => ?_⟩
    · rw [← same] at inside
      obtain ⟨d, member, rfl⟩ := List.mem_map.mp inside
      exact hyphen_settled (mem_lowercaseFrom member).1
    · rw [← same, writtenChars, List.head?_map] at head
      obtain ⟨d, front, rfl⟩ := Option.map_eq_some_iff.mp head
      obtain ⟨unsigned, present⟩ := lowered_head front
      rw [hyphenOfUnderscore, if_neg fun underscore => hyphened (present underscore)]
      exact unsigned
  · rintro ⟨small, hyphened, unsigned⟩
    have kept : ∀ c ∈ name, hyphenOfUnderscore c = c := by
      intro c inside
      refine if_neg ?_
      rintro rfl
      exact hyphened inside
    rw [writtenChars, withoutSigns_of_head unsigned, small]
    exact (List.map_congr_left kept).trans (List.map_id _)

theorem canonicalChars_hyphened {name : List Char} (settled : ∀ c ∈ name, IsSettled c) :
    canonicalChars (name.map hyphenOfUnderscore) =
      (name.map underscoreOfHyphen).dropWhile isMark := by
  have marks : withoutSigns (name.map hyphenOfUnderscore) =
      (name.dropWhile isMark).map hyphenOfUnderscore := by
    rw [withoutSigns, List.dropWhile_map]
    congr 2
    funext c
    exact isSign_hyphenOfUnderscore c
  have lowered : lowercaseChars ((name.dropWhile isMark).map hyphenOfUnderscore) =
      (name.dropWhile isMark).map hyphenOfUnderscore := by
    refine lowercaseFrom_of_settled [] fun c member => ?_
    obtain ⟨d, inside, rfl⟩ := List.mem_map.mp member
    exact hyphen_settled (settled d ((List.dropWhile_sublist isMark).subset inside))
  have back : isMark ∘ underscoreOfHyphen = isMark := funext isMark_underscoreOfHyphen
  rw [canonicalChars, marks, lowered, List.dropWhile_map, back, List.map_map]
  exact List.map_congr_left fun c _ => underscore_hyphen c

theorem canonicalChars_writtenChars (name : List Char) :
    canonicalChars (writtenChars name) = (canonicalChars name).dropWhile isMark :=
  canonicalChars_hyphened fun _ member => (mem_lowercaseFrom member).1

theorem dropWhile_isMark_iff (name : List Char) :
    (canonicalChars name).dropWhile isMark = canonicalChars name ↔
      (canonicalChars name).head? ≠ some '_' := by
  cases front : canonicalChars name with
  | nil => simp
  | cons c rest =>
    have unsigned : isSign c = false := canonicalChars_head (by rw [front]; rfl)
    by_cases underscore : c = '_'
    · subst underscore
      have shorter : (('_' :: rest).dropWhile isMark).length < ('_' :: rest).length :=
        Nat.lt_succ_of_le (List.dropWhile_sublist (l := rest) isMark).length_le
      refine iff_of_false (fun same => ?_) (by simp)
      exact absurd (congrArg List.length same) (Nat.ne_of_lt shorter)
    · simp [isMark, unsigned, underscore]

theorem canonicalName_written {key : String} (canonical : canonicalName key = key)
    (plain : key.toList.head? ≠ some '_') :
    canonicalName ("-" ++ String.ofList (key.toList.map hyphenOfUnderscore)) = key := by
  have chars : canonicalChars key.toList = key.toList := chars_of_canonical canonical
  have settled : ∀ c ∈ key.toList, IsSettled c := chars ▸ canonicalChars_settled
  have kept : key.toList.map underscoreOfHyphen = key.toList :=
    chars ▸ canonicalChars_underscored key.toList
  have unmarked := dropWhile_isMark_iff key.toList
  rw [chars] at unmarked
  have signed : ("-" ++ String.ofList (key.toList.map hyphenOfUnderscore)).toList =
      '-' :: key.toList.map hyphenOfUnderscore := by simp [String.toList_append]
  rw [canonicalName_eq, signed, canonicalChars_sign _ rfl, canonicalChars_hyphened settled, kept,
    unmarked.mpr plain, String.ofList_toList]

theorem argumentCount_flag (directive : Directive) :
    Vocabulary.argumentCount directive.flag = Vocabulary.argumentCount directive.key := by
  have same : canonicalName directive.flag = canonicalName directive.key := by
    rw [canonicalName_flag, key, canonicalName_canonicalName]
  unfold Vocabulary.argumentCount
  rw [same]

end Thumbnailing.Directive
