import Mathlib.Data.List.TakeWhile
import Thumbnailing.Proofs.Number.Words
import Thumbnailing.Proofs.Request.Stages
import Thumbnailing.Proofs.World.Plain

set_option autoImplicit false

namespace Thumbnailing

open Text

namespace Text

variable {blank : Char → Bool} {text word : List Char}

structure IsFirstWord (blank : Char → Bool) (text word : List Char) : Prop where
  filled : word ≠ []
  bare : ∀ c ∈ word, blank c = false
  placed : ∃ before after, text = before ++ word ++ after ∧ (∀ c ∈ before, blank c = true) ∧
    ∀ c ∈ after.head?, blank c = true

theorem head_dropWhile {kept : Char → Bool} {c : Char}
    (first : c ∈ (text.dropWhile kept).head?) : kept c = false := by
  have held := List.head?_dropWhile_not kept text
  rw [Option.mem_def.mp first] at held
  exact held

theorem firstWord?_iff : firstWord? blank text = some word ↔ IsFirstWord blank text word := by
  constructor
  · intro found
    unfold firstWord? at found
    cases left : text.dropWhile blank with
    | nil =>
      rw [left] at found
      cases found
    | cons c rest =>
      rw [left] at found
      cases found
      have bare : blank c = false := head_dropWhile (by rw [left]; rfl)
      refine ⟨by simp [bare], fun d member => ?_, ?_⟩
      · simpa using List.all_eq_true.mp List.all_takeWhile d member
      · refine ⟨text.takeWhile blank, (c :: rest).dropWhile fun d => !blank d, ?_,
          List.all_eq_true.mp List.all_takeWhile, fun d last => ?_⟩
        · rw [List.append_assoc, List.takeWhile_append_dropWhile, ← left,
            List.takeWhile_append_dropWhile]
        · simpa using head_dropWhile last
  · rintro ⟨filled, bare, before, after, rfl, front, back⟩
    have behind : after.takeWhile (fun c => !blank c) = [] := by
      cases after with
      | nil => rfl
      | cons c rest => simp [back c rfl]
    unfold firstWord?
    rw [List.append_assoc, List.dropWhile_append_of_pos front, dropWhile_bare filled bare]
    split
    · simp_all
    · rw [List.takeWhile_append_of_pos (by simpa using bare), behind, List.append_nil]

theorem IsFirstWord.unique {other : List Char} (first : IsFirstWord blank text word)
    (also : IsFirstWord blank text other) : other = word :=
  Option.some.inj ((firstWord?_iff.mpr also).symm.trans (firstWord?_iff.mpr first))

end Text

namespace Magick

variable {output : Bytes}

/-- The output starts with a decimal numeral that is larger than one. -/
def CountsSeveral (output : Bytes) : Prop :=
  ∃ word, IsFirstWord isBlank (decodeUtf8 output) word ∧ IsDigitRun word ∧ 1 < runValue word

/-- The output starts with a word that passes for a number but cannot be read as one: some of its
signs are no decimal digits, or there are too many. -/
def IsMisread (output : Bytes) : Prop :=
  ∃ word, IsFirstWord isBlank (decodeUtf8 output) word ∧ (∀ c ∈ word, isDigitLike c = true) ∧
    (IsDigitRun word → digitLimit < word.length)

def askFrames (settings : Settings) (path : Path) : Task World Bytes :=
  runTool settings "identify" ["-format", CommandKind.frameCountFormat, path.text]

theorem frameCount_cases (output : Bytes) :
    (IsMisread output ∧ ∃ fault, frameCount output = .error (.numeral fault)) ∨
      (¬ IsMisread output ∧
        ∃ count, frameCount output = .ok count ∧ (1 < count ↔ CountsSeveral output)) := by
  cases found : firstWord? isBlank (decodeUtf8 output) with
  | none =>
    have wordless (word : List Char) : ¬ IsFirstWord isBlank (decodeUtf8 output) word := by
      rw [← firstWord?_iff, found]
      nofun
    refine .inr ⟨fun ⟨word, first, _⟩ => wordless word first, 1, by rw [frameCount, found], ?_⟩
    exact iff_of_false (by decide) fun ⟨word, first, _⟩ => wordless word first
  | some word =>
    have first := firstWord?_iff.mp found
    have counted : frameCount output = if word.all isDigitLike then
        numerically (integerOfText (String.ofList word)) else .ok 1 := by rw [frameCount, found]
    by_cases like : word.all isDigitLike = true
    · rw [counted, if_pos like]
      have like := List.all_eq_true.mp like
      by_cases digits : IsDigitRun word
      · rw [integerOfText_run first.filled digits]
        by_cases long : digitLimit < word.length
        · rw [if_pos long]
          exact .inl ⟨⟨word, first, like, fun _ => long⟩, _, rfl⟩
        · rw [if_neg long]
          refine .inr ⟨?_, runValue word, rfl, fun several => ?_, ?_⟩
          · rintro ⟨other, also, -, misread⟩
            cases first.unique also
            exact long (misread digits)
          · exact ⟨word, first, digits, by omega⟩
          · rintro ⟨other, also, -, several⟩
            cases first.unique also
            omega
      · obtain ⟨fault, refused⟩ := integerOfText_signs first.filled like digits
        rw [refused]
        exact .inl ⟨⟨word, first, like, fun run => absurd run digits⟩, fault, rfl⟩
    · rw [counted, if_neg like]
      refine .inr ⟨?_, 1, rfl, iff_of_false (by decide) ?_⟩
      · rintro ⟨other, also, signs, -⟩
        cases first.unique also
        exact like (List.all_eq_true.mpr signs)
      · rintro ⟨other, also, digits, -⟩
        cases first.unique also
        exact like (List.all_eq_true.mpr fun c member =>
          digitLike_of_decimalDigit (digits c member))

end Magick

namespace Thumbnail

variable {thumbnail : Thumbnail} {progress : Progress}

/-- A failure of the service or of the files, other than that there is no engine. -/
def IsFallenBackOn (failure : Failure) : Prop :=
  failure.isStorage = true ∨ ∃ kind, failure.kind? = some kind ∧ kind ≠ .engineUnavailable

theorem canSniffInstead_iff (failure : Failure) :
    canSniffInstead failure = true ↔ IsFallenBackOn failure := by
  cases failure <;> simp [canSniffInstead, IsFallenBackOn, Failure.isStorage, Failure.kind?]

section Asking

variable {path : Path} {after : World} (isMagick : thumbnail.engine.kind = .imageMagick)
  (isSet : thumbnail.path = some path) (unknown : progress.animatedSource = none)

include isMagick isSet

theorem run_engine_countFrames {answer : Outcome Bytes} {world : World}
    (asked : (Magick.askFrames thumbnail.engine.settings path).run world = (answer, after)) :
    (thumbnail.engine.countFrames thumbnail.path).run world =
      (answer >>= Magick.frameCount, after) := by
  have counts : thumbnail.engine.countFrames thumbnail.path =
      (Magick.askFrames thumbnail.engine.settings path >>= fun output =>
        .ofOutcome (Magick.frameCount output)) := by
    simp only [Engine.countFrames, isMagick, isSet]
    rfl
  rw [counts, Task.run_bind, asked]
  cases answer <;> rfl

include unknown

theorem detectAnimatedSource_read {output : Bytes}
    (asked : (Magick.askFrames thumbnail.engine.settings path).run progress.world =
      (.ok output, after)) (read : ¬ Magick.IsMisread output) :
    ∃ animated, (animated = true ↔ Magick.CountsSeveral output) ∧
      thumbnail.detectAnimatedSource.run progress =
        (.ok animated, { progress with world := after, animatedSource := some animated }) := by
  have ends := run_engine_countFrames isMagick isSet asked
  rcases Magick.frameCount_cases output with ⟨misread, -⟩ | ⟨-, count, counted, several⟩
  · exact absurd misread read
  · have found : (Except.ok output >>= Magick.frameCount) = .ok count := counted
    rw [found] at ends
    refine ⟨decide (1 < count), by rw [decide_eq_true_iff, several], ?_⟩
    rw [run_detectAnimatedSource unknown, run_countFrames_counted ends]
    rfl

theorem detectAnimatedSource_misread {output : Bytes}
    (asked : (Magick.askFrames thumbnail.engine.settings path).run progress.world =
      (.ok output, after)) (misread : Magick.IsMisread output) :
    ∃ fault, thumbnail.detectAnimatedSource.run progress =
      (.error (.numeral fault), { progress with world := after }) := by
  have ends := run_engine_countFrames isMagick isSet asked
  rcases Magick.frameCount_cases output with ⟨-, fault, refused⟩ | ⟨read, -⟩
  · have failed : (Except.ok output >>= Magick.frameCount) = .error (.numeral fault) := refused
    rw [failed] at ends
    refine ⟨fault, ?_⟩
    rw [run_detectAnimatedSource unknown, run_countFrames_failed ends, if_neg nofun, unknown]
    rfl
  · exact absurd misread read

theorem detectAnimatedSource_failed {failure : Failure}
    (asked : (Magick.askFrames thumbnail.engine.settings path).run progress.world =
      (.error failure, after)) :
    thumbnail.detectAnimatedSource.run progress =
      if canSniffInstead failure then
        (((sniff (some path)).run after).1,
          { progress with
            world := after.append [fallbackRecord failure]
            animatedSource := ((sniff (some path)).run after).1.toOption })
      else (.error failure, { progress with world := after }) := by
  have ends := run_engine_countFrames isMagick isSet asked
  rw [run_detectAnimatedSource unknown, run_countFrames_failed ends, isSet]
  split
  · rfl
  · rw [unknown]
    rfl

end Asking

/-- What the tool of ImageMagick puts out decides whether there are several frames, unless it is
misread. Where the tool fails, the header decides, unless there is no engine or the failure is none
of the service or of the files. -/
theorem detectAnimatedSource_asks {path : Path} (isMagick : thumbnail.engine.kind = .imageMagick)
    (isSet : thumbnail.path = some path) (unknown : progress.animatedSource = none) :
    (∀ output after, (Magick.askFrames thumbnail.engine.settings path).run progress.world =
        (.ok output, after) →
      (¬ Magick.IsMisread output → ∃ animated, (animated = true ↔ Magick.CountsSeveral output) ∧
        thumbnail.detectAnimatedSource.run progress =
          (.ok animated, { progress with world := after, animatedSource := some animated })) ∧
      (Magick.IsMisread output → ∃ fault, thumbnail.detectAnimatedSource.run progress =
        (.error (.numeral fault), { progress with world := after }))) ∧
    (∀ failure after, (Magick.askFrames thumbnail.engine.settings path).run progress.world =
        (.error failure, after) →
      (IsFallenBackOn failure → thumbnail.detectAnimatedSource.run progress =
        (((sniff (some path)).run after).1,
          { progress with
            world := after.append [fallbackRecord failure]
            animatedSource := ((sniff (some path)).run after).1.toOption })) ∧
      (¬ IsFallenBackOn failure → thumbnail.detectAnimatedSource.run progress =
        (.error failure, { progress with world := after }))) := by
  refine ⟨fun output after asked => ⟨?_, ?_⟩, fun failure after asked => ?_⟩
  · exact detectAnimatedSource_read isMagick isSet unknown asked
  · exact detectAnimatedSource_misread isMagick isSet unknown asked
  · rw [detectAnimatedSource_failed isMagick isSet unknown asked, ← canSniffInstead_iff]
    exact ⟨fun fallen => if_pos fallen, fun raised => if_neg raised⟩

theorem three_frames_seen :
    ∃ after, plain.detectAnimatedSource.run (.start .animated) =
      (.ok true, ⟨after, none, [], some true⟩) := by
  have first : IsFirstWord isBlank (decodeUtf8 [0x33, 0x0A]) ['3'] := firstWord?_iff.mp rfl
  have read : ¬ Magick.IsMisread [0x33, 0x0A] := by
    rintro ⟨word, also, -, misread⟩
    rw [first.unique also] at misread
    exact absurd (misread (by decide)) (by decide)
  have asks := @detectAnimatedSource_asks plain (.start .animated) _ rfl rfl rfl
  obtain ⟨animated, several, ran⟩ := (asks.1 [0x33, 0x0A] _ rfl).1 read
  have counted : Magick.CountsSeveral [0x33, 0x0A] := ⟨['3'], first, by decide, by decide⟩
  rw [several.mpr counted] at ran
  exact ⟨_, ran⟩

def superscriptCount : World :=
  { World.plain with machine := { Machine.plain with
      replies := { Machine.plainReplies with frames := .output [0xC2, 0xB2] } } }

theorem superscript_count_escapes :
    (∃ after, (Magick.askFrames plain.engine.settings ⟨.absolute, ["work", "a.png"]⟩).run
      superscriptCount = (.ok [0xC2, 0xB2], after)) ∧
    ∃ fault after, plain.detectAnimatedSource.run (.start superscriptCount) =
      (.error (.numeral fault), after) := by
  have misread : Magick.IsMisread [0xC2, 0xB2] := by
    have like : isDigitLike '²' = true := by simp [isDigitLike, digitSigns]
    refine ⟨['²'], firstWord?_iff.mp (by decide +kernel), by simp [like], fun digits => ?_⟩
    exact absurd digits (by decide)
  obtain ⟨fault, ran⟩ :=
    @detectAnimatedSource_misread plain (.start superscriptCount) _ _ rfl rfl rfl _ rfl misread
  exact ⟨⟨_, rfl⟩, fault, _, ran⟩

end Thumbnail

end Thumbnailing
