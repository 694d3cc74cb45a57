import Thumbnailing.Proofs.Format.Chunks
import Thumbnailing.Proofs.World.Files
import Thumbnailing.Proofs.World.Plain
import Thumbnailing.Request.Making

set_option autoImplicit false

namespace Thumbnailing

namespace Bytes

theorem isTagAt_take {bytes : Bytes} {limit offset : Nat} {tag : String}
    (inside : offset + tag.length ≤ limit) :
    isTagAt (bytes.take limit) offset tag = bytes.isTagAt offset tag := by
  rw [isTagAt, isTagAt, slice_take bytes inside]

end Bytes

namespace Png

variable {content : Bytes} {limit : Nat}

theorem turn_take (content : Bytes) (limit offset : Nat) :
    turn (content.take limit) offset =
      if offset + 8 ≤ limit then turn content offset else .stops false := by
  by_cases inside : offset + 8 ≤ limit
  · have kind := Bytes.slice_take content (show offset + 4 + 4 ≤ limit by omega)
    have size := Bytes.slice_take content (show offset + 4 ≤ limit by omega)
    have long : offset + 8 ≤ (content.take limit).length ↔ offset + 8 ≤ content.length := by
      rw [List.length_take]
      omega
    simp only [turn, kind, size, long, if_pos inside]
  · rw [if_neg inside, turn, if_neg]
    rw [List.length_take]
    omega

theorem Reaches.le {turns start last : Nat} (reached : Reaches content turns start last) :
    start ≤ last := by
  induction reached with
  | here => exact Nat.le_refl _
  | next onwards _ ih =>
    have further := (turn_advances onwards).2
    omega

theorem reaches_take {turns start last : Nat} (inside : last + 8 ≤ limit) :
    Reaches (content.take limit) turns start last ↔ Reaches content turns start last := by
  constructor
  · intro reached
    induction reached with
    | here => exact .here
    | next onwards _ ih =>
      rw [turn_take] at onwards
      split at onwards
      · exact .next onwards (ih inside)
      · cases onwards
  · intro reached
    induction reached with
    | here => exact .here
    | next onwards rest ih =>
      have further := (turn_advances onwards).2
      have start := rest.le
      refine .next ?_ (ih inside)
      rw [turn_take, if_pos (by omega), onwards]

theorem meetsControl_take {offset : Nat} :
    MeetsControl (content.take limit) offset ↔
      MeetsControl content offset ∧ offset + 8 ≤ limit := by
  unfold MeetsControl
  rw [turn_take]
  by_cases inside : offset + 8 ≤ limit
  · simp only [reaches_take inside, inside, if_true, and_true]
  · simp [inside]

theorem isAnimated_iff (content : Bytes) :
    isAnimated content = true ↔
      hasSignature content = true ∧ ∃ offset, MeetsControl content offset := by
  rw [isAnimated, Bool.and_eq_true, announces_iff]
  rfl

theorem hasSignature_take (content : Bytes) (long : 8 ≤ limit) :
    hasSignature (content.take limit) = hasSignature content := by
  rw [Bool.eq_iff_iff]
  simp only [hasSignature, List.isPrefixOf_iff_prefix, List.prefix_take_iff]
  exact and_iff_left long

end Png

namespace Webp

theorem hasSignature_take {limit : Nat} (content : Bytes) (long : 12 ≤ limit) :
    hasSignature (content.take limit) = hasSignature content := by
  rw [hasSignature, hasSignature, Bytes.isTagAt_take (by exact Nat.le_trans (by decide) long),
    Bytes.isTagAt_take long]

theorem isAnimated_take {limit : Nat} (content : Bytes) (long : 21 ≤ limit) :
    isAnimated (content.take limit) = isAnimated content := by
  have flags : ((content.take limit).drop 20).head? = (content.drop 20).head? := by
    rw [List.drop_take, List.head?_take, if_neg (by omega)]
  rw [isAnimated, isAnimated, hasSignature_take content (by omega), flags,
    Bytes.isTagAt_take (by exact Nat.le_trans (by decide) long)]

end Webp

namespace ImageFormat

variable {content : Bytes}

theorem sniff_png (signed : Png.hasSignature content = true) :
    sniff content = .ok (Png.isAnimated (content.take headerLength)) := by
  have kept := Png.hasSignature_take content (show 8 ≤ headerLength by decide)
  rw [signed] at kept
  have long := (List.isPrefixOf_iff_prefix.mp kept).length_le
  have detected : detect (content.take headerLength) = .ok
      (if Png.announcesAnimation ((content.take headerLength).drop 8) then .apng else .png) := by
    rw [detect, if_neg (by exact Nat.not_lt.mpr (Nat.le_trans (by decide) long)), ofSignature?,
      if_pos kept]
  simp only [sniff, detected, Png.isAnimated, kept, Bool.true_and]
  cases Png.announcesAnimation ((content.take headerLength).drop 8) <;> rfl

theorem detect_webp (signed : Webp.hasSignature content = true) : detect content = .ok .webp := by
  obtain ⟨riff, -⟩ := Bool.and_eq_true_iff.mp signed
  obtain ⟨rest, rfl⟩ : ∃ rest, content = 0x52 :: 0x49 :: 0x46 :: 0x46 :: rest := by
    have start : content.take 4 = [0x52, 0x49, 0x46, 0x46] := beq_iff_eq.mp riff
    exact ⟨content.drop 4, (List.take_append_drop 4 content).symm.trans (by rw [start]; rfl)⟩
  have six : "GIF87a".length = 6 ∧ "GIF89a".length = 6 := ⟨rfl, rfl⟩
  have other : ofSignature? (0x52 :: 0x49 :: 0x46 :: 0x46 :: rest) = some .webp := by
    rw [ofSignature?, if_neg (by simp [Png.hasSignature, Png.signature]), if_neg (by simp),
      if_neg (by simp [Bytes.isTagAt, Bytes.slice, Bytes.ofTag, six]), if_pos signed]
  simp [detect, other]

theorem sniff_webp (signed : Webp.hasSignature content = true) :
    sniff content = .ok (Webp.isAnimated content) := by
  have kept : Webp.hasSignature (content.take headerLength) = true := by
    rw [Webp.hasSignature_take content (by decide), signed]
  have flags := Webp.isAnimated_take content (show 21 ≤ headerLength by decide)
  simp only [sniff, detect_webp kept, flags]

end ImageFormat

namespace Thumbnail

open ImageFormat (headerLength)

theorem sniff_run {path : Path} {world : World} {content : Bytes}
    (readable : ((Files.read path).run world).1 = .ok content) :
    (sniff (some path)).run world = (ImageFormat.sniff content, world) := by
  have kept := Files.read_world path world
  simp only [sniff, Task.run_bind, Task.run_attempt, readable, kept, Task.run_ofOutcome]

/-- Of a WebP file the header tells what the whole file tells. Of a PNG file it tells of an
animation control chunk only if its length and its type lie in the header. -/
theorem sniff_header {path : Path} {world : World} {content : Bytes}
    (readable : ((Files.read path).run world).1 = .ok content) :
    (Webp.hasSignature content = true →
      (sniff (some path)).run world = (.ok (Webp.isAnimated content), world)) ∧
    (Png.hasSignature content = true →
      ∃ verdict, (sniff (some path)).run world = (.ok verdict, world) ∧
        (verdict = true ↔ ∃ offset, Png.MeetsControl content offset ∧ offset + 8 ≤ headerLength) ∧
        (Png.isAnimated content = true ↔ ∃ offset, Png.MeetsControl content offset)) := by
  rw [sniff_run readable]
  refine ⟨fun signed => by rw [ImageFormat.sniff_webp signed], fun signed => ?_⟩
  have kept := Png.hasSignature_take content (show 8 ≤ headerLength by decide)
  refine ⟨_, by rw [ImageFormat.sniff_png signed], ?_, ?_⟩
  · rw [Png.isAnimated_iff, kept, and_iff_right signed]
    exact exists_congr fun offset => Png.meetsControl_take
  · rw [Png.isAnimated_iff, and_iff_right signed]

def heldPath : Path := ⟨.absolute, ["work", "a.png"]⟩

theorem read_held (content : Bytes) :
    ((Files.read heldPath).run (.holding content)).1 = .ok content := rfl

def controlChunk : Png.Chunk :=
  ⟨Png.animationControl, [0, 0, 0, 2, 0, 0, 0, 0], [0, 0, 0, 0], rfl, by decide, rfl⟩

def animatedWebp : Bytes :=
  Bytes.ofTag "RIFF" ++ [22, 0, 0, 0] ++ Bytes.ofTag "WEBPVP8X" ++ [10, 0, 0, 0] ++
    [Webp.animationFlag, 0, 0, 0, 0, 0, 0, 0, 0, 0]

theorem animations_seen :
    (sniff (some heldPath)).run (.holding (Png.encode [controlChunk])) =
        (.ok true, .holding (Png.encode [controlChunk])) ∧
      (sniff (some heldPath)).run (.holding animatedWebp) = (.ok true, .holding animatedWebp) := by
  constructor
  · have readable := read_held (Png.encode [controlChunk])
    obtain ⟨verdict, ran, sniffed, -⟩ := (sniff_header readable).2 rfl
    have first : Png.turn (Png.encode [controlChunk]) 8 = .stops true := by decide +kernel
    rw [ran, sniffed.mpr ⟨8, ⟨⟨0, .here⟩, first⟩, by decide⟩]
  · rw [(sniff_header (read_held animatedWebp)).1 rfl]
    rfl

def longText : Png.Chunk :=
  ⟨Bytes.ofTag "tEXt", List.replicate headerLength 0, [0, 0, 0, 0], rfl,
    lt_of_eq_of_lt List.length_replicate (by decide), rfl⟩

theorem late_control_missed :
    ((Files.read heldPath).run (.holding (Png.encode [longText, controlChunk]))).1 =
        .ok (Png.encode [longText, controlChunk]) ∧
      Png.isAnimated (Png.encode [longText, controlChunk]) = true ∧
      (sniff (some heldPath)).run (.holding (Png.encode [longText, controlChunk])) =
        (.ok false, .holding (Png.encode [longText, controlChunk])) := by
  have signed : Png.hasSignature (Png.encode [longText, controlChunk]) = true := rfl
  have first : Png.turn (Png.encode [longText, controlChunk]) 8 = .onwards 4116 := by
    decide +kernel
  have second : Png.turn (Png.encode [longText, controlChunk]) 4116 = .stops true := by
    decide +kernel
  refine ⟨read_held _, ?_, ?_⟩
  · exact (Png.isAnimated_iff _).mpr ⟨signed, 4116, ⟨1, .next first .here⟩, second⟩
  · rw [sniff_run (read_held _), ImageFormat.sniff_png signed, Png.isAnimated, Png.announces_turn,
      Png.turn_take, if_pos (by decide), first]
    simp only
    rw [Png.announces_turn, Png.turn_take, if_neg (by decide), Bool.and_false]

end Thumbnail

end Thumbnailing
