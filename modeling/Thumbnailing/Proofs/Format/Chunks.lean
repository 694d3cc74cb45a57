import Thumbnailing.Format.Signature

set_option autoImplicit false

namespace Thumbnailing

namespace Bytes

def ofLength (n : Nat) : Bytes :=
  [UInt8.ofNat (n / 0x1000000), UInt8.ofNat (n / 0x10000), UInt8.ofNat (n / 0x100), UInt8.ofNat n]

theorem bigEndian_ofLength {n : Nat} (small : n < 0x100000000) : bigEndian (ofLength n) = n := by
  simp only [bigEndian, ofLength, List.foldl_cons, List.foldl_nil, UInt8.toNat_ofNat']
  omega

theorem slice_take (bytes : Bytes) {limit offset count : Nat} (inside : offset + count ≤ limit) :
    slice (bytes.take limit) offset count = bytes.slice offset count := by
  rw [slice, slice, List.drop_take, List.take_take, Nat.min_eq_left (by omega)]

end Bytes

namespace Png

inductive Turn where
  | stops (verdict : Bool)
  | onwards (offset : Nat)
  deriving DecidableEq, Repr

def turn (content : Bytes) (offset : Nat) : Turn :=
  -- Behind its payload a chunk has a checksum of four bytes.
  if offset + 8 ≤ content.length then
    if content.slice (offset + 4) 4 = animationControl then .stops true
    else if content.slice (offset + 4) 4 = imageData then .stops false
    else .onwards (offset + 8 + Bytes.bigEndian (content.slice offset 4) + 4)
  else .stops false

/-- A number of turns leads from one offset to another. -/
inductive Reaches (content : Bytes) : Nat → Nat → Nat → Prop
  | here {offset : Nat} : Reaches content 0 offset offset
  | next {turns start between last : Nat} : turn content start = .onwards between →
    Reaches content turns between last → Reaches content (turns + 1) start last

/-- The walk over a file, which begins behind the signature, ends at an animation control chunk. -/
def MeetsControl (content : Bytes) (offset : Nat) : Prop :=
  (∃ turns, Reaches content turns 8 offset) ∧ turn content offset = .stops true

variable {content : Bytes}

theorem head_cases (bytes : Bytes) :
    (∃ a b c d e f g h rest, bytes = a :: b :: c :: d :: e :: f :: g :: h :: rest) ∨
      bytes.length < 8 := by
  match bytes with
  | a :: b :: c :: d :: e :: f :: g :: h :: rest => exact .inl ⟨a, b, c, d, e, f, g, h, rest, rfl⟩
  | [] | [_] | [_, _] | [_, _, _] | [_, _, _, _] | [_, _, _, _, _] | [_, _, _, _, _, _]
  | [_, _, _, _, _, _, _] => exact .inr (by simp)

theorem announcesAnimation_short {bytes : Bytes} (short : bytes.length < 8) :
    announcesAnimation bytes = false := by
  unfold announcesAnimation
  split
  · simp only [List.length_cons] at short
    omega
  · rfl

theorem announces_turn (content : Bytes) (offset : Nat) :
    announcesAnimation (content.drop offset) = match turn content offset with
      | .stops verdict => verdict
      | .onwards next => announcesAnimation (content.drop next) := by
  rcases head_cases (content.drop offset) with ⟨a, b, c, d, e, f, g, h, rest, left⟩ | short
  · have long : offset + 8 ≤ content.length := by
      have whole := congrArg List.length left
      simp only [List.length_drop, List.length_cons] at whole
      omega
    have size : content.slice offset 4 = [a, b, c, d] := by rw [Bytes.slice, left]; rfl
    have kind : content.slice (offset + 4) 4 = [e, f, g, h] := by
      rw [Bytes.slice, ← List.drop_drop, left]
      rfl
    have beyond (n : Nat) : content.drop (offset + 8 + n + 4) = rest.drop (n + 4) := by
      have apart : offset + 8 + n + 4 = offset + (8 + (n + 4)) := by omega
      rw [apart, ← List.drop_drop, left, ← List.drop_drop]
      rfl
    rw [turn, if_pos long, size, kind, left, announcesAnimation]
    split
    · rfl
    · split
      · rfl
      · exact (congrArg announcesAnimation (beyond _)).symm
  · rw [announcesAnimation_short short, turn, if_neg]
    rw [List.length_drop] at short
    omega

theorem turn_advances {offset next : Nat} (onwards : turn content offset = .onwards next) :
    offset + 8 ≤ content.length ∧ offset + 12 ≤ next := by
  unfold turn at onwards
  split at onwards
  · rename_i long
    split at onwards
    · cases onwards
    · split at onwards
      · cases onwards
      · cases onwards
        exact ⟨long, by omega⟩
  · cases onwards

theorem Reaches.announces {turns start last : Nat} (reached : Reaches content turns start last) :
    announcesAnimation (content.drop start) = announcesAnimation (content.drop last) := by
  induction reached with
  | here => rfl
  | next onwards _ ih => rw [announces_turn, onwards, ← ih]

theorem walk_ends (content : Bytes) (start : Nat) : ∃ turns last, Reaches content turns start last ∧
    12 * turns ≤ content.length - start + 4 ∧
    turn content last = .stops (announcesAnimation (content.drop start)) := by
  generalize left : content.length - start = room
  induction room using Nat.strongRecOn generalizing start with
  | ind room ih =>
    have first := announces_turn content start
    cases turned : turn content start with
    | stops verdict =>
      rw [turned] at first
      exact ⟨0, start, .here, by omega, by rw [turned, first]⟩
    | onwards next =>
      rw [turned] at first
      obtain ⟨inside, further⟩ := turn_advances turned
      obtain ⟨turns, last, reached, few, ended⟩ := ih (content.length - next) (by omega) next rfl
      exact ⟨turns + 1, last, .next turned reached, by omega, by rw [ended, first]⟩

theorem announces_iff (content : Bytes) (start : Nat) :
    announcesAnimation (content.drop start) = true ↔
      ∃ last, (∃ turns, Reaches content turns start last) ∧ turn content last = .stops true := by
  constructor
  · intro announced
    obtain ⟨turns, last, reached, -, ended⟩ := walk_ends content start
    exact ⟨last, ⟨turns, reached⟩, by rw [ended, announced]⟩
  · rintro ⟨last, ⟨turns, reached⟩, ended⟩
    rw [reached.announces, announces_turn, ended]

structure Chunk where
  kind : Bytes
  payload : Bytes
  checksum : Bytes
  kind_length : kind.length = 4
  payload_length : payload.length < 0x100000000
  checksum_length : checksum.length = 4

def Chunk.encode (chunk : Chunk) : Bytes :=
  Bytes.ofLength chunk.payload.length ++ chunk.kind ++ chunk.payload ++ chunk.checksum

def encode (chunks : List Chunk) : Bytes := signature ++ chunks.flatMap Chunk.encode

/-- An animation control chunk comes before any image data. -/
def ControlsFirst (chunks : List Chunk) : Prop :=
  ∃ before chunk after, chunks = before ++ chunk :: after ∧ chunk.kind = animationControl ∧
    ∀ earlier ∈ before, earlier.kind ≠ imageData

theorem not_controlsFirst_nil : ¬ ControlsFirst [] := by
  rintro ⟨before, chunk, after, whole, -⟩
  simp at whole

theorem controlsFirst_cons {chunk : Chunk} {rest : List Chunk} :
    ControlsFirst (chunk :: rest) ↔
      chunk.kind = animationControl ∨ (chunk.kind ≠ imageData ∧ ControlsFirst rest) := by
  constructor
  · rintro ⟨before, control, after, whole, controls, earlier⟩
    cases before with
    | nil =>
      cases whole
      exact .inl controls
    | cons first before =>
      obtain ⟨rfl, rfl⟩ := List.cons.inj whole
      obtain ⟨other, earlier⟩ := List.forall_mem_cons.mp earlier
      exact .inr ⟨other, before, control, after, rfl, controls, earlier⟩
  · rintro (controls | ⟨other, before, control, after, rfl, controls, earlier⟩)
    · exact ⟨[], chunk, rest, rfl, controls, nofun⟩
    · refine ⟨chunk :: before, control, after, rfl, controls, ?_⟩
      exact List.forall_mem_cons.mpr ⟨other, earlier⟩

theorem of_length_four {bytes : Bytes} (four : bytes.length = 4) :
    ∃ e f g h, bytes = [e, f, g, h] := by
  match bytes, four with
  | [e, f, g, h], _ => exact ⟨e, f, g, h, rfl⟩

theorem announcesAnimation_chunk (chunk : Chunk) (rest : Bytes) :
    announcesAnimation (chunk.encode ++ rest) =
      if chunk.kind = animationControl then true
      else if chunk.kind = imageData then false
      else announcesAnimation rest := by
  obtain ⟨kind, payload, checksum, four, small, more⟩ := chunk
  obtain ⟨e, f, g, h, rfl⟩ := of_length_four four
  have size := Bytes.bigEndian_ofLength small
  have behind : (payload ++ checksum ++ rest).drop (payload.length + 4) = rest := by
    rw [← more, ← List.length_append, List.drop_left]
  simp only [Chunk.encode, Bytes.ofLength, List.append_assoc, List.cons_append, List.nil_append]
  rw [announcesAnimation, ← Bytes.ofLength, size, ← List.append_assoc, behind]

theorem announces_chunks (chunks : List Chunk) :
    announcesAnimation (chunks.flatMap Chunk.encode) = true ↔ ControlsFirst chunks := by
  induction chunks with
  | nil => simp [not_controlsFirst_nil]
  | cons chunk rest ih =>
    rw [List.flatMap_cons, announcesAnimation_chunk, controlsFirst_cons, ← ih]
    by_cases controls : chunk.kind = animationControl
    · simp [controls]
    · by_cases image : chunk.kind = imageData <;> simp [controls, image]

/-- A file of chunks is animated exactly if a control chunk comes before image data, whatever the
payloads hold. The walk over any bytes ends, and its verdict counts behind a signature. -/
theorem isAnimated_walk :
    (∀ chunks, isAnimated (encode chunks) = true ↔ ControlsFirst chunks) ∧
      ∀ content, ∃ turns last verdict,
        Reaches content turns 8 last ∧ 12 * turns ≤ content.length ∧
          turn content last = .stops verdict ∧
            isAnimated content = (hasSignature content && verdict) := by
  constructor
  · intro chunks
    have signed : hasSignature (encode chunks) = true := by simp [hasSignature, encode]
    have behind : (encode chunks).drop 8 = chunks.flatMap Chunk.encode := by
      rw [encode, List.drop_append]
      rfl
    rw [isAnimated, signed, behind, Bool.true_and, announces_chunks]
  · intro content
    obtain ⟨turns, last, reached, few, ended⟩ := walk_ends content 8
    exact ⟨turns, last, _, reached, by omega, ended, rfl⟩

end Png

end Thumbnailing
