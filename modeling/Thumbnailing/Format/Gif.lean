import Thumbnailing.Format.Fields

set_option autoImplicit false

namespace Thumbnailing.Gif

def headerLength : Nat := 13

def frameMark : UInt8 := 0x2C

def extensionMark : UInt8 := 0x21

def trailerMark : UInt8 := 0x3B

def colourTableLength (flags : UInt8) : Nat :=
  -- The length of the colour table that a byte of flags announces: three bytes for each of `2 ^ (n
  -- + 1)` colours.
  if flags &&& 0x80 = 0 then 0 else 6 <<< (flags &&& 7).toNat

def afterBlocks : Bytes → Bytes
  | [] => []
  | size :: rest => if size = 0 then rest else afterBlocks (rest.drop size.toNat)
termination_by content => content.length
decreasing_by
  simp only [List.length_drop, List.length_cons]
  omega

theorem afterBlocks_length_le (content : Bytes) :
    (afterBlocks content).length ≤ content.length := by
  fun_induction afterBlocks content with
  | case1 => simp
  | case2 => simp
  | case3 size rest _ ih => simp at ih ⊢; omega

structure Extent where
  right : Nat
  bottom : Nat
  deriving DecidableEq, Repr

def extentOf (descriptor : Bytes) : Extent :=
  let side (offset : Nat) : Nat := Bytes.littleEndian (descriptor.slice offset 2)
  ⟨side 0 + side 4, side 2 + side 6⟩

def afterDescriptor (descriptor content : Bytes) : Bytes :=
  content.drop (colourTableLength (descriptor.getLastD 0) + 1)

def commentLabel : UInt8 := 0xFE

def controlLabel : UInt8 := 0xF9

def applicationLabel : UInt8 := 0xFF

def firstBlock? : Bytes → Option Bytes
  | [] => none
  | size :: rest => if size = 0 then none else some (rest.take size.toNat)

def afterBlock : Bytes → Bytes
  | [] => []
  | size :: rest => rest.drop size.toNat

theorem afterBlock_length_le (content : Bytes) : (afterBlock content).length ≤ content.length := by
  cases content with
  | nil => simp [afterBlock]
  | cons size rest => simp only [afterBlock, List.length_drop, List.length_cons]; omega

def tellsRepetition (label : UInt8) (body : Bytes) : Bool :=
  label == applicationLabel && (firstBlock? body).any fun block => block.isTagAt 0 "NETSCAPE2.0"

def afterExtension (isFirst : Bool) : Bytes → Bytes
  -- What follows an extension, from behind its mark. Except in a comment, an empty block at the
  -- start does not end the data, nor does one in the place of the repetition before the first
  -- frame.
  | [] => []
  | label :: body =>
    if label = commentLabel then afterBlocks body
    else if isFirst && tellsRepetition label body then afterBlocks (afterBlock (afterBlock body))
    else afterBlocks (afterBlock body)

theorem afterExtension_length_le (isFirst : Bool) (content : Bytes) :
    (afterExtension isFirst content).length ≤ content.length := by
  cases content with
  | nil => simp [afterExtension]
  | cons label body =>
    have := afterBlocks_length_le body
    have := afterBlocks_length_le (afterBlock body)
    have := afterBlocks_length_le (afterBlock (afterBlock body))
    have := afterBlock_length_le (afterBlock body)
    have := afterBlock_length_le body
    simp only [afterExtension, List.length_cons]
    split <;> try split
    all_goals omega

def controlFault? (block : Bytes) : Option PictureFault :=
  match block.head? with
  | none => some .contentEnds
  | some flags =>
    if flags &&& 1 != 0 && block.length < 4 then some .contentEnds
    else if block.length < 3 then some (.fieldEnds 1 block.length)
    else none

def extensionFault? : Bytes → Option PictureFault
  | [] => some .contentEnds
  | label :: body =>
    if label = controlLabel then (firstBlock? body).bind controlFault? else none

def descriptorLength : Nat := 9

def frameFault? (content : Bytes) : Option PictureFault :=
  let descriptor := content.take descriptorLength
  let data := content.drop descriptorLength
  if descriptor.length + 1 < descriptorLength then
    some (.fieldEnds (2 * (descriptor.length / 2)) descriptor.length)
  else if descriptor.length < descriptorLength ∨
      data.length ≤ colourTableLength (descriptor.getLastD 0) then some .contentEnds
  else none

structure Frames where
  extents : List Extent
  fault? : Option PictureFault
  deriving DecidableEq, Repr

def framesFrom (isFirst : Bool) : Bytes → Frames
  | [] => ⟨[], none⟩
  | mark :: rest =>
    if mark = trailerMark then ⟨[], none⟩
    else if mark = extensionMark then
      if (extensionFault? rest).isSome then ⟨[], extensionFault? rest⟩
      else framesFrom isFirst (afterExtension isFirst rest)
    else if mark = frameMark then
      if (frameFault? rest).isSome then ⟨[], frameFault? rest⟩
      else
        let descriptor := rest.take descriptorLength
        let data := rest.drop descriptorLength
        let later := framesFrom false (afterBlocks (afterDescriptor descriptor data))
        { later with extents := extentOf descriptor :: later.extents }
    else framesFrom isFirst rest
termination_by content => content.length
decreasing_by
  · have := afterExtension_length_le isFirst rest
    simp only [List.length_cons]
    omega
  · have := afterBlocks_length_le
      (afterDescriptor (rest.take descriptorLength) (rest.drop descriptorLength))
    simp only [afterDescriptor, List.length_drop, List.length_cons] at this ⊢
    omega
  · simp

def framesOf (content : Bytes) : Frames :=
  let flags := (content.drop 10).headD 0
  framesFrom true (content.drop (headerLength + colourTableLength flags))

def size? (content : Bytes) : Option (Nat × Nat) :=
  -- The sides of the picture that a file shows: its screen, stretched to hold the first frame. None
  -- if there is no frame or no area.
  match (framesOf content).extents with
  | [] => none
  | first :: _ =>
    let width := max (Bytes.littleEndian (content.slice 6 2)) first.right
    let height := max (Bytes.littleEndian (content.slice 8 2)) first.bottom
    if content.length < headerLength ∨ width = 0 ∨ height = 0 then none else some (width, height)

def frameCount (content : Bytes) : Except PictureFault Nat :=
  match (framesOf content).fault? with
  | some fault => .error fault
  | none => .ok (framesOf content).extents.length

end Thumbnailing.Gif
