import Thumbnailing.Format.Fields
import Thumbnailing.Number.Binary64

set_option autoImplicit false

namespace Thumbnailing.Tiff

def isLittleEndian (content : Bytes) : Bool := content.isTagAt 0 "II"

def number (littleEndian : Bool) (bytes : Bytes) : Nat :=
  if littleEndian then bytes.littleEndian else bytes.bigEndian

def field (content : Bytes) (offset count : Nat) : Nat :=
  number (isLittleEndian content) (content.slice offset count)

inductive Item where
  | integer (n : Int)
  | real (whole : Option Int)
  | octet (n : Nat)
  | other
  deriving DecidableEq, Repr

def Item.whole? : Item → Option Int
  | .integer n => some n
  | .real whole => whole
  | _ => none

def itemSize? : Nat → Option Nat
  | 1 | 2 | 6 | 7 => some 1
  | 3 | 8 => some 2
  | 4 | 9 | 11 | 13 => some 4
  | 5 | 10 | 12 | 16 => some 8
  | _ => none

def signedNumber (size n : Nat) : Int :=
  if 2 * n < powerOfTwo (8 * size) then n else (n : Int) - powerOfTwo (8 * size)

def quotientItem (numerator denominator : Int) : Item :=
  .real <| if denominator != 0 && numerator % denominator == 0 then
    some (numerator / denominator) else none

def widened (bits : Nat) : Binary64 :=
  let negative := bits / powerOfTwo 31 == 1
  let exponent : Nat := bits / powerOfTwo 23 % powerOfTwo 8
  let fraction : Nat := bits % powerOfTwo 23
  if exponent = 255 then (if fraction = 0 then .infinite negative else .undefined)
  else if exponent = 0 then .finite negative fraction (-149)
  else .finite negative (powerOfTwo 23 + fraction) ((exponent : Int) - 150)

def floatItem (x : Binary64) : Item :=
  .real (if x.isIntegral then x.truncate.toOption else none)

def item (littleEndian : Bool) (kind : Nat) (bytes : Bytes) : Item :=
  let n := number littleEndian bytes
  let part (offset : Nat) : Nat := number littleEndian (bytes.slice offset 4)
  match kind with
  | 1 => .octet n
  | 3 | 4 | 13 | 16 => .integer n
  | 5 => quotientItem (part 0) (part 4)
  | 6 => .integer (signedNumber 1 n)
  | 8 => .integer (signedNumber 2 n)
  | 9 => .integer (signedNumber 4 n)
  | 10 => quotientItem (signedNumber 4 (part 0)) (signedNumber 4 (part 4))
  | 11 => floatItem (widened n)
  | 12 => floatItem (Binary64.ofBits n)
  | _ => .other

def blockTypes : List Nat := [2, 7]

def items (littleEndian : Bool) (kind size count : Nat) (data : Bytes) : List Item :=
  if blockTypes.contains kind then [.other]
  else (List.range count).map fun index => item littleEndian kind (data.slice (index * size) size)

structure Entry where
  tag : Nat
  items : List Item
  deriving DecidableEq, Repr

def entry? (content : Bytes) (offset : Nat) : Option Entry :=
  -- The entry at an offset, unless the file ends before its data do. An entry of an unknown type
  -- holds nothing.
  let tag := field content offset 2
  let kind := field content (offset + 2) 2
  let count := field content (offset + 4) 4
  match itemSize? kind with
  | none => some ⟨tag, []⟩
  | some size =>
    let start := if count * size ≤ 4 then offset + 8 else field content (offset + 8) 4
    if 4 < count * size ∧ content.length < start + count * size then none
    else if count = 0 then some ⟨tag, []⟩
    else
      let data := content.slice start (count * size)
      some ⟨tag, items (isLittleEndian content) kind size count data⟩

structure Directory where
  entries : List Entry
  next? : Option Nat
  deriving DecidableEq, Repr

def directoryFrom (content : Bytes) : Nat → Nat → Directory
  | 0, offset =>
    ⟨[], if content.length < offset + 4 then none else some (field content offset 4)⟩
  | count + 1, offset =>
    if content.length < offset + 12 then ⟨[], none⟩
    else
      match entry? content offset with
      | none => ⟨[], none⟩
      | some entry =>
        let rest := directoryFrom content count (offset + 12)
        { rest with entries := entry :: rest.entries }

def directory (content : Bytes) (offset : Nat) : Directory :=
  if content.length < offset + 2 then ⟨[], none⟩
  else directoryFrom content (field content offset 2) (offset + 2)

namespace Directory

def items (directory : Directory) (tag : Nat) : List Item :=
  match directory.entries.reverse.find? fun entry => entry.tag == tag && !entry.items.isEmpty with
  | some entry => entry.items
  | none => []

def has (directory : Directory) (tag : Nat) : Bool := !(directory.items tag).isEmpty

def first? (directory : Directory) (tag : Nat) : Option Item :=
  match (directory.items tag).head? with
  | some (.octet _) => some .other
  | item => item

end Directory

end Thumbnailing.Tiff
