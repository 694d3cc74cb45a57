import Thumbnailing.Number.DecimalText
import Thumbnailing.Text.Utf8

set_option autoImplicit false

namespace Thumbnailing

inductive PictureFault where
  | noPicture
  | unsupportedContainer
  | absentEntry (key : Int)
  | absentSides
  | unsuitableSides
  | unsuitableTileSides
  | tooManySamples
  | unknownOrganisation
  | unknownPixels
  | unsuitableValue
  | contentEnds
  | fieldEnds (offset available : Nat)
  deriving DecidableEq, Repr

namespace PictureFault

def message : PictureFault → String
  | .noPicture => "not identified by this driver"
  | .unsupportedContainer => "Windows Media Photo files not yet supported"
  | .absentEntry key => integerText key
  | .absentSides => "Missing dimensions"
  | .unsuitableSides => "Invalid dimensions"
  | .unsuitableTileSides => "Invalid tile dimensions"
  | .tooManySamples => "Invalid value for samples per pixel"
  | .unknownOrganisation => "unknown data organization"
  | .unknownPixels => "unknown pixel mode"
  | .unsuitableValue => ""
  | .contentEnds => "index out of range"
  | .fieldEnds offset available =>
    "unpack_from requires a buffer of at least " ++ natText (offset + 2) ++
      " bytes for unpacking 2 bytes at offset " ++ natText offset ++
      " (actual buffer size is " ++ natText available ++ ")"

def isFailureAtStart : PictureFault → Bool
  | .unsuitableSides | .unsuitableTileSides => true
  | _ => false

end PictureFault

namespace Bytes

def ofTag (tag : String) : Bytes := tag.toList.map fun c => UInt8.ofNat c.toNat

def bigEndian (bytes : Bytes) : Nat :=
  bytes.foldl (fun value byte => 256 * value + byte.toNat) 0

def littleEndian (bytes : Bytes) : Nat := bigEndian bytes.reverse

def slice (bytes : Bytes) (offset count : Nat) : Bytes := (bytes.drop offset).take count

def isTagAt (bytes : Bytes) (offset : Nat) (tag : String) : Bool :=
  bytes.slice offset tag.length == ofTag tag

def containsTag (tag : Bytes) : Bytes → Bool
  | [] => tag.isEmpty
  | byte :: rest => tag.isPrefixOf (byte :: rest) || containsTag tag rest

end Bytes

end Thumbnailing
