import Thumbnailing.Format.Tiff.Directory

set_option autoImplicit false

namespace Thumbnailing.Tiff

structure PixelForm where
  photometric : Nat
  sampleFormat : Nat
  bits : List Nat
  extras : List Nat
  deriving DecidableEq, Repr

def whiteIsZero : Nat := 0

def blackIsZero : Nat := 1

def trueColour : Nat := 2

def palette : Nat := 3

def separated : Nat := 5

def luminanceChrominance : Nat := 6

def labColour : Nat := 8

def PixelForm.uniform (photometric samples bits : Nat) (extras : List Nat) : PixelForm :=
  ⟨photometric, 1, List.replicate samples bits, extras⟩

def reversibleForms : List PixelForm :=
  .uniform trueColour 3 8 [] ::
    [whiteIsZero, blackIsZero, palette].flatMap fun photometric =>
      [1, 2, 4, 8].map fun bits => .uniform photometric 1 bits []

def extraKinds : List Nat := [0, 1, 2]

def forms : List PixelForm := reversibleForms ++ [
    ⟨blackIsZero, 2, [8], []⟩, .uniform blackIsZero 1 16 [], ⟨blackIsZero, 2, [16], []⟩,
    ⟨whiteIsZero, 3, [32], []⟩, ⟨blackIsZero, 2, [32], []⟩, ⟨blackIsZero, 3, [32], []⟩,
    .uniform blackIsZero 2 8 [0], .uniform blackIsZero 2 8 [2],
    .uniform trueColour 4 8 [], .uniform trueColour 4 8 [999],
    .uniform trueColour 3 16 [], .uniform trueColour 4 16 [],
    .uniform palette 2 8 [0], .uniform palette 2 8 [2],
    .uniform separated 4 8 [], .uniform separated 5 8 [0], .uniform separated 6 8 [0, 0],
    .uniform separated 4 16 [],
    .uniform luminanceChrominance 1 8 [], .uniform luminanceChrominance 3 8 [],
    .uniform labColour 3 8 []] ++
  extraKinds.flatMap fun kind => [
    .uniform trueColour 4 8 [kind], .uniform trueColour 5 8 [kind, 0],
    .uniform trueColour 6 8 [kind, 0, 0], .uniform trueColour 4 16 [kind]]

def littleEndianForms : List PixelForm := [
  .uniform blackIsZero 1 12 [], .uniform whiteIsZero 1 16 [], .uniform blackIsZero 1 32 []]

def littleEndianReversibleForms : List PixelForm := [.uniform blackIsZero 1 16 []]

def formsOf (littleEndian : Bool) (fillOrder : Int) : List PixelForm :=
  if fillOrder = 1 then forms ++ (if littleEndian then littleEndianForms else [])
  else if fillOrder = 2 then
    reversibleForms ++ (if littleEndian then littleEndianReversibleForms else [])
  else []

def areNumbers (items : List Item) (numbers : List Nat) : Bool :=
  items.map Item.whole? == numbers.map fun n => some (Int.ofNat n)

def mostSamples : Int := 6

end Thumbnailing.Tiff
