import Thumbnailing.Format.Fields
import Thumbnailing.Format.Tiff.Pixel

set_option autoImplicit false

/-!
# TIFF pages

A directory describes a page if it tells the sides, a known form of pixels, and where and how
the pixels are stored.
-/

namespace Thumbnailing.Tiff

structure Page where
  width : Int
  height : Int
  deriving DecidableEq, Repr

namespace Tag

def width : Nat := 256

def height : Nat := 257

def bits : Nat := 258

def compression : Nat := 259

def photometric : Nat := 262

def fillOrder : Nat := 266

def strips : Nat := 273

def samples : Nat := 277

def stripHeight : Nat := 278

def planes : Nat := 284

def colours : Nat := 320

def tileWidth : Nat := 322

def tileHeight : Nat := 323

def tiles : Nat := 324

def extraSamples : Nat := 338

def sampleFormat : Nat := 339

def mediaPhoto : Nat := 48129

end Tag

def uncompressed : Int := 1

def earlyJpeg : Int := 6

def compressions : List Int := [
  1, 2, 3, 4, 5, 6, 7, 8, 32771, 32773, 32809, 32946, 34676, 34677, 34925, 50000, 50001]

def itemOr (directory : Directory) (tag : Nat) (usual : Int) : Item :=
  (directory.first? tag).getD (.integer usual)

def compressionOf (directory : Directory) : Except PictureFault Int :=
  match (itemOr directory Tag.compression uncompressed).whole? with
  | none => .error .unsuitableValue
  | some code => if compressions.contains code then .ok code else .error (.absentEntry code)

def sidesOf (directory : Directory) : Except PictureFault Page :=
  match directory.first? Tag.width, directory.first? Tag.height with
  | some (.integer width), some (.integer height) => .ok ⟨width, height⟩
  | some _, some _ => .error .unsuitableSides
  | _, _ => .error .absentSides

def sampleFormats (directory : Directory) : List Item :=
  match directory.items Tag.sampleFormat with
  | [] => [.integer 1]
  | .octet n :: item :: rest =>
    if (item :: rest).all (· == .octet n) then [.integer n] else .octet n :: item :: rest
  | first :: rest => if rest.all fun item => item.whole? == first.whole? then [first]
    else first :: rest

structure Samples where
  count : Item
  bits : List Item
  extras : List Item

def declaredSamples (directory : Directory) (compression : Int) : Samples :=
  -- The samples that are told. Extra samples without a use do not count where every kind of sample
  -- has a plane of its own.
  let bits := if directory.has Tag.bits then directory.items Tag.bits else [.integer 1]
  let extras := directory.items Tag.extraSamples
  let count := itemOr directory Tag.samples (if compression = earlyJpeg then 3 else 1)
  let separate := (itemOr directory Tag.planes 1).whole? = some 2
  let unused := extras.all fun item => item.whole? == some 0 || item == .octet 0
  if separate ∧ extras ≠ [] ∧ unused then
    let lessened : Item := match count with
      | .integer n => .integer (n - extras.length)
      | .real whole => .real (whole.map (· - extras.length))
      | item => item
    ⟨lessened, bits.take (bits.length - extras.length), []⟩
  else ⟨count, bits, extras⟩

def bitsOfSamples (samples : Samples) : Except PictureFault (List Item) :=
  -- The bits of every sample. A single number is for all samples; numbers for more samples than
  -- there are do not count.
  let given := samples.bits.length
  match samples.count with
  | .integer count =>
    if mostSamples < count then .error .tooManySamples
    else if 0 ≤ count ∧ count < given then .ok (samples.bits.take count.toNat)
    else if given = 1 ∧ 1 < count then .ok (List.replicate count.toNat samples.bits).flatten
    else if count = given then .ok samples.bits
    else .error .unknownOrganisation
  | .real (some count) =>
    if mostSamples < count then .error .tooManySamples
    else if count = given then .ok samples.bits
    else .error .unsuitableValue
  | _ => .error .unsuitableValue

def pixelForm (littleEndian : Bool) (directory : Directory) (compression : Int) :
    Except PictureFault PixelForm := do
  let samples := declaredSamples directory compression
  let bits ← bitsOfSamples samples
  let photometric := if compression = earlyJpeg then .integer luminanceChrominance
    else itemOr directory Tag.photometric whiteIsZero
  let fillOrder := (itemOr directory Tag.fillOrder 1).whole?.getD 0
  let known := (formsOf littleEndian fillOrder).find? fun form =>
    areNumbers [photometric] [form.photometric] &&
      areNumbers (sampleFormats directory) [form.sampleFormat] &&
      areNumbers bits form.bits && areNumbers samples.extras form.extras
  match known with
  | some form => .ok form
  | none => .error .unknownPixels

def checkStorage (directory : Directory) (compression : Int) : Except PictureFault Unit :=
  -- Checks that it is told where the pixels are. Compressed ones are looked for later on.
  if compression ≠ uncompressed then .ok ()
  else if directory.has Tag.strips then
    if directory.first? Tag.stripHeight = some .other then .error .unsuitableValue else .ok ()
  else if directory.has Tag.tiles then
    match directory.first? Tag.tileWidth, directory.first? Tag.tileHeight with
    | some (.integer _), some (.integer _) => .ok ()
    | _, _ => .error .unsuitableTileSides
  else .error .unknownOrganisation

def checkColours (directory : Directory) (form : PixelForm) : Except PictureFault Unit :=
  if form.photometric ≠ palette then .ok ()
  else if !directory.has Tag.colours then .error (.absentEntry Tag.colours)
  else if (directory.items Tag.colours).contains .other then .error .unsuitableValue
  else .ok ()

def pageOf (littleEndian : Bool) (directory : Directory) : Except PictureFault Page := do
  if directory.has Tag.mediaPhoto then throw .unsupportedContainer
  let compression ← compressionOf directory
  let page ← sidesOf directory
  let form ← pixelForm littleEndian directory compression
  checkStorage directory compression
  checkColours directory form
  return page

def headerLength : Nat := 8

def following? (directory : Directory) (visited : List Nat) : Option Nat :=
  match directory.next? with
  | none => none
  | some offset => if offset = 0 ∨ visited.contains offset then none else some offset

def firstPage (content : Bytes) : Except PictureFault Page := do
  let start := field content 4 4
  if content.length < headerLength ∨ start = 0 then throw .noPicture
  let page ← pageOf (isLittleEndian content) (directory content start)
  if page.width ≤ 0 ∨ page.height ≤ 0 then throw .noPicture
  return page

def pagesFrom (content : Bytes) : Nat → List Nat → Option Nat → Except PictureFault (List Page)
  -- The pages after some visited ones, the next of which is at an offset. A directory that holds
  -- the offset of another takes up a place of the file, so `fuel` is the length of the file.
  | 0, _, _ => .ok []
  | _, _, none => .ok []
  | fuel + 1, visited, some offset => do
    let found := directory content offset
    let page ← pageOf (isLittleEndian content) found
    let visited := offset :: visited
    return page :: (← pagesFrom content fuel visited (following? found visited))

def laterPages (content : Bytes) : Except PictureFault (List Page) :=
  let start := field content 4 4
  let next := following? (directory content start) [start]
  pagesFrom content content.length [start] next

end Thumbnailing.Tiff
