import Thumbnailing.Failure
import Thumbnailing.Format.Fields
import Thumbnailing.Format.Gif
import Thumbnailing.Format.Tiff.Page

set_option autoImplicit false

namespace Thumbnailing

inductive ImageFormat where
  | png
  | apng
  | jpeg
  | webp
  | gif
  | tiff
  | bmp
  | pdf
  | avif
  | heic
  | svg
  deriving DecidableEq, Repr

namespace ImageFormat

def name : ImageFormat → String
  | .png => "png"
  | .apng => "apng"
  | .jpeg => "jpeg"
  | .webp => "webp"
  | .gif => "gif"
  | .tiff => "tiff"
  | .bmp => "bmp"
  | .pdf => "pdf"
  | .avif => "avif"
  | .heic => "heic"
  | .svg => "svg"

def mediaType : ImageFormat → String
  | .pdf => "application/pdf"
  | .svg => "image/svg+xml"
  | format => "image/" ++ format.name

def extensionMediaTypes : List (String × String) := [
  (".png", "image/png"),
  (".jpg", "image/jpeg"),
  (".jpeg", "image/jpeg"),
  (".webp", "image/webp"),
  (".gif", "image/gif"),
  (".tif", "image/tiff"),
  (".tiff", "image/tiff"),
  (".bmp", "image/bmp"),
  (".pdf", "application/pdf"),
  (".avif", "image/avif"),
  (".heic", "image/heic")]

def mediaTypeOfExtension? (extension : String) : Option String :=
  extensionMediaTypes.lookup extension

end ImageFormat

namespace Png

def signature : Bytes := [0x89, 0x50, 0x4E, 0x47, 0x0D, 0x0A, 0x1A, 0x0A]

def animationControl : Bytes := Bytes.ofTag "acTL"

def imageData : Bytes := Bytes.ofTag "IDAT"

def announcesAnimation : Bytes → Bool
  -- Whether an animation control chunk is met before image data. Payloads are passed over unread.
  | a :: b :: c :: d :: e :: f :: g :: h :: rest =>
    if [e, f, g, h] = animationControl then true
    else if [e, f, g, h] = imageData then false
    else announcesAnimation (rest.drop (Bytes.bigEndian [a, b, c, d] + 4))
  | _ => false
termination_by bytes => bytes.length
decreasing_by
  simp only [List.length_drop, List.length_cons]
  omega

def hasSignature (content : Bytes) : Bool := signature.isPrefixOf content

def isAnimated (content : Bytes) : Bool :=
  hasSignature content && announcesAnimation (content.drop 8)

@[simp] theorem announcesAnimation_nil : announcesAnimation [] = false := by
  simp [announcesAnimation]

end Png

namespace Webp

def hasSignature (content : Bytes) : Bool :=
  content.isTagAt 0 "RIFF" && content.isTagAt 8 "WEBP"

def animationFlag : UInt8 := 0x02

def isAnimated (content : Bytes) : Bool :=
  hasSignature content && content.isTagAt 12 "VP8X" &&
    (content.drop 20).head?.any fun flags => flags &&& animationFlag != 0

end Webp

namespace ImageFormat

def ofBrand? (brand : Bytes) : Option ImageFormat :=
  if brand = Bytes.ofTag "avif" ∨ brand = Bytes.ofTag "avis" then some .avif
  else if brand = Bytes.ofTag "heic" ∨ brand = Bytes.ofTag "heix" ∨
      brand = Bytes.ofTag "mif1" then some .heic
  else none

def isByteOrderMark (byte : UInt8) : Bool := byte == 0xEF || byte == 0xBB || byte == 0xBF

def isBlankByte (byte : UInt8) : Bool := byte == 0x20 || (9 ≤ byte && byte ≤ 13)

def isSvg (content : Bytes) : Bool :=
  let body : Bytes := (content.dropWhile isByteOrderMark).dropWhile isBlankByte
  body.isTagAt 0 "<svg" ||
    (body.isTagAt 0 "<?xml" && Bytes.containsTag (Bytes.ofTag "<svg") (content.take 1024))

def ofBody? (content : Bytes) : Option ImageFormat :=
  let brand := if content.isTagAt 4 "ftyp" then ofBrand? (content.slice 8 4) else none
  brand.or (if isSvg content then some .svg else none)

def ofSignature? (content : Bytes) : Option ImageFormat :=
  if Png.hasSignature content then
    some (if Png.announcesAnimation (content.drop 8) then .apng else .png)
  else if [0xFF, 0xD8, 0xFF].isPrefixOf content then some .jpeg
  else if content.isTagAt 0 "GIF87a" || content.isTagAt 0 "GIF89a" then some .gif
  else if Webp.hasSignature content then some .webp
  else if content.isTagAt 0 "BM" then some .bmp
  else if [0x49, 0x49, 0x2A, 0x00].isPrefixOf content ||
      [0x4D, 0x4D, 0x00, 0x2A].isPrefixOf content then some .tiff
  else if content.isTagAt 0 "%PDF-" then some .pdf
  else ofBody? content

def detect (content : Bytes) : Outcome ImageFormat :=
  if content.length < 4 then
    .error (.ofKind .unreadableSource "File too small to identify format" [])
  else
    match ofSignature? content with
    | some format => .ok format
    | none =>
      .error <| .ofKind .unreadableSource "Unrecognized file format"
        [("detected_bytes", .text (Text.hexOfBytes (content.take 16)))]

def headerLength : Nat := 4096

def mostPixels : Nat := 178956970

def severalFrames (pixels : Nat) (count : Except PictureFault Nat) : Outcome Bool :=
  if mostPixels < pixels then .error (.oversizedPicture pixels mostPixels)
  else
    match count with
    | .ok count => .ok (1 < count)
    | .error fault => .error (.picture fault)

def sniffGif (content : Bytes) : Outcome Bool :=
  -- A GIF file that shows nothing counts as animated.
  match Gif.size? content with
  | none => .ok true
  | some (width, height) => severalFrames (width * height) (Gif.frameCount content)

def sniffTiff (content : Bytes) : Outcome Bool :=
  -- A TIFF file without a page that can be read does not count as animated, nor does one with a
  -- later page of a kind that is not supported.
  match Tiff.firstPage content with
  | .error fault => if fault.isFailureAtStart then .error (.picture fault) else .ok false
  | .ok page =>
    let count := match Tiff.laterPages content with
      | .error .unsupportedContainer => .ok 1
      | pages => pages.map fun later => later.length + 1
    severalFrames (page.width * page.height).toNat count

def sniff (content : Bytes) : Outcome Bool :=
  -- Whether a file seems to hold several frames. The header decides, except that the frames of GIF
  -- and TIFF files are counted.
  let header := content.take headerLength
  match detect header with
  | .error _ => .ok false
  | .ok .apng => .ok true
  | .ok .webp => .ok (Webp.isAnimated header)
  | .ok .gif => sniffGif content
  | .ok .tiff => sniffTiff content
  | .ok _ => .ok false

end ImageFormat

end Thumbnailing
