import Thumbnailing.Failure
import Thumbnailing.Log.Record
import Thumbnailing.Text.Characters
import Thumbnailing.Text.LetterCase

set_option autoImplicit false

namespace Thumbnailing

inductive EngineKind where
  | imageMagick
  | vips
  deriving DecidableEq, Repr

namespace EngineKind

open Text

def name : EngineKind → String
  | .imageMagick => "image_magick"
  | .vips => "vips"

def displayName : EngineKind → String
  | .imageMagick => "ImageMagick"
  | .vips => "libvips"

def ofName? (name : String) : Option EngineKind :=
  [.imageMagick, .vips].find? fun kind => kind.name == name

def ofName (name : String) : Outcome EngineKind :=
  match ofName? name with
  | some kind => .ok kind
  | none => .error (.unknownName .engine (.text name))

def ofCandidate (candidate : Value) : EngineKind × List LogRecord :=
  match candidate with
  | .null => (.imageMagick, [])
  | _ =>
    if isAllBlank candidate.display then (.imageMagick, [])
    else
      match ofName? (lowercase (stripped candidate.display)) with
      | some kind => (kind, [])
      | none =>
        (.imageMagick, [.warning .router
          ("Warning: Invalid backend: " ++ candidate.display ++ ", falling back to image_magick")])

end EngineKind

end Thumbnailing
