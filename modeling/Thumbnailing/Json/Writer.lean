import Thumbnailing.Text.Utf8
import Thumbnailing.Value

set_option autoImplicit false

namespace Thumbnailing.Json

open Text

structure Layout where
  comma : String
  colon : String
  ascii : Bool

def Layout.line : Layout := ⟨", ", ": ", true⟩

def unitEscape (unit : Nat) : List Char := '\\' :: 'u' :: hexChars 4 unit

def charEscape (code : Nat) : List Char :=
  if code < 0x10000 then unitEscape code
  else unitEscape (0xD800 + (code - 0x10000) / 0x400) ++
    unitEscape (0xDC00 + (code - 0x10000) % 0x400)

def writtenChar (ascii : Bool) (c : Char) : List Char :=
  match c with
  | '"' => ['\\', '"']
  | '\\' => ['\\', '\\']
  | '\n' => ['\\', 'n']
  | '\r' => ['\\', 'r']
  | '\t' => ['\\', 't']
  | _ =>
    if c.toNat = 8 then ['\\', 'b']
    else if c.toNat = 12 then ['\\', 'f']
    else if c.toNat < 0x20 ∨ (ascii ∧ 0x7E < c.toNat) then charEscape c.toNat
    else [c]

def writtenText (ascii : Bool) (content : String) : List Char :=
  '"' :: content.toList.flatMap (writtenChar ascii) ++ ['"']

def writtenCodes (ascii : Bool) (codes : List Nat) : List Char :=
  -- A text given by code points. A code that is no character's is one unit of its own.
  '"' :: codes.flatMap (fun code =>
    if code.isValidChar then writtenChar ascii (Char.ofNat code) else unitEscape code) ++ ['"']

def writtenReal : Binary64 → String
  | .undefined => "NaN"
  | .infinite negative => if negative then "-Infinity" else "Infinity"
  | x => x.fullText

mutual

def write (layout : Layout) : Value → List Char
  | .null => "null".toList
  | .boolean truth => (if truth then "true" else "false").toList
  | .integer number => (integerText number).toList
  | .real number => (writtenReal number).toList
  | .text content => writtenText layout.ascii content
  | .list items => '[' :: writeItems layout items ++ [']']
  | .dictionary entries => '\x7b' :: writeMembers layout entries ++ ['\x7d']

def writeItems (layout : Layout) : List Value → List Char
  | [] => []
  | [item] => write layout item
  | item :: rest => write layout item ++ (layout.comma.toList ++ writeItems layout rest)

def writeMembers (layout : Layout) : List (String × Value) → List Char
  | [] => []
  | [(name, value)] =>
    writtenText layout.ascii name ++ (layout.colon.toList ++ write layout value)
  | (name, value) :: rest =>
    writtenText layout.ascii name ++ (layout.colon.toList ++ (write layout value ++
      (layout.comma.toList ++ writeMembers layout rest)))

end

def text (layout : Layout) (value : Value) : String := String.ofList (write layout value)

def object (layout : Layout) (members : List (String × List Char)) : String :=
  let written := members.map fun (name, value) =>
    String.ofList (writtenText layout.ascii name) ++ layout.colon ++ String.ofList value
  "\x7b" ++ layout.comma.intercalate written ++ "\x7d"

mutual

def isPortable : Value → Bool
  | .real (.finite ..) => true
  | .real _ => false
  | .list items => arePortable items
  | .dictionary entries => arePortableEntries entries
  | _ => true

def arePortable : List Value → Bool
  | [] => true
  | item :: rest => isPortable item && arePortable rest

def arePortableEntries : List (String × Value) → Bool
  | [] => true
  | (_, value) :: rest => isPortable value && arePortableEntries rest

end

end Thumbnailing.Json
