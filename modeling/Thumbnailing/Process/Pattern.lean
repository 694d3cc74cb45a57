import Thumbnailing.Text.Utf8

set_option autoImplicit false

namespace Thumbnailing

structure MarkedByte where
  byte : UInt8
  quoted : Bool
  deriving DecidableEq, Repr

inductive PatternItem where
  | any
  | one
  | exact (byte : UInt8)
  | among (negated : Bool) (ranges : List (UInt8 × UInt8))
  deriving DecidableEq, Repr

abbrev Pattern := List PatternItem

namespace Pattern

def isPlain (marked : MarkedByte) (c : Char) : Bool :=
  !marked.quoted && marked.byte.toNat == c.toNat

def rangesOf : List MarkedByte → List (UInt8 × UInt8)
  | first :: hyphen :: last :: rest =>
    if isPlain hyphen '-' then (first.byte, last.byte) :: rangesOf rest
    else (first.byte, first.byte) :: rangesOf (hyphen :: last :: rest)
  | first :: rest => (first.byte, first.byte) :: rangesOf rest
  | [] => []

def bracketed? (rest : List MarkedByte) : Option (PatternItem × Nat) :=
  -- The set behind an opening bracket, if the bracket is closed. A closing bracket that comes first
  -- belongs to the set.
  let negated := rest.head?.any fun marked => isPlain marked '!' || isPlain marked '^'
  let inside := rest.drop (if negated then 1 else 0)
  let members := inside.take 1 ++ (inside.drop 1).takeWhile fun marked => !isPlain marked ']'
  if inside.length ≤ members.length then none
  else some (.among negated (rangesOf members), members.length + 1 + if negated then 1 else 0)

def ofMarkedFuel : Nat → List MarkedByte → Pattern
  | 0, _ | _, [] => []
  | fuel + 1, marked :: rest =>
    if isPlain marked '*' then .any :: ofMarkedFuel fuel rest
    else if isPlain marked '?' then .one :: ofMarkedFuel fuel rest
    else
      match if isPlain marked '[' then bracketed? rest else none with
      | some (item, length) => item :: ofMarkedFuel fuel (rest.drop length)
      | none => .exact marked.byte :: ofMarkedFuel fuel rest

def ofMarked (text : List MarkedByte) : Pattern := ofMarkedFuel text.length text

def admits (item : PatternItem) (byte : UInt8) : Bool :=
  match item with
  | .any | .one => true
  | .exact expected => expected == byte
  | .among negated ranges =>
    (ranges.any fun range => range.1 ≤ byte && byte ≤ range.2) != negated

def isMatch : Pattern → Bytes → Bool
  | [], text => text.isEmpty
  | .any :: items, [] => isMatch items []
  | .any :: items, byte :: text => isMatch items (byte :: text) || isMatch (.any :: items) text
  | _ :: _, [] => false
  | item :: items, byte :: text => admits item byte && isMatch items text
termination_by items text => items.length + text.length

def startLength? (pattern : Pattern) (longest : Bool) (text : Bytes) : Option Nat :=
  let lengths := List.range (text.length + 1)
  (if longest then lengths.reverse else lengths).find? fun length =>
    isMatch pattern (text.take length)

def endStart? (pattern : Pattern) (longest : Bool) (text : Bytes) : Option Nat :=
  let starts := List.range (text.length + 1)
  (if longest then starts else starts.reverse).find? fun start =>
    isMatch pattern (text.drop start)

def cut (operator : String) (pattern : Pattern) (text : Bytes) : Bytes :=
  match operator with
  | "#" => text.drop ((startLength? pattern false text).getD 0)
  | "##" => text.drop ((startLength? pattern true text).getD 0)
  | "%" => text.take ((endStart? pattern false text).getD text.length)
  | "%%" => text.take ((endStart? pattern true text).getD text.length)
  | _ => text

end Pattern

end Thumbnailing
