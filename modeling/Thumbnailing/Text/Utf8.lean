set_option autoImplicit false

namespace Thumbnailing

abbrev Bytes := List UInt8

namespace Text

def hexChar (digit : Nat) : Char :=
  if digit < 10 then Char.ofNat (48 + digit) else Char.ofNat (87 + digit)

def hexChars : Nat → Nat → List Char
  | 0, _ => []
  | width + 1, n => hexChars width (n / 16) ++ [hexChar (n % 16)]

def hexOfBytes (bytes : Bytes) : String :=
  String.ofList (bytes.flatMap fun byte => hexChars 2 byte.toNat)

def hexValue? (c : Char) : Option Nat :=
  if '0' ≤ c ∧ c ≤ '9' then some (c.toNat - 48)
  else if 'a' ≤ c ∧ c ≤ 'f' then some (c.toNat - 87)
  else if 'A' ≤ c ∧ c ≤ 'F' then some (c.toNat - 55)
  else none

def hexNumber? (digits : List Char) : Option Nat :=
  digits.foldlM (fun value c => (16 * value + ·) <$> hexValue? c) 0

def bytesOfHex? : List Char → Option Bytes
  | [] => some []
  | [_] => none
  | high :: low :: rest => do
    let byte := 16 * (← hexValue? high) + (← hexValue? low)
    return UInt8.ofNat byte :: (← bytesOfHex? rest)

/-- A character under way: what its bytes gave so far, the bounds of the next byte, and how
many more follow that one. -/
structure PendingChar where
  payload : Nat
  low : Nat
  high : Nat
  more : Nat

def replacementChar : Char := Char.ofNat 0xFFFD

def beginChar (byte : Nat) : List Char × Option PendingChar :=
  if byte < 0x80 then ([Char.ofNat byte], none)
  else if 0xC2 ≤ byte ∧ byte ≤ 0xDF then ([], some ⟨byte - 0xC0, 0x80, 0xBF, 0⟩)
  else if byte = 0xE0 then ([], some ⟨0, 0xA0, 0xBF, 1⟩)
  else if byte = 0xED then ([], some ⟨0xD, 0x80, 0x9F, 1⟩)
  else if 0xE1 ≤ byte ∧ byte ≤ 0xEF then ([], some ⟨byte - 0xE0, 0x80, 0xBF, 1⟩)
  else if byte = 0xF0 then ([], some ⟨0, 0x90, 0xBF, 2⟩)
  else if 0xF1 ≤ byte ∧ byte ≤ 0xF3 then ([], some ⟨byte - 0xF0, 0x80, 0xBF, 2⟩)
  else if byte = 0xF4 then ([], some ⟨4, 0x80, 0x8F, 2⟩)
  else ([replacementChar], none)

def continueChar (pending : PendingChar) (byte : Nat) : List Char × Option PendingChar :=
  if pending.low ≤ byte ∧ byte ≤ pending.high then
    let payload := 64 * pending.payload + byte % 64
    match pending.more with
    | 0 => ([Char.ofNat payload], none)
    | more + 1 => ([], some ⟨payload, 0x80, 0xBF, more⟩)
  else
    let next := beginChar byte
    (replacementChar :: next.1, next.2)

def decodeStep (state : Option PendingChar) (byte : UInt8) : List Char × Option PendingChar :=
  match state with
  | none => beginChar byte.toNat
  | some pending => continueChar pending byte.toNat

def decodeFrom : Option PendingChar → Bytes → List Char
  | none, [] => []
  | some _, [] => [replacementChar]
  | state, byte :: rest =>
    let next := decodeStep state byte
    next.1 ++ decodeFrom next.2 rest

def decodeUtf8 (bytes : Bytes) : List Char := decodeFrom none bytes

def encodeUtf8 (text : String) : Bytes := text.toUTF8.toList

end Text

end Thumbnailing
