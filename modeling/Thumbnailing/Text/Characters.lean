set_option autoImplicit false

namespace Thumbnailing.Text

def isWhiteSpace (c : Char) : Bool :=
  let code := c.toNat
  (9 ≤ code && code ≤ 13) || code == 0x20 || code == 0x85 || code == 0xA0 || code == 0x1680 ||
    (0x2000 ≤ code && code ≤ 0x200A) || code == 0x2028 || code == 0x2029 || code == 0x202F ||
    code == 0x205F || code == 0x3000

def isBlank (c : Char) : Bool :=
  isWhiteSpace c || (0x1C ≤ c.toNat && c.toNat ≤ 0x1F)

def trimEnd (blank : Char → Bool) (text : List Char) : List Char :=
  (text.reverse.dropWhile blank).reverse

def trim (blank : Char → Bool) (text : List Char) : List Char :=
  trimEnd blank (text.dropWhile blank)

def firstWord? (blank : Char → Bool) (text : List Char) : Option (List Char) :=
  match text.dropWhile blank with
  | [] => none
  | rest => some (rest.takeWhile fun c => !blank c)

def stripped (text : String) : String := String.ofList (trim isBlank text.toList)

def isAllBlank (text : String) : Bool := text.toList.all isBlank

theorem blank_of_whiteSpace {c : Char} (h : isWhiteSpace c = true) : isBlank c = true := by
  simp [isBlank, h]

def decimalZeros : Array Nat := #[
  -- The code points of the decimal zeros (Unicode 14).
  48, 1632, 1776, 1984, 2406, 2534, 2662, 2790, 2918, 3046, 3174, 3302, 3430, 3558, 3664, 3792,
  3872, 4160, 4240, 6112, 6160, 6470, 6608, 6784, 6800, 6992, 7088, 7232, 7248, 42528, 43216,
  43264, 43472, 43504, 43600, 44016, 65296, 66720, 68912, 69734, 69872, 69942, 70096, 70384,
  70736, 70864, 71248, 71360, 71472, 71904, 72016, 72784, 73040, 73120, 92768, 92864, 93008,
  120782, 120792, 120802, 120812, 120822, 123200, 123632, 125264, 130032]

def decimalValue? (c : Char) : Option Nat :=
  if c.toNat < 128 then
    if c.isDigit then some (c.toNat - 48) else none
  else
    (decimalZeros.find? fun start => start ≤ c.toNat && c.toNat < start + 10).map (c.toNat - ·)

def isDecimalDigit (c : Char) : Bool := (decimalValue? c).isSome

def digitSigns : Array (Nat × Nat) := #[
  -- Ranges of the characters that stand for a digit but are no decimal digits.
  (178, 179), (185, 185), (4969, 4977), (6618, 6618), (8304, 8304), (8308, 8313), (8320, 8329),
  (9312, 9320), (9332, 9340), (9352, 9360), (9450, 9450), (9461, 9469), (9471, 9471),
  (10102, 10110), (10112, 10120), (10122, 10130), (68160, 68163), (69216, 69224),
  (69714, 69722), (127232, 127242)]

def isDigitLike (c : Char) : Bool :=
  -- A decimal digit, or a sign that stands for one such as a superscript.
  isDecimalDigit c ||
    digitSigns.any fun range => range.1 ≤ c.toNat && c.toNat ≤ range.2

theorem digitLike_of_decimalDigit {c : Char} (h : isDecimalDigit c = true) :
    isDigitLike c = true := by
  simp [isDigitLike, h]

end Thumbnailing.Text
