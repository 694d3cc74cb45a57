import Thumbnailing.Text.Utf8

set_option autoImplicit false

namespace Thumbnailing.Md5

structure State where
  a : UInt32
  b : UInt32
  c : UInt32
  d : UInt32
  deriving DecidableEq, Repr

def State.initial : State := ⟨0x67452301, 0xefcdab89, 0x98badcfe, 0x10325476⟩

def State.add (x y : State) : State := ⟨x.a + y.a, x.b + y.b, x.c + y.c, x.d + y.d⟩

def sines : Array UInt32 := #[
  -- The integer part of `2 ^ 32 · |sin i|` for the rounds `i = 1, 2, …`.
  0xd76aa478, 0xe8c7b756, 0x242070db, 0xc1bdceee, 0xf57c0faf, 0x4787c62a,
  0xa8304613, 0xfd469501, 0x698098d8, 0x8b44f7af, 0xffff5bb1, 0x895cd7be,
  0x6b901122, 0xfd987193, 0xa679438e, 0x49b40821, 0xf61e2562, 0xc040b340,
  0x265e5a51, 0xe9b6c7aa, 0xd62f105d, 0x02441453, 0xd8a1e681, 0xe7d3fbc8,
  0x21e1cde6, 0xc33707d6, 0xf4d50d87, 0x455a14ed, 0xa9e3e905, 0xfcefa3f8,
  0x676f02d9, 0x8d2a4c8a, 0xfffa3942, 0x8771f681, 0x6d9d6122, 0xfde5380c,
  0xa4beea44, 0x4bdecfa9, 0xf6bb4b60, 0xbebfbc70, 0x289b7ec6, 0xeaa127fa,
  0xd4ef3085, 0x04881d05, 0xd9d4d039, 0xe6db99e5, 0x1fa27cf8, 0xc4ac5665,
  0xf4292244, 0x432aff97, 0xab9423a7, 0xfc93a039, 0x655b59c3, 0x8f0ccc92,
  0xffeff47d, 0x85845dd1, 0x6fa87e4f, 0xfe2ce6e0, 0xa3014314, 0x4e0811a1,
  0xf7537e82, 0xbd3af235, 0x2ad7d2bb, 0xeb86d391]

def distances : Array UInt32 := #[7, 12, 17, 22, 5, 9, 14, 20, 4, 11, 16, 23, 6, 10, 15, 21]

def rotateLeft (word distance : UInt32) : UInt32 :=
  (word <<< distance) ||| (word >>> (32 - distance))

def wordOf : Bytes → UInt32
  | [] => 0
  | byte :: rest => byte.toUInt32 ||| (wordOf rest <<< 8)

def bytesOf : Nat → Nat → Bytes
  | 0, _ => []
  | count + 1, n => UInt8.ofNat n :: bytesOf count (n / 256)

def mixture (state : State) (round : Nat) : UInt32 × Nat :=
  let x := state.b
  let y := state.c
  let z := state.d
  match round / 16 with
  | 0 => ((x &&& y) ||| (x.complement &&& z), round)
  | 1 => ((z &&& x) ||| (z.complement &&& y), (5 * round + 1) % 16)
  | 2 => (x ^^^ y ^^^ z, (3 * round + 5) % 16)
  | _ => (y ^^^ (x ||| z.complement), (7 * round) % 16)

def runRound (words : Array UInt32) (state : State) (round : Nat) : State :=
  let (mixed, index) := mixture state round
  let sum := state.a + mixed + sines.getD round 0 + words.getD index 0
  let distance := distances.getD (4 * (round / 16) + round % 4) 0
  ⟨state.d, state.b + rotateLeft sum distance, state.b, state.c⟩

def runBlock (state : State) (block : Bytes) : State :=
  let words := ((List.range 16).map fun index =>
    wordOf ((block.drop (4 * index)).take 4)).toArray
  state.add ((List.range 64).foldl (runRound words) state)

def padded (message : Bytes) : Bytes :=
  let zeros := (119 - message.length % 64) % 64
  message ++ 0x80 :: List.replicate zeros 0 ++ bytesOf 8 (8 * message.length)

def runBlocks : Nat → State → Bytes → State
  | 0, state, _ => state
  | count + 1, state, bytes => runBlocks count (runBlock state (bytes.take 64)) (bytes.drop 64)

def digest (message : Bytes) : Bytes :=
  let bytes := padded message
  let state := runBlocks (bytes.length / 64) .initial bytes
  [state.a, state.b, state.c, state.d].flatMap fun word => bytesOf 4 word.toNat

end Thumbnailing.Md5
