import DeadCode.Text.Quoted

/-!
# MD5 digests

The digest of a byte list, sixteen bytes that stand for it in file names. The message is filled up to a multiple of 64 bytes
with a one bit, zeros and its length in bits; each block of sixteen words then changes the state in 64 rounds.
-/

namespace DeadCode.Md5
set_option autoImplicit false

/-- The four words of the state. -/
structure State where
  a : UInt32
  b : UInt32
  c : UInt32
  d : UInt32
  deriving DecidableEq, Repr

/-- The state at the start. -/
def start : State := ⟨0x67452301, 0xefcdab89, 0x98badcfe, 0x10325476⟩

/-- The constant of each round: the whole part of 2 ^ 32 times the sine of its number. -/
def constants : List UInt32 := [
  0xd76aa478, 0xe8c7b756, 0x242070db, 0xc1bdceee, 0xf57c0faf, 0x4787c62a, 0xa8304613, 0xfd469501,
  0x698098d8, 0x8b44f7af, 0xffff5bb1, 0x895cd7be, 0x6b901122, 0xfd987193, 0xa679438e, 0x49b40821,
  0xf61e2562, 0xc040b340, 0x265e5a51, 0xe9b6c7aa, 0xd62f105d, 0x02441453, 0xd8a1e681, 0xe7d3fbc8,
  0x21e1cde6, 0xc33707d6, 0xf4d50d87, 0x455a14ed, 0xa9e3e905, 0xfcefa3f8, 0x676f02d9, 0x8d2a4c8a,
  0xfffa3942, 0x8771f681, 0x6d9d6122, 0xfde5380c, 0xa4beea44, 0x4bdecfa9, 0xf6bb4b60, 0xbebfbc70,
  0x289b7ec6, 0xeaa127fa, 0xd4ef3085, 0x04881d05, 0xd9d4d039, 0xe6db99e5, 0x1fa27cf8, 0xc4ac5665,
  0xf4292244, 0x432aff97, 0xab9423a7, 0xfc93a039, 0x655b59c3, 0x8f0ccc92, 0xffeff47d, 0x85845dd1,
  0x6fa87e4f, 0xfe2ce6e0, 0xa3014314, 0x4e0811a1, 0xf7537e82, 0xbd3af235, 0x2ad7d2bb, 0xeb86d391]

/-- The rotation of each round. -/
def rotations : List UInt32 :=
  let four := fun (xs : List UInt32) => xs ++ xs ++ xs ++ xs
  four [7, 12, 17, 22] ++ four [5, 9, 14, 20] ++ four [4, 11, 16, 23] ++ four [6, 10, 15, 21]

/-- A word turned to the left. -/
def rotate (x n : UInt32) : UInt32 := (x <<< n) ||| (x >>> (32 - n))

/-- The mixture of three words and the number of the message word, for a round. -/
def mix (i : Nat) (b c d : UInt32) : UInt32 × Nat :=
  if i < 16 then ((b &&& c) ||| (~~~b &&& d), i)
  else if i < 32 then ((d &&& b) ||| (~~~d &&& c), (5 * i + 1) % 16)
  else if i < 48 then (b ^^^ c ^^^ d, (3 * i + 5) % 16)
  else (c ^^^ (b ||| ~~~d), 7 * i % 16)

/-- One round. -/
def round (words : List UInt32) (s : State) (r : Nat × UInt32 × UInt32) : State :=
  let (f, g) := mix r.1 s.b s.c s.d
  ⟨s.d, s.b + rotate (s.a + f + r.2.1 + (words[g]?).getD 0) r.2.2, s.b, s.c⟩

/-- A word of four bytes, the low one first. -/
def word (bs : List UInt8) : UInt32 := bs.foldr (fun b w => (w <<< 8) ||| b.toUInt32) 0

/-- The bytes of a number, the low one first. -/
def bytesOf (count n : Nat) : List UInt8 := (List.range count).map fun i => UInt8.ofNat (n / Nat.pow 256 i % 256)

/-- A list in pieces of a size, of at most the given number. -/
def pieces (size : Nat) : Nat → List UInt8 → List (List UInt8)
  | 0, _ => []
  | n + 1, bs => bs.take size :: pieces size n (bs.drop size)

/-- The state after a block. -/
def block (s : State) (bs : List UInt8) : State :=
  let words := (pieces 4 16 bs).map word
  let t := ((List.range 64).zip (constants.zip rotations)).foldl (round words) s
  ⟨s.a + t.a, s.b + t.b, s.c + t.c, s.d + t.d⟩

/-- The message filled up to whole blocks. -/
def padded (bs : List UInt8) : List UInt8 :=
  bs ++ 0x80 :: List.replicate ((119 - bs.length % 64) % 64) 0 ++ bytesOf 8 (8 * bs.length)

/-- The digest of a message. -/
def digest (bs : List UInt8) : List UInt8 :=
  let message := padded bs
  let s := (pieces 64 (message.length / 64) message).foldl block start
  [s.a, s.b, s.c, s.d].flatMap fun w => bytesOf 4 w.toNat

/-- The digest of a message in hexadecimal digits. -/
def hex (bs : List UInt8) : String := String.ofList ((digest bs).flatMap fun b => Text.hexPadded 2 b.toNat)

end DeadCode.Md5
