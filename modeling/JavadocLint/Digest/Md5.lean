import JavadocLint.Text.Basic

/- The MD5 digest of a byte string. -/
namespace JavadocLint.Md5

structure State where
  a : UInt32
  b : UInt32
  c : UInt32
  d : UInt32
  deriving DecidableEq, Repr

def initial : State := ⟨0x67452301, 0xefcdab89, 0x98badcfe, 0x10325476⟩

def State.add (s t : State) : State := ⟨s.a + t.a, s.b + t.b, s.c + t.c, s.d + t.d⟩

/-- The first 32 bits after the point of the absolute sines of 1, 2, … 64. -/
def sines : Array UInt32 := #[
   0xd76aa478, 0xe8c7b756, 0x242070db, 0xc1bdceee, 0xf57c0faf, 0x4787c62a,
   0xa8304613, 0xfd469501, 0x698098d8, 0x8b44f7af, 0xffff5bb1, 0x895cd7be,
   0x6b901122, 0xfd987193, 0xa679438e, 0x49b40821, 0xf61e2562, 0xc040b340,
   0x265e5a51, 0xe9b6c7aa, 0xd62f105d, 0x02441453, 0xd8a1e681, 0xe7d3fbc8,
   0x21e1cde6, 0xc33707d6, 0xf4d50d87, 0x455a14ed, 0xa9e3e905, 0xfcefa3f8,
   0x676f02d9, 0x8d2a4c8a, 0xfffa3942, 0x8771f681, 0x6d9d6122, 0xfde5380c,
   0xa4beea44, 0x4bdecfa9, 0xf6bb4b60, 0xbebfbc70, 0x289b7ec6, 0xeaa127fa,
   0xd4ef3085, 0x04881d05, 0xd9d4d039, 0xe6db99e5, 0x1fa27cf8, 0xc4ac5665,
   0xf4292244, 0x432aff97, 0xab9423a7, 0xfc93a039, 0x655b59c3, 0x8f0ccc92,
   0xffeff47d, 0x85845dd1, 0x6fa87e4f, 0xfe2ce6e0, 0xa3014314, 0x4e0811a1,
   0xf7537e82, 0xbd3af235, 0x2ad7d2bb, 0xeb86d391]

def rotations : Array UInt32 := #[
   7, 12, 17, 22, 5, 9, 14, 20, 4, 11, 16, 23, 6, 10, 15, 21]

def rotateLeft (x n : UInt32) : UInt32 := (x <<< n) ||| (x >>> (32 - n))

def mix (i : Nat) (s : State) : UInt32 × Nat :=
  if i < 16 then ((s.b &&& s.c) ||| (~~~s.b &&& s.d), i)
  else if i < 32 then ((s.d &&& s.b) ||| (~~~s.d &&& s.c), (5 * i + 1) % 16)
  else if i < 48 then (s.b ^^^ s.c ^^^ s.d, (3 * i + 5) % 16)
  else (s.c ^^^ (s.b ||| ~~~s.d), 7 * i % 16)

def step (words : Array UInt32) (s : State) (i : Nat) : State :=
  let (f, g) := mix i s
  let sum := s.a + f + sines.getD i 0 + words.getD g 0
  ⟨s.d, s.b + rotateLeft sum (rotations.getD (i / 16 * 4 + i % 4) 0), s.b, s.c⟩

def compress (s : State) (words : Array UInt32) : State :=
  s.add ((List.range 64).foldl (step words) s)

def littleEndian : Text → List UInt32
  | a :: b :: c :: d :: rest =>
    (a.toUInt32 ||| b.toUInt32 <<< 8 ||| c.toUInt32 <<< 16 ||| d.toUInt32 <<< 24)
      :: littleEndian rest
  | _ => []

def lowBytes : Nat → Nat → Text
  | 0, _ => []
  | n + 1, x => (x % 256).toUInt8 :: lowBytes n (x / 256)

/-- The message with a one bit, zeros and its length in bits, a whole number of blocks. -/
def padded (t : Text) : Text :=
  t ++ 0x80 :: Text.replicate ((119 - t.length % 64) % 64) 0 ++ lowBytes 8 (t.length * 8)

def blocks : Nat → List UInt32 → List (Array UInt32)
  | 0, _ => []
  | _ + 1, [] => []
  | n + 1, words => (words.take 16).toArray :: blocks n (words.drop 16)

def wordBytes (w : UInt32) : Text := lowBytes 4 w.toNat

def digest (t : Text) : Text :=
  let words := littleEndian (padded t)
  let s := (blocks (words.length / 16) words).foldl compress initial
  wordBytes s.a ++ wordBytes s.b ++ wordBytes s.c ++ wordBytes s.d

def hexDigest (t : Text) : Text := (digest t).flatMap fun b => Text.hex 2 b.toNat

end JavadocLint.Md5
