/-
The MD5 message digest (RFC 1321).

# Contents

A message is padded to whole blocks of sixty-four bytes (`padded`), each
block is mixed into four words (`State.mix`), and the digest is the four
words, least significant byte first (`digest`).

Every step is a fold over a list of known length, so that the digest of
any message is sixteen bytes (`length_digest`).
-/

namespace Warden.Digest.Md5

-- ============================================================= constants

/-- The constant of each step: the integer part of 2 ^ 32 * abs (sin (i + 1)). -/
def sines : List UInt32 :=
  [0xd76aa478, 0xe8c7b756, 0x242070db, 0xc1bdceee, 0xf57c0faf, 0x4787c62a, 0xa8304613, 0xfd469501,
   0x698098d8, 0x8b44f7af, 0xffff5bb1, 0x895cd7be, 0x6b901122, 0xfd987193, 0xa679438e, 0x49b40821,
   0xf61e2562, 0xc040b340, 0x265e5a51, 0xe9b6c7aa, 0xd62f105d, 0x02441453, 0xd8a1e681, 0xe7d3fbc8,
   0x21e1cde6, 0xc33707d6, 0xf4d50d87, 0x455a14ed, 0xa9e3e905, 0xfcefa3f8, 0x676f02d9, 0x8d2a4c8a,
   0xfffa3942, 0x8771f681, 0x6d9d6122, 0xfde5380c, 0xa4beea44, 0x4bdecfa9, 0xf6bb4b60, 0xbebfbc70,
   0x289b7ec6, 0xeaa127fa, 0xd4ef3085, 0x04881d05, 0xd9d4d039, 0xe6db99e5, 0x1fa27cf8, 0xc4ac5665,
   0xf4292244, 0x432aff97, 0xab9423a7, 0xfc93a039, 0x655b59c3, 0x8f0ccc92, 0xffeff47d, 0x85845dd1,
   0x6fa87e4f, 0xfe2ce6e0, 0xa3014314, 0x4e0811a1, 0xf7537e82, 0xbd3af235, 0x2ad7d2bb, 0xeb86d391]

/-- How far each step of a round turns its word; four steps, repeated. -/
def turns : Nat → List UInt32
  | 0 => [7, 12, 17, 22]
  | 1 => [5, 9, 14, 20]
  | 2 => [4, 11, 16, 23]
  | _ => [6, 10, 15, 21]

/-- Which of a block's sixteen words a step takes. -/
def wordIndex (step : Nat) : Nat :=
  match step / 16 with
  | 0 => step
  | 1 => (5 * step + 1) % 16
  | 2 => (3 * step + 5) % 16
  | _ => (7 * step) % 16

-- =============================================================== mixing

/-- The four chained words. -/
structure State where
  a : UInt32
  b : UInt32
  c : UInt32
  d : UInt32
deriving DecidableEq, Repr

/-- The words before the first block. -/
def State.start : State := ⟨0x67452301, 0xefcdab89, 0x98badcfe, 0x10325476⟩

/-- The round's function of three words. -/
def combine (step : Nat) (b c d : UInt32) : UInt32 :=
  match step / 16 with
  | 0 => (b &&& c) ||| (~~~b &&& d)
  | 1 => (d &&& b) ||| (~~~d &&& c)
  | 2 => b ^^^ c ^^^ d
  | _ => c ^^^ (b ||| ~~~d)

/-- Turns a word to the left. -/
def rotate (x n : UInt32) : UInt32 := (x <<< n) ||| (x >>> (32 - n))

/-- One of the sixty-four steps on a block. -/
def State.step (block : List UInt32) (s : State) (sine : UInt32) (step : Nat) : State :=
  let word := block.getD (wordIndex step) 0
  let turn := (turns (step / 16)).getD (step % 4) 0
  let f := s.a + combine step s.b s.c s.d + sine + word
  ⟨s.d, s.b + rotate f turn, s.b, s.c⟩

/-- Mixes one block into the state. -/
def State.mix (s : State) (block : List UInt32) : State :=
  let t := sines.zipIdx.foldl (fun t (sine, step) => t.step block sine step) s
  ⟨s.a + t.a, s.b + t.b, s.c + t.c, s.d + t.d⟩

-- ============================================================ messages

/-- The `n` bytes of a number, least significant first. -/
def littleEndian : Nat → Nat → List UInt8
  | 0, _ => []
  | n + 1, x => UInt8.ofNat (x % 256) :: littleEndian n (x / 256)

/-- A message closed by one set bit, zeros up to a whole block less eight
bytes, and its length in bits. -/
def padded (message : List UInt8) : List UInt8 :=
  let zeros := (55 + 64 - message.length % 64) % 64
  message ++ 0x80 :: List.replicate zeros 0 ++ littleEndian 8 (message.length * 8)

/-- Four bytes to a word, least significant first. -/
def words : List UInt8 → List UInt32
  | w :: x :: y :: z :: r =>
    (w.toUInt32 ||| x.toUInt32 <<< 8 ||| y.toUInt32 <<< 16 ||| z.toUInt32 <<< 24) :: words r
  | _ => []

/-- Mixes all blocks of sixteen words; `blocks` is their number. -/
def State.mixAll : Nat → State → List UInt32 → State
  | 0, s, _ => s
  | blocks + 1, s, ws => State.mixAll blocks (s.mix (ws.take 16)) (ws.drop 16)

/-- The digest of a message, sixteen bytes. -/
def digest (message : List UInt8) : List UInt8 :=
  let ws := words (padded message)
  let s := State.start.mixAll (ws.length / 16) ws
  [s.a, s.b, s.c, s.d].flatMap fun w => littleEndian 4 w.toNat

@[simp] theorem length_littleEndian (n x : Nat) : (littleEndian n x).length = n := by
  induction n generalizing x with
  | zero => rfl
  | succ n ih => simp [littleEndian, ih]

/-- Every digest has sixteen bytes. -/
theorem length_digest (message : List UInt8) : (digest message).length = 16 := by
  simp [digest]

end Warden.Digest.Md5
