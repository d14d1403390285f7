import BatchInbox.Bytes

/-!
# SHA-256

The message is padded to blocks of 64 bytes.  Each block is mixed into a state of eight words in 64
rounds; a round takes one word of the block's schedule, of which only the next 16 words are kept.
-/

set_option autoImplicit false
namespace BatchInbox.Sha256

/-- The state between rounds. -/
structure State where
  a : UInt32
  b : UInt32
  c : UInt32
  d : UInt32
  e : UInt32
  f : UInt32
  g : UInt32
  h : UInt32

/-- The state before the first block. -/
def start : State :=
  ⟨0x6a09e667, 0xbb67ae85, 0x3c6ef372, 0xa54ff53a, 0x510e527f, 0x9b05688c, 0x1f83d9ab, 0x5be0cd19⟩

/-- The constants of the rounds. -/
def constants : List UInt32 :=
  [0x428a2f98, 0x71374491, 0xb5c0fbcf, 0xe9b5dba5, 0x3956c25b, 0x59f111f1, 0x923f82a4, 0xab1c5ed5,
    0xd807aa98, 0x12835b01, 0x243185be, 0x550c7dc3, 0x72be5d74, 0x80deb1fe, 0x9bdc06a7, 0xc19bf174,
    0xe49b69c1, 0xefbe4786, 0x0fc19dc6, 0x240ca1cc, 0x2de92c6f, 0x4a7484aa, 0x5cb0a9dc, 0x76f988da,
    0x983e5152, 0xa831c66d, 0xb00327c8, 0xbf597fc7, 0xc6e00bf3, 0xd5a79147, 0x06ca6351, 0x14292967,
    0x27b70a85, 0x2e1b2138, 0x4d2c6dfc, 0x53380d13, 0x650a7354, 0x766a0abb, 0x81c2c92e, 0x92722c85,
    0xa2bfe8a1, 0xa81a664b, 0xc24b8b70, 0xc76c51a3, 0xd192e819, 0xd6990624, 0xf40e3585, 0x106aa070,
    0x19a4c116, 0x1e376c08, 0x2748774c, 0x34b0bcb5, 0x391c0cb3, 0x4ed8aa4a, 0x5b9cca4f, 0x682e6ff3,
    0x748f82ee, 0x78a5636f, 0x84c87814, 0x8cc70208, 0x90befffa, 0xa4506ceb, 0xbef9a3f7, 0xc67178f2]

/-- The bits of a word turned to the right. -/
def rotate (x k : UInt32) : UInt32 := x >>> k ||| x <<< (32 - k)

/-- The word of the schedule that comes 16 words behind the first of `words`. -/
def scheduleNext (words : List UInt32) : UInt32 :=
  let x := words.getD 1 0
  let y := words.getD 14 0
  words.getD 0 0 + (rotate x 7 ^^^ rotate x 18 ^^^ x >>> 3) + words.getD 9 0 +
    (rotate y 17 ^^^ rotate y 19 ^^^ y >>> 10)

/-- The state behind a round. -/
def round (s : State) (constant word : UInt32) : State :=
  let choice := (s.e &&& s.f) ^^^ (~~~s.e &&& s.g)
  let majority := (s.a &&& s.b) ^^^ (s.a &&& s.c) ^^^ (s.b &&& s.c)
  let t1 := s.h + (rotate s.e 6 ^^^ rotate s.e 11 ^^^ rotate s.e 25) + choice + constant + word
  let t2 := (rotate s.a 2 ^^^ rotate s.a 13 ^^^ rotate s.a 22) + majority
  ⟨t1 + t2, s.a, s.b, s.c, s.d + t1, s.e, s.f, s.g⟩

/-- The state behind the rounds with the given constants, from the words that come next. -/
def rounds : List UInt32 → List UInt32 → State → State
  | [], _, s => s
  | constant :: constants, words, s =>
    rounds constants (words.drop 1 ++ [scheduleNext words]) (round s constant (words.getD 0 0))

/-- The sum of two states. -/
def State.add (s t : State) : State :=
  ⟨s.a + t.a, s.b + t.b, s.c + t.c, s.d + t.d, s.e + t.e, s.f + t.f, s.g + t.g, s.h + t.h⟩

/-- The words of a block. -/
def blockWords (block : Bytes) : List UInt32 :=
  (List.range 16).map fun i => (Bytes.toNat ((block.drop (4 * i)).take 4)).toUInt32

/-- The state behind `count` blocks. -/
def blocks : (count : Nat) → Bytes → State → State
  | 0, _, s => s
  | count + 1, bytes, s =>
    blocks count (bytes.drop 64) (s.add (rounds constants (blockWords (bytes.take 64)) s))

/-- The message with a bit behind it, zeros, and its length in bits. -/
def pad (message : Bytes) : Bytes :=
  message ++ 0x80 :: List.replicate ((119 - message.length % 64) % 64) 0 ++
    Bytes.ofNat 8 (8 * message.length)

/-- The bytes of a state. -/
def State.bytes (s : State) : Hash where
  toList := [s.a, s.b, s.c, s.d, s.e, s.f, s.g, s.h].flatMap fun w => Bytes.ofNat 4 w.toNat
  length_toList := by simp

/-- The hash of a message. -/
def hash (message : Bytes) : Hash :=
  let padded := pad message
  (blocks (padded.length / 64) padded start).bytes

end BatchInbox.Sha256
