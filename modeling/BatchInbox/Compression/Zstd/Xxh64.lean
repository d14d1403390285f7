/-!
# XXH64

The 64-bit hash whose low half closes a zstd frame, with seed 0.  Four lanes each take eight bytes
of every 32-byte stripe; their mix, the length and the bytes behind the last stripe are folded into
one word, whose bits are then spread.
-/

set_option autoImplicit false
namespace BatchInbox.Xxh64

def prime1 : UInt64 := 0x9E3779B185EBCA87
def prime2 : UInt64 := 0xC2B2AE3D27D4EB4F
def prime3 : UInt64 := 0x165667B19E3779F9
def prime4 : UInt64 := 0x85EBCA77C2B2AE63
def prime5 : UInt64 := 0x27D4EB2F165667C5

def rotateLeft (x k : UInt64) : UInt64 :=
  (x <<< k) ||| (x >>> (64 - k))

/-- The little-endian word of `width ≤ 8` bytes at `i`. -/
def word (data : ByteArray) (i : Nat) : (width : Nat) → UInt64
  | 0 => 0
  | width + 1 => (data[i]?.getD 0).toUInt64 ||| (word data (i + 1) width <<< 8)

/-- One lane takes in eight bytes. -/
def round (lane input : UInt64) : UInt64 :=
  rotateLeft (lane + input * prime2) 31 * prime1

/-- The four lanes. -/
structure Lanes where
  a : UInt64
  b : UInt64
  c : UInt64
  d : UInt64

def Lanes.start : Lanes := ⟨prime1 + prime2, prime2, 0, 0 - prime1⟩

/-- Takes in `count` stripes from `i` on. -/
def stripes (data : ByteArray) (i : Nat) (lanes : Lanes) : (count : Nat) → Lanes
  | 0 => lanes
  | count + 1 =>
    let next : Lanes := ⟨round lanes.a (word data i 8), round lanes.b (word data (i + 8) 8),
      round lanes.c (word data (i + 16) 8), round lanes.d (word data (i + 24) 8)⟩
    stripes data (i + 32) next count

/-- Folds one lane into the hash. -/
def merge (hash lane : UInt64) : UInt64 :=
  (hash ^^^ round 0 lane) * prime1 + prime4

/-- The lanes as one word. -/
def Lanes.mix (l : Lanes) : UInt64 :=
  let sum := rotateLeft l.a 1 + rotateLeft l.b 7 + rotateLeft l.c 12 + rotateLeft l.d 18
  merge (merge (merge (merge sum l.a) l.b) l.c) l.d

/-- Folds in what is left behind the last stripe, in the largest pieces that fit. -/
def tail (data : ByteArray) (i : Nat) (hash : UInt64) : UInt64 :=
  if i + 8 ≤ data.size then
    tail data (i + 8) (rotateLeft (hash ^^^ round 0 (word data i 8)) 27 * prime1 + prime4)
  else if i + 4 ≤ data.size then
    tail data (i + 4) (rotateLeft (hash ^^^ (word data i 4 * prime1)) 23 * prime2 + prime3)
  else if i < data.size then
    tail data (i + 1) (rotateLeft (hash ^^^ (word data i 1 * prime5)) 11 * prime1)
  else hash
  termination_by data.size - i

/-- Spreads every bit of the hash over all of it. -/
def avalanche (hash : UInt64) : UInt64 :=
  let hash := (hash ^^^ (hash >>> 33)) * prime2
  let hash := (hash ^^^ (hash >>> 29)) * prime3
  hash ^^^ (hash >>> 32)

/-- The hash of `data`. -/
def hash (data : ByteArray) : UInt64 :=
  let count := data.size / 32
  let start := if count = 0 then prime5 else (stripes data 0 .start count).mix
  avalanche (tail data (32 * count) (start + data.size.toUInt64))

end BatchInbox.Xxh64
