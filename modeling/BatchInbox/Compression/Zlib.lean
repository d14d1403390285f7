import BatchInbox.Compression.Deflate

/-!
# Zlib streams

A zlib stream is a two-byte header, a deflate stream, and the Adler-32 checksum of the content.
Whatever follows the checksum is ignored.
-/

set_option autoImplicit false
namespace BatchInbox.Zlib

/-! ## Checksum -/

/-- The Adler-32 checksum: a running sum of the bytes from 1, and a running sum of these sums, both
modulo 65521. -/
def adler32 (content : ByteArray) : UInt32 :=
  let sums := content.foldl
    (fun (sums : UInt32 × UInt32) byte =>
      let low := (sums.1 + byte.toUInt32) % 65521
      (low, (sums.2 + low) % 65521))
    ((1, 0) : UInt32 × UInt32)
  sums.2 <<< 16 ||| sums.1

/-- Reads the checksum behind the last block, most significant byte first. -/
def readChecksum : Bits UInt32 := do
  let _ ← Bits.align
  let mut sum : UInt32 := 0
  for _ in [0:4] do
    sum := sum <<< 8 ||| (← Bits.take 8).toUInt32
  return sum

/-! ## Decompressing -/

/-- Reads the header: the deflate method with a window of at most 32 KiB, no preset dictionary, and
check bits that make the two bytes a multiple of 31. -/
def readHeader : Bits Unit := do
  let method ← Bits.take 8
  let flags ← Bits.take 8
  Bits.require (method % 16 = 8 && method / 16 ≤ 7 && flags &&& 0x20 = 0 &&
    (256 * method + flags) % 31 = 0)

/-- The decompressor of `data` behind its header. -/
def unpacker (data : ByteArray) : Unpacker Deflate.State where
  step s :=
    match s with
    | ⟨pos, out, .ended⟩ =>
      match readChecksum data pos with
      | .error cause => .corrupt cause 0
      | .ok (sum, pos) =>
        if sum = adler32 out then .done ⟨pos, out, .ended⟩ else .corrupt .checksum 0
    | s =>
      match Deflate.advance data s with
      | .error cause => .corrupt cause 0
      | .ok s => .more s
  output s := s.out
  demand s := s.demand

/-- Decompresses a zlib stream to at most `limit` bytes.  Every step takes at least a bit of the
data, other than the one that starts on a stored block and the one that leaves it. -/
def decompress (data : ByteArray) (limit : Nat) : Except UnpackError ByteArray :=
  match readHeader data 0 with
  | .error cause => .error (.corrupt cause)
  | .ok ((), pos) => (unpacker data).run limit (8 * data.size + 8) ⟨pos, .empty, .header⟩

/-! ## Compressing -/

/-- The blocks that store `data` from `start` on. -/
def storedBlocks (data : ByteArray) (start : Nat) (out : ByteArray) : ByteArray :=
  let count := min 0xffff (data.size - start)
  let last := data.size ≤ start + count
  let out := out ++ ⟨#[if last then 1 else 0, count.toUInt8, (count / 256).toUInt8,
    (0xffff - count).toUInt8, ((0xffff - count) / 256).toUInt8]⟩
  let out := appendSlice out data start count
  if last then out else storedBlocks data (start + count) out
  termination_by data.size - start
  decreasing_by omega

/-- A zlib stream with the content `data`, in stored blocks. -/
def compress (data : ByteArray) : ByteArray :=
  let sum := adler32 data
  storedBlocks data 0 ⟨#[0x78, 0x01]⟩ ++
    ⟨#[(sum >>> 24).toUInt8, (sum >>> 16).toUInt8, (sum >>> 8).toUInt8, sum.toUInt8]⟩

end BatchInbox.Zlib
