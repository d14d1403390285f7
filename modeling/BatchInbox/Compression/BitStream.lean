import BatchInbox.Compression.Unpacker

/-!
# Reading bits, least significant first

Deflate and brotli are streams of bits, filled into bytes from the least significant end.  A reader
is a function of the whole data and a bit position; what it returns comes with the position behind
it.  Nothing can be read past the end: the reader fails with `truncated` there, and never sees the
bits that are missing.
-/

set_option autoImplicit false
namespace BatchInbox

/-- A computation that reads bits of fixed data from a position on. -/
abbrev Bits := ReaderT ByteArray (StateT Nat (Except Corruption))

namespace Bits

/-- Byte `i` of the data; the bytes behind its end are zero. -/
def byteAt (data : ByteArray) (i : Nat) : Nat :=
  (data[i]?.getD 0).toNat

/-- The `width ≤ 32` bits at bit position `pos`, the first of them least significant. -/
def field (data : ByteArray) (pos width : Nat) : Nat :=
  let i := pos / 8
  let window := byteAt data i + 0x100 * byteAt data (i + 1) + 0x10000 * byteAt data (i + 2) +
    0x1000000 * byteAt data (i + 3) + 0x100000000 * byteAt data (i + 4)
  (window >>> (pos % 8)) % (1 <<< width)

/-- The next `width ≤ 32` bits as a number. -/
def take (width : Nat) : Bits Nat := fun data pos =>
  if pos + width ≤ 8 * data.size then .ok (field data pos width, pos + width)
  else .error .truncated

/-- The next bit, `0` or `1`. -/
def bit : Bits Nat := fun data pos =>
  if pos < 8 * data.size then .ok ((byteAt data (pos / 8) >>> (pos % 8)) % 2, pos + 1)
  else .error .truncated

/-- Skips to the next byte boundary and returns the bits in between as a number. -/
def align : Bits Nat := do
  take ((8 - (← get) % 8) % 8)

/-- The data breaks a rule of its format here. -/
def invalid {α : Type} : Bits α := throw .invalid

/-- Goes on only if the data keeps a rule of its format. -/
def require (rule : Bool) : Bits Unit :=
  if rule then pure () else invalid

end Bits
end BatchInbox
