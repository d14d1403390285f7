import BatchInbox.Compression.BitStream

/-!
# Bit streams read from their end

Zstd writes its entropy-coded streams so that they are read backwards.  The highest set bit of the
last byte is an end mark; below it, fields follow each other downwards until the first bit of the
stream.  A position is the number of bits that are left.
-/

set_option autoImplicit false
namespace BatchInbox.Zstd

/-- A computation that reads fields of fixed data downwards from a number of bits left. -/
abbrev BackBits := ReaderT ByteArray (StateT Nat (Except Corruption))

namespace BackBits

/-- The bits below the end mark, if there is one. -/
def bitLength? (data : ByteArray) : Option Nat :=
  match data[data.size - 1]? with
  | none => none
  | some last => if last = 0 then none else some (8 * (data.size - 1) + last.toNat.log2)

/-- The next `width ≤ 32` bits as a number. -/
def take (width : Nat) : BackBits Nat := fun data left =>
  if width ≤ left then .ok (Bits.field data (left - width) width, left - width)
  else .error .invalid

/-- The next `width ≤ 32` bits as a number, without going on; those that are missing are zero. -/
def peek (data : ByteArray) (left width : Nat) : Nat :=
  if width ≤ left then Bits.field data (left - width) width
  else Bits.field data 0 left <<< (width - left)

/-- Runs a reader over all of a stream: it has to use up every bit. -/
def runAll {α : Type} (reader : BackBits α) (data : ByteArray) : Except Corruption α :=
  match bitLength? data with
  | none => .error .invalid
  | some left =>
    match reader data left with
    | .error cause => .error cause
    | .ok (a, 0) => .ok a
    | .ok (_, _ + 1) => .error .invalid

end BackBits
end BatchInbox.Zstd
