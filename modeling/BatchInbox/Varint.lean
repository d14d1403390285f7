import BatchInbox.Bytes
import BatchInbox.Word

/-!
# Varints

A varint holds a number in groups of seven bits, the lowest group first.  Every byte but the last
has its high bit set.  Only the shortest form is read, of at most ten bytes; the bits of the tenth
byte that do not fit into a word are dropped.
-/

set_option autoImplicit false
namespace BatchInbox.Varint

/-- The longest varint. -/
def maxLength : Nat := 10

/-- The groups of a number. -/
def encodeNat (n : Nat) : Bytes :=
  if n < 128 then [n.toUInt8] else (n % 128 + 128).toUInt8 :: encodeNat (n / 128)
  termination_by n
  decreasing_by omega

/-- The varint of a word. -/
def encode (w : Word) : Bytes := encodeNat w.toNat

/-- Reads a number of at most `room` groups, with the rest behind it.  A number of several groups
must not end in an empty one. -/
def decodeNat? : (room : Nat) → (isFirst : Bool) → Bytes → Option (Nat × Bytes)
  | 0, _, _ => none
  | _ + 1, _, [] => none
  | room + 1, isFirst, b :: rest =>
    if b.toNat < 128 then
      if b = 0 && !isFirst then none else some (b.toNat, rest)
    else
      match decodeNat? room false rest with
      | none => none
      | some (high, rest) => some (b.toNat % 128 + 128 * high, rest)

/-- Reads a word, with the rest behind it. -/
def decode? (bytes : Bytes) : Option (Word × Bytes) :=
  (decodeNat? maxLength true bytes).map fun (n, rest) => (n.toUInt64, rest)

end BatchInbox.Varint
