import BatchInbox.Bytes

/-!
# Frames

A channel is cut into numbered frames, and a payload in the inbox carries some frames of any
channels behind a version byte.  A frame is its channel's id, its number, the length of its data,
the data, and a byte that says whether it is the channel's last.

A payload with a malformed frame carries no frames at all.
-/

set_option autoImplicit false
namespace BatchInbox

/-- A piece of a channel. -/
structure Frame where
  channel : ChannelId
  number : UInt16
  data : Bytes
  isLast : Bool
  deriving DecidableEq

namespace Frame

/-- The version of payloads that hold frames. -/
def version : UInt8 := 0

/-- The longest data of a frame. -/
def maxDataLength : Nat := 1000000

/-- What is wrong with a payload. -/
inductive Error where
  | unknownVersion (version : UInt8)
  | incomplete
  | tooLarge (length : Nat)
  | invalidIsLast (byte : UInt8)
  deriving DecidableEq, Repr

/-- The text of an error. -/
def Error.message : Error → String
  | unknownVersion version => s!"unknown derivation version: 0x{Bytes.toHex [version]}"
  | incomplete => "incomplete frame data"
  | tooLarge length => s!"frame data length {length} exceeds maximum"
  | invalidIsLast byte => s!"invalid is_last byte: {byte}"

/-! ## Writing -/

/-- The frame in a payload. -/
def encode (f : Frame) : Bytes :=
  f.channel.toList ++ Bytes.ofNat 2 f.number.toNat ++ Bytes.ofNat 4 f.data.length ++ f.data ++
    [if f.isLast then 1 else 0]

/-- The length of a frame in a payload. -/
def encodedLength (f : Frame) : Nat := 23 + f.data.length

@[simp]
theorem length_encode (f : Frame) : f.encode.length = f.encodedLength := by
  simp [encode, encodedLength, f.channel.length_toList]
  omega

/-- The payload with the given frames. -/
def encodeAll (frames : List Frame) : Bytes :=
  version :: frames.flatMap encode

/-! ## Reading -/

/-- Reads the data of a frame and what follows it, behind the length. -/
def readData (channel : ChannelId) (number : UInt16) (length : Nat) (bytes : Bytes) :
    Except Error (Frame × Bytes) :=
  if bytes.isEmpty then .error .incomplete
  else if maxDataLength < length then .error (.tooLarge length)
  else
    match bytes.split? length with
    | none | some (_, []) => .error .incomplete
    | some (data, 0 :: rest) => .ok (⟨channel, number, data, false⟩, rest)
    | some (data, 1 :: rest) => .ok (⟨channel, number, data, true⟩, rest)
    | some (_, byte :: _) => .error (.invalidIsLast byte)

/-- Reads one frame, with what follows it. -/
def readNext (bytes : Bytes) : Except Error (Frame × Bytes) :=
  match BytesN.split? 16 bytes with
  | none => .error .incomplete
  | some (channel, bytes) =>
    match bytes.split? 2 with
    | none => .error .incomplete
    | some (number, bytes) =>
      match bytes.split? 4 with
      | none => .error .incomplete
      | some (length, bytes) => readData channel number.toNat.toUInt16 length.toNat bytes

/-- Reads frames until the input is used up; `acc` holds those read before, in reverse.  Every round
takes a frame. -/
def readAll (acc : List Frame) : (rounds : Nat) → Bytes → Except Error (List Frame)
  | 0, _ => .ok acc.reverse
  | rounds + 1, bytes =>
    if bytes.isEmpty then .ok acc.reverse
    else
      match readNext bytes with
      | .error e => .error e
      | .ok (frame, rest) => readAll (frame :: acc) rounds rest

/-- The frames of a payload; an empty one has none. -/
def decodeAll (payload : Bytes) : Except Error (List Frame) :=
  match payload with
  | [] => .ok []
  | byte :: bytes =>
    if byte = version then readAll [] bytes.length bytes else .error (.unknownVersion byte)

end Frame
end BatchInbox
