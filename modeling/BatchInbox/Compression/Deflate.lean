import BatchInbox.Compression.PrefixCode
import BatchInbox.Compression.Window

/-!
# Deflate blocks

A deflate stream is a row of blocks, the last one flagged.  A block is stored bytes, or a row of
codewords that stand for literal bytes and for references back into the output; its codes are
either fixed by the format or sent in front of it.

`Deflate.advance` goes one step down the stream: over a block header, over the stored bytes at
hand, or over one codeword.
-/

set_option autoImplicit false
namespace BatchInbox.Deflate

/-- Where in the stream a decompressor stands. -/
inductive Phase where
  /-- In front of a block header. -/
  | header
  /-- Inside a stored block with `left` bytes to go. -/
  | stored (last : Bool) (left : Nat)
  /-- Inside a block of codewords. -/
  | coded (last : Bool) (literals distances : PrefixCode)
  /-- Behind the last block. -/
  | ended

/-- The position in the data, the output so far and the place in the stream. -/
structure State where
  pos : Nat
  out : ByteArray
  phase : Phase

/-- The room the stream asks for: a stored block claims its next byte before it looks for it. -/
def State.demand (s : State) : Nat :=
  match s.phase with
  | .stored _ (_ + 1) => s.out.size + 1
  | _ => s.out.size

/-- Behind a block. -/
def afterBlock (last : Bool) : Phase :=
  if last then .ended else .header

/-! ## Codes -/

/-- The literal and length code of a block with fixed codes. -/
def fixedLiterals : PrefixCode :=
  .ofLengths (Array.replicate 144 8 ++ Array.replicate 112 9 ++ Array.replicate 24 7 ++
    Array.replicate 8 8)

/-- The distance code of a block with fixed codes. -/
def fixedDistances : PrefixCode :=
  .ofLengths (Array.replicate 32 5)

/-- The symbols of the code of code lengths, in the order in which their lengths are sent. -/
def lengthOrder : List Nat :=
  [16, 17, 18, 0, 8, 7, 9, 6, 10, 5, 11, 4, 12, 3, 13, 2, 14, 1, 15]

/-- The code with the given lengths.  It must be complete; one with a single codeword, or none, may
waste the rest of its tree. -/
def code? (lengths : Array Nat) : Bits PrefixCode := do
  Bits.require (PrefixCode.isComplete lengths || PrefixCode.used lengths ≤ 1)
  return .ofLengths lengths

/-- Reads `total` code lengths written with `code`; runs of equal lengths are shortened.  Every
round adds a length, so `total` rounds are enough. -/
def readLengths (code : PrefixCode) (total : Nat) : (rounds : Nat) → Array Nat → Bits (Array Nat)
  | 0, lengths => return lengths
  | rounds + 1, lengths => do
    if total ≤ lengths.size then
      return lengths
    let symbol ← code.decode
    if symbol < 16 then
      readLengths code total rounds (lengths.push symbol)
    else
      let (value, run) ← match symbol with
        | 16 => do
          Bits.require (lengths.size ≠ 0)
          pure (lengths.back?.getD 0, 3 + (← Bits.take 2))
        | 17 => do pure (0, 3 + (← Bits.take 3))
        | _ => do pure (0, 11 + (← Bits.take 7))
      readLengths code total rounds (lengths ++ Array.replicate run value)

/-- Reads the lengths of the code of code lengths. -/
def readLengthLengths : List Nat → Array Nat → Bits (Array Nat)
  | [], lengths => return lengths
  | symbol :: order, lengths => do
    readLengthLengths order (lengths.setIfInBounds symbol (← Bits.take 3))

/-- Reads the codes in front of a block: for literals and lengths, and for distances. -/
def readCodes : Bits (PrefixCode × PrefixCode) := do
  let literals := 257 + (← Bits.take 5)
  let distances := 1 + (← Bits.take 5)
  let sent := 4 + (← Bits.take 4)
  Bits.require (literals ≤ 286 && distances ≤ 30)
  let lengthLengths ← readLengthLengths (lengthOrder.take sent) (Array.replicate 19 0)
  Bits.require (PrefixCode.isComplete lengthLengths)
  let total := literals + distances
  let lengths ← readLengths (.ofLengths lengthLengths) total total #[]
  Bits.require (lengths.size = total)
  let distanceCode ← code? (lengths.extract literals total)
  let literalCode ← code? (lengths.extract 0 literals)
  return (literalCode, distanceCode)

/-! ## Steps -/

/-- Reads a block header. -/
def readHeader : Bits Phase := do
  let last := (← Bits.take 1) = 1
  match ← Bits.take 2 with
  | 0 =>
    let _ ← Bits.align
    let length ← Bits.take 16
    let complement ← Bits.take 16
    Bits.require (length + complement = 0xffff)
    return .stored last length
  | 1 => return .coded last fixedLiterals fixedDistances
  | 2 =>
    let (literals, distances) ← readCodes
    return .coded last literals distances
  | _ => Bits.invalid

/-- The shortest match of each length symbol from 257 on, with the number of bits that say how much
longer it is. -/
def lengthTable : Array (Nat × Nat) :=
  #[(3, 0), (4, 0), (5, 0), (6, 0), (7, 0), (8, 0), (9, 0), (10, 0), (11, 1), (13, 1), (15, 1),
    (17, 1), (19, 2), (23, 2), (27, 2), (31, 2), (35, 3), (43, 3), (51, 3), (59, 3), (67, 4),
    (83, 4), (99, 4), (115, 4), (131, 5), (163, 5), (195, 5), (227, 5), (258, 0)]

/-- The nearest distance of each distance symbol, with the number of bits that say how much farther
it is. -/
def distanceTable : Array (Nat × Nat) :=
  #[(1, 0), (2, 0), (3, 0), (4, 0), (5, 1), (7, 1), (9, 2), (13, 2), (17, 3), (25, 3), (33, 4),
    (49, 4), (65, 5), (97, 5), (129, 6), (193, 6), (257, 7), (385, 7), (513, 8), (769, 8),
    (1025, 9), (1537, 9), (2049, 10), (3073, 10), (4097, 11), (6145, 11), (8193, 12), (12289, 12),
    (16385, 13), (24577, 13)]

/-- What a codeword stands for. -/
inductive Token where
  | literal (byte : UInt8)
  | endOfBlock
  | reference (length distance : Nat)

/-- The value of a symbol with extra bits. -/
def readExtra (table : Array (Nat × Nat)) (symbol : Nat) : Bits Nat :=
  match table[symbol]? with
  | none => Bits.invalid
  | some (base, width) => return base + (← Bits.take width)

/-- Reads the codewords of one token. -/
def readToken (literals distances : PrefixCode) : Bits Token := do
  let symbol ← literals.decode
  if symbol < 256 then
    return .literal symbol.toUInt8
  else if symbol = 256 then
    return .endOfBlock
  else
    let length ← readExtra lengthTable (symbol - 257)
    let distance ← readExtra distanceTable (← distances.decode)
    return .reference length distance

/-- Goes one step down the stream. -/
def advance (data : ByteArray) (s : State) : Except Corruption State :=
  match s with
  | ⟨pos, out, phase⟩ =>
    match phase with
    | .ended => .ok ⟨pos, out, .ended⟩
    | .header => do
      let (phase, pos) ← readHeader data pos
      .ok ⟨pos, out, phase⟩
    | .stored last 0 => .ok ⟨pos, out, afterBlock last⟩
    | .stored last left =>
      let start := pos / 8
      let count := min left (data.size - start)
      if count = 0 then .error .truncated
      else .ok ⟨pos + 8 * count, appendSlice out data start count, .stored last (left - count)⟩
    | .coded last literals distances =>
      match readToken literals distances data pos with
      | .error cause => .error cause
      | .ok (.literal byte, pos) => .ok ⟨pos, out.push byte, .coded last literals distances⟩
      | .ok (.endOfBlock, pos) => .ok ⟨pos, out, afterBlock last⟩
      | .ok (.reference length distance, pos) =>
        if out.size < distance then .error .invalid
        else .ok ⟨pos, copyBack out distance length, .coded last literals distances⟩

end BatchInbox.Deflate
