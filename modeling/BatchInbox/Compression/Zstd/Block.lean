import BatchInbox.Compression.Window
import BatchInbox.Compression.Zstd.Huffman

/-!
# Compressed zstd blocks

A compressed block is a section of literals and a section of sequences.  A sequence copies some
literals and then repeats earlier output; the literals that no sequence asked for end the block.
Codes and recent offsets carry over from block to block of a frame.
-/

set_option autoImplicit false
namespace BatchInbox.Zstd

/-- No block takes up more than this, and no literals do. -/
def maxBlockSize : Nat := 1 <<< 17

/-- What a block may take over from the blocks before it in its frame. -/
structure Memory where
  huffman : Option HuffmanTable
  /-- The tables of literal lengths, offsets and match lengths. -/
  tables : Option (FseTable × FseTable × FseTable)
  /-- The three latest offsets, the last used one first. -/
  offsets : Nat × Nat × Nat

/-- What the first block of a frame starts from. -/
def Memory.fresh : Memory := ⟨none, none, (1, 4, 8)⟩

/-! ## Literals -/

/-- The literals of a block, the byte behind their section, and the code they leave behind. -/
structure Literals where
  bytes : ByteArray
  stop : Nat
  huffman : Option HuffmanTable

/-- The size of raw or repeated literals, and the size of the field that says it. -/
def readPlainSize (block : ByteArray) : Nat × Nat :=
  match Bits.field block 2 2 with
  | 1 => (Bits.field block 4 12, 2)
  | 3 => (Bits.field block 4 20, 3)
  | _ => (Bits.field block 3 5, 1)

/-- The size of compressed literals, their compressed size, the size of the fields that say these,
and whether they are in four streams. -/
def readCodedSizes (block : ByteArray) : Nat × Nat × Nat × Bool :=
  match Bits.field block 2 2 with
  | 0 => (Bits.field block 4 10, Bits.field block 14 10, 3, false)
  | 1 => (Bits.field block 4 10, Bits.field block 14 10, 3, true)
  | 2 => (Bits.field block 4 14, Bits.field block 18 14, 4, true)
  | _ => (Bits.field block 4 18, Bits.field block 22 18, 5, true)

/-- Reads the literals in front of a block, of which there may be `maxSize`. -/
def readLiterals (block : ByteArray) (maxSize : Nat) (memory : Memory) :
    Except Corruption Literals := do
  if block.size < 2 then .error .invalid
  match Bits.field block 0 2 with
  | 0 =>
    let (size, start) := readPlainSize block
    if maxSize < size || block.size < start + size then .error .invalid
    return ⟨block.extract start (start + size), start + size, memory.huffman⟩
  | 1 =>
    let (size, start) := readPlainSize block
    if maxSize < size || block.size < start + 1 then .error .invalid
    let byte := (Bits.byteAt block start).toUInt8
    return ⟨⟨Array.replicate size byte⟩, start + 1, memory.huffman⟩
  | kind =>
    if block.size < 5 then .error .invalid
    let (size, coded, start, four) := readCodedSizes block
    let stop := start + coded
    if maxSize < size || (four && size < 6) || block.size < stop then .error .invalid
    let content := block.extract start stop
    let (table, used) ← match kind, memory.huffman with
      | 3, none => .error .invalid
      | 3, some table => pure (table, 0)
      | _, _ =>
        let (table, used) ← HuffmanTable.read content
        if content.size ≤ used then .error .invalid
        pure (table, used)
    let streams := content.extract used content.size
    let bytes ← if four then table.decode4 streams size else table.decode streams size .empty
    return ⟨bytes, stop, some table⟩

/-! ## Codes of sequences -/

/-- The smallest literal length of each code, with the bits that say how much longer it is. -/
def literalLengths : Array (Nat × Nat) :=
  (Array.range 16).map (·, 0) ++
    #[(16, 1), (18, 1), (20, 1), (22, 1), (24, 2), (28, 2), (32, 3), (40, 3), (48, 4), (64, 6),
      (128, 7), (256, 8), (512, 9), (1024, 10), (2048, 11), (4096, 12), (8192, 13), (16384, 14),
      (32768, 15), (65536, 16)]

/-- The smallest match length of each code, with the bits that say how much longer it is. -/
def matchLengths : Array (Nat × Nat) :=
  (Array.range 32).map (· + 3, 0) ++
    #[(35, 1), (37, 1), (39, 1), (41, 1), (43, 2), (47, 2), (51, 3), (59, 3), (67, 4), (83, 4),
      (99, 5), (131, 7), (259, 8), (515, 9), (1027, 10), (2051, 11), (4099, 12), (8195, 13),
      (16387, 14), (32771, 15), (65539, 16)]

/-- The shares of a distribution in which rare symbols come last. -/
def sharesOf (cells : List Nat) (rare : Nat) : List Share :=
  cells.map .cells ++ List.replicate rare .rare

def defaultLiteralLengths : FseTable :=
  .build 6 (sharesOf [4, 3, 2, 2, 2, 2, 2, 2, 2, 2, 2, 2, 2, 1, 1, 1, 2, 2, 2, 2, 2, 2, 2, 2, 2, 3,
    2, 1, 1, 1, 1, 1] 4)

def defaultOffsets : FseTable :=
  .build 5 (sharesOf [1, 1, 1, 1, 1, 1, 2, 2, 2, 1, 1, 1, 1, 1, 1, 1, 1, 1, 1, 1, 1, 1, 1, 1] 5)

def defaultMatchLengths : FseTable :=
  .build 6 (sharesOf ([1, 4, 3, 2, 2, 2, 2, 2, 2] ++ List.replicate 37 1) 7)

/-- Reads one table of sequence codes at byte `start`: the default one, a constant, one sent here,
or the one used before. -/
def readTable (block : ByteArray) (start mode maxSymbol maxLog : Nat) (default : FseTable)
    (previous : Option FseTable) : Except Corruption (FseTable × Nat) :=
  match mode with
  | 0 => .ok (default, start)
  | 1 =>
    match block[start]? with
    | none => .error .invalid
    | some symbol =>
      if maxSymbol < symbol.toNat then .error .invalid
      else .ok (.constant symbol.toNat, start + 1)
  | 2 => FseTable.read block start maxSymbol maxLog
  | _ =>
    match previous with
    | none => .error .invalid
    | some table => .ok (table, start)

/-- Reads the number of sequences, with the byte behind it. -/
def readCount (block : ByteArray) (start : Nat) : Except Corruption (Nat × Nat) :=
  match block[start]? with
  | none => .error .invalid
  | some first =>
    let first := first.toNat
    if first < 0x80 then .ok (first, start + 1)
    else if first < 0xff then
      if block.size < start + 2 then .error .invalid
      else .ok ((first - 0x80) * 0x100 + Bits.byteAt block (start + 1), start + 2)
    else
      if block.size < start + 3 then .error .invalid
      else .ok (Bits.field block (8 * (start + 1)) 16 + 0x7f00, start + 3)

/-! ## Sequences -/

/-- A sequence as it is carried out: literals to copy, then a match. -/
structure Sequence where
  literals : Nat
  offset : Nat
  length : Nat

/-- The states of the three codes. -/
structure States where
  literals : Nat
  offset : Nat
  length : Nat

/-- The offset that an offset code and its bits stand for, and the latest offsets behind it.  Small
values name one of the latest offsets; a sequence without literals would gain nothing from the last
one, so there they count one further. -/
def readOffset (code : Nat) (noLiterals : Bool) (offsets : Nat × Nat × Nat) :
    BackBits (Nat × (Nat × Nat × Nat)) := do
  let (first, second, third) := offsets
  let value := 1 <<< code + (← BackBits.take code)
  if 3 < value then
    return (value - 3, (value - 3, first, second))
  else
    match if noLiterals then value + 1 else value with
    | 1 => return (first, (first, second, third))
    | 2 => return (second, (second, first, third))
    | 3 => return (third, (third, first, second))
    | _ => return (first - 1, (first - 1, first, second))

/-- The value of a code with extra bits. -/
def readLength (table : Array (Nat × Nat)) (code : Nat) : BackBits Nat := do
  let (base, width) := table.getD code (0, 0)
  return base + (← BackBits.take width)

/-- Carries out a sequence: `used` literals were copied before, and the frame began at `start`. -/
def Sequence.apply (s : Sequence) (literals : ByteArray) (used start : Nat) (out : ByteArray) :
    Except Corruption ByteArray :=
  if literals.size < used + s.literals then .error .invalid
  else
    let out := appendSlice out literals used s.literals
    if s.offset = 0 || out.size < start + s.offset then .error .invalid
    else .ok (copyBack out s.offset s.length)

/-- Reads and carries out `count` sequences.  The output may grow up to `room`. -/
def readSequences (tables : FseTable × FseTable × FseTable) (literals : ByteArray)
    (start room : Nat) :
    (count used : Nat) → States → (Nat × Nat × Nat) → ByteArray →
      BackBits (ByteArray × Nat × (Nat × Nat × Nat))
  | 0, used, _, offsets, out => return (out, used, offsets)
  | count + 1, used, states, offsets, out => fun data left =>
    let literalCode := (tables.1.cell states.literals).symbol
    let offsetCode := (tables.2.1.cell states.offset).symbol
    let lengthCode := (tables.2.2.cell states.length).symbol
    match readOffset offsetCode (literalCode = 0) offsets data left with
    | .error cause => .error cause
    | .ok ((offset, offsets), left) =>
    match readLength matchLengths lengthCode data left with
    | .error cause => .error cause
    | .ok (length, left) =>
    match readLength literalLengths literalCode data left with
    | .error cause => .error cause
    | .ok (copied, left) =>
    match Sequence.apply ⟨copied, offset, length⟩ literals used start out with
    | .error cause => .error cause
    | .ok out =>
    if room < out.size then .error .invalid
    else if count = 0 then .ok ((out, used + copied, offsets), left)
    else
      let advance : BackBits States := do
        let literals ← tables.1.next states.literals
        let length ← tables.2.2.next states.length
        let offset ← tables.2.1.next states.offset
        return ⟨literals, offset, length⟩
      match advance data left with
      | .error cause => .error cause
      | .ok (states, left) =>
        readSequences tables literals start room count (used + copied) states offsets out data left

/-- Reads and carries out all sequences of a block. -/
def readAllSequences (tables : FseTable × FseTable × FseTable) (literals : ByteArray)
    (start room count : Nat) (offsets : Nat × Nat × Nat) (out : ByteArray) :
    BackBits (ByteArray × Nat × (Nat × Nat × Nat)) := do
  let literal ← tables.1.start
  let offset ← tables.2.1.start
  let length ← tables.2.2.start
  readSequences tables literals start room count 0 ⟨literal, offset, length⟩ offsets out

/-- Reads the tables of the three codes, by the modes that stand in front of them at `position`. -/
def readTables (block : ByteArray) (position : Nat)
    (previous : Option (FseTable × FseTable × FseTable)) :
    Except Corruption ((FseTable × FseTable × FseTable) × Nat) := do
  match block[position]? with
  | none => .error .invalid
  | some modes =>
    let modes := modes.toNat
    if modes % 4 ≠ 0 then .error .invalid
    let (literals, position) ← readTable block (position + 1) (modes / 64) 35 9
      defaultLiteralLengths (previous.map (·.1))
    let (offsets, position) ← readTable block position (modes / 16 % 4) 31 8
      defaultOffsets (previous.map (·.2.1))
    let (lengths, position) ← readTable block position (modes / 4 % 4) 52 9
      defaultMatchLengths (previous.map (·.2.2))
    return ((literals, offsets, lengths), position)

/-- Decompresses a block of at most `maxSize` bytes behind `out`, in a frame that began at
`start`. -/
def readBlock (block : ByteArray) (maxSize start : Nat) (memory : Memory) (out : ByteArray) :
    Except Corruption (ByteArray × Memory) := do
  if maxBlockSize < block.size then .error .invalid
  let room := out.size + maxSize
  let literals ← readLiterals block (min maxSize maxBlockSize) memory
  let (count, position) ← readCount block literals.stop
  if count = 0 then
    if position ≠ block.size then .error .invalid
    return (out ++ literals.bytes, { memory with huffman := literals.huffman })
  else
    let (tables, position) ← readTables block position memory.tables
    let stream := block.extract position block.size
    let (out, used, offsets) ←
      (readAllSequences tables literals.bytes start room count memory.offsets out).runAll stream
    let out := out ++ literals.bytes.extract used literals.bytes.size
    if room < out.size then .error .invalid
    return (out, ⟨literals.huffman, some tables, offsets⟩)

end BatchInbox.Zstd
