import BatchInbox.Compression.Window
import BatchInbox.Compression.Brotli.Codes
import BatchInbox.Compression.Brotli.Transform

/-!
# Brotli streams

A brotli stream is a row of meta-blocks, the last one flagged.  A meta-block is plain bytes, bytes
to skip, or a row of commands.  A command inserts some literals and then copies earlier output or
a word of the static dictionary.  Each of its three kinds of symbols (literals, commands and
distances) comes in runs of a few types, and the type and a context choose the prefix code.

`Brotli.unpacker` takes a meta-block header, the head of a command, a literal or a copy per step.
Output is handed over a full window at a time, when the data has run out, and at the end.
-/

set_option autoImplicit false
namespace BatchInbox.Brotli

/-! ## Types of symbols -/

/-- The runs of types in which one kind of symbol comes. -/
structure Category where
  /-- How many types there are. -/
  types : Nat
  typeCode : PrefixCode
  lengthCode : PrefixCode
  current : Nat
  previous : Nat
  /-- The symbols left in the run. -/
  left : Nat

/-- The shortest run of each length code, with the bits that say how much longer it is. -/
def runLengths : Array (Nat × Nat) :=
  #[(1, 2), (5, 2), (9, 2), (13, 2), (17, 3), (25, 3), (33, 3), (41, 3), (49, 4), (65, 4), (81, 4),
    (97, 4), (113, 5), (145, 5), (177, 5), (209, 5), (241, 6), (305, 6), (369, 7), (497, 8),
    (753, 9), (1265, 10), (2289, 11), (4337, 12), (8433, 13), (16625, 24)]

/-- The value of a code with extra bits. -/
def readExtra (table : Array (Nat × Nat)) (code : Nat) : Bits Nat := do
  let (base, width) := table.getD code (0, 0)
  return base + (← Bits.take width)

/-- Reads the types of a kind of symbol, and the length of the first run. -/
def readCategory : Bits Category := do
  let types := 1 + (← readSmall)
  if types = 1 then
    return ⟨1, .constant 0, .constant 0, 0, 0, 0⟩
  else
    let typeCode ← readCode (types + 2) (types + 2)
    let lengthCode ← readCode 26 26
    let left ← readExtra runLengths (← lengthCode.decode)
    return ⟨types, typeCode, lengthCode, 0, 1, left⟩

/-- Reads the next run: the type before this one, the type that follows this one in number, or a
type by its number. -/
def Category.switch (c : Category) : Bits Category := do
  let symbol ← c.typeCode.decode
  let left ← readExtra runLengths (← c.lengthCode.decode)
  let type := match symbol with
    | 0 => c.previous
    | 1 => c.current + 1
    | symbol => symbol - 2
  let type := if c.types ≤ type then type - c.types else type
  return { c with current := type, previous := c.current, left }

/-- Goes on to the next symbol of this kind. -/
def Category.next (c : Category) : Bits Category := do
  if c.types = 1 then
    return c
  else
    let c ← if c.left = 0 then c.switch else pure c
    return { c with left := c.left - 1 }

/-! ## Contexts -/

/-- What the context of a literal is made of. -/
inductive ContextMode where
  | lowBits
  | highBits
  | utf8
  | signed

/-- The classes of ASCII characters that the `utf8` mode tells apart in the last byte. -/
def asciiClasses : Array Nat :=
  #[0, 0, 0, 0, 0, 0, 0, 0, 0, 1, 1, 0, 0, 1, 0, 0, 0, 0, 0, 0, 0, 0, 0, 0, 0, 0, 0, 0, 0, 0, 0, 0,
    2, 3, 4, 3, 3, 5, 3, 4, 6, 7, 3, 3, 8, 3, 9, 3, 11, 11, 11, 11, 11, 11, 11, 11, 11, 11, 8, 8, 6,
    10, 7, 3, 3, 12, 13, 13, 13, 12, 13, 13, 13, 12, 13, 13, 13, 13, 13, 12, 13, 13, 13, 13, 13, 12,
    13, 13, 13, 13, 13, 6, 3, 7, 3, 3, 3, 14, 15, 15, 15, 14, 15, 15, 15, 14, 15, 15, 15, 15, 15,
    14, 15, 15, 15, 15, 15, 14, 15, 15, 15, 15, 15, 6, 3, 7, 3, 0]

/-- The classes that the `utf8` mode tells apart in the byte before the last. -/
def secondClass (byte : Nat) : Nat :=
  if byte < 128 then
    let kind := asciiClasses.getD byte 0
    if kind < 3 ∨ byte = 127 then 0
    else if kind < 11 then 1
    else if kind < 14 then 2
    else 3
  else if byte < 224 then 0 else 2

/-- The classes that the `signed` mode tells apart, by size as a signed number. -/
def signedClass (byte : Nat) : Nat :=
  if byte = 0 then 0
  else if byte < 16 then 1
  else if byte < 64 then 2
  else if byte < 128 then 3
  else if byte < 192 then 4
  else if byte < 240 then 5
  else if byte < 255 then 6
  else 7

/-- The context of a literal behind the bytes `last` and, before it, `second`. -/
def ContextMode.context (mode : ContextMode) (last second : Nat) : Nat :=
  match mode with
  | lowBits => last % 64
  | highBits => last / 4
  | utf8 =>
    if last < 128 then 4 * asciiClasses.getD last 0 + secondClass second
    else (if last < 192 then last % 2 else 2 + last % 2) ||| secondClass second
  | signed => 8 * signedClass last + signedClass second

/-! ## Meta-block headers -/

/-- The codes of a meta-block, and how they are chosen. -/
structure Codes where
  literals : Array PrefixCode
  literalMap : Array Nat
  /-- The context mode of each type of literals. -/
  modes : Array ContextMode
  commands : Array PrefixCode
  distances : Array PrefixCode
  distanceMap : Array Nat
  /-- The low bits of far distances that are coded with their symbol. -/
  postfixBits : Nat
  /-- The short distances that have a symbol of their own. -/
  direct : Nat

/-- A meta-block of commands. -/
structure MetaBlock where
  codes : Codes
  last : Bool
  /-- The bytes left. -/
  left : Nat
  literals : Category
  commands : Category
  distances : Category

/-- Where in the stream a decompressor stands. -/
inductive Phase where
  /-- In front of a meta-block. -/
  | header
  /-- Inside a meta-block of plain bytes. -/
  | plain (left : Nat)
  /-- In front of a command. -/
  | command (block : MetaBlock)
  /-- Inside a command: literals to insert, then the length to copy.  The distance is either sent,
  in a context, or the last one again. -/
  | insert (block : MetaBlock) (literals length : Nat) (distanceContext : Option Nat)
  /-- Behind the last meta-block. -/
  | ended

/-- What the stream says about its window. -/
structure Window where
  bits : Nat
  /-- Distances may exceed those of a window of 24 bits. -/
  large : Bool

/-- The farthest distance into the output. -/
def Window.reach (window : Window) : Nat :=
  1 <<< window.bits - 16

/-- The position in the data in bits, the output so far, the window, the four latest distances with
the last one first, and the place in the stream. -/
structure State where
  pos : Nat
  out : ByteArray
  window : Window
  recent : Nat × Nat × Nat × Nat
  phase : Phase

/-- Reads the window at the start of the stream. -/
def readWindow : Bits Window := do
  if (← Bits.take 1) = 0 then
    return ⟨16, false⟩
  else
    match ← Bits.take 3 with
    | 0 =>
      match ← Bits.take 3 with
      | 0 => return ⟨17, false⟩
      | 1 =>
        Bits.require ((← Bits.take 1) = 0)
        let bits ← Bits.take 6
        Bits.require (10 ≤ bits && bits ≤ 30)
        return ⟨bits, true⟩
      | n => return ⟨8 + n, false⟩
    | n => return ⟨17 + n, false⟩

/-- Reads a number of `count` groups of `width` bits, least significant first.  The last one must
not be zero, unless there are no more than `least` of them. -/
def readGroups (width least count : Nat) : (i : Nat) → (sum : Nat) → Bits Nat
  | 0, sum => return sum
  | i + 1, sum => do
    let group ← Bits.take width
    Bits.require (group ≠ 0 || i ≠ 0 || count ≤ least)
    readGroups width least count i (sum + group <<< (width * (count - 1 - i)))

/-- Skips to the next byte boundary, over zero bits. -/
def alignZero : Bits Unit := do
  Bits.require ((← Bits.align) = 0)

/-- Reads the context modes of `count` types of literals. -/
def readModes : (count : Nat) → Array ContextMode → Bits (Array ContextMode)
  | 0, modes => return modes
  | count + 1, modes => do
    let mode := match ← Bits.take 2 with
      | 0 => ContextMode.lowBits
      | 1 => ContextMode.highBits
      | 2 => ContextMode.utf8
      | _ => ContextMode.signed
    readModes count (modes.push mode)

/-- The farthest distance that may be coded at all. -/
def maxDistance : Nat := 0x7ffffffc

/-- The number of distance symbols in a stream with a large window that can stand for distances up
to `maxDistance`. -/
def largeDistanceLimit (postfixBits direct : Nat) : Nat :=
  let offset := ((maxDistance - direct - 1) >>> postfixBits) + 4
  let width := (offset / 2).log2
  let half := (offset >>> width) % 2
  let group := 2 * (width - 1) + half
  -- the last group is left out if its end lies beyond `maxDistance`
  let start := ((2 + half) <<< width) - 4
  let stop := direct + 1 + ((start + (1 <<< width)) <<< postfixBits)
  let count := if stop ≤ maxDistance + 1 then group + 1 else group
  16 + direct + (count <<< postfixBits)

/-- Reads the header of a meta-block of commands. -/
def readCodesHeader (window : Window) (last : Bool) (left : Nat) : Bits MetaBlock := do
  let literals ← readCategory
  let commands ← readCategory
  let distances ← readCategory
  let postfixBits ← Bits.take 2
  let direct := (← Bits.take 4) <<< postfixBits
  let modes ← readModes literals.types #[]
  let (literalCount, literalMap) ← readContextMap (64 * literals.types)
  let (distanceCount, distanceMap) ← readContextMap (4 * distances.types)
  let literalCodes ← readCodes 256 256 literalCount #[]
  let commandCodes ← readCodes 704 704 commands.types #[]
  let distanceSize := 16 + direct + (if window.large then 62 else 24) * (1 <<< (postfixBits + 1))
  let distanceLimit := if window.large then largeDistanceLimit postfixBits direct else distanceSize
  let distanceCodes ← readCodes distanceSize distanceLimit distanceCount #[]
  return ⟨⟨literalCodes, literalMap, modes, commandCodes, distanceCodes, distanceMap, postfixBits,
    direct⟩, last, left, literals, commands, distances⟩

/-- Skips a meta-block whose content is not output, behind the mark that says so. -/
def skipMetaBlock (last : Bool) : Bits Phase := do
  Bits.require ((← Bits.take 1) = 0)
  let size ← Bits.take 2
  let skipped ← if size = 0 then pure 0 else do pure (1 + (← readGroups 8 1 size size 0))
  alignZero
  let start ← get
  let data ← read
  if 8 * data.size < start + 8 * skipped then
    throw .truncated
  set (start + 8 * skipped)
  if last then
    alignZero
    return .ended
  else
    return .header

/-- Reads a meta-block header.  The last meta-block may be empty, and cannot be plain. -/
def readHeader (window : Window) : Bits Phase := do
  let last := (← Bits.take 1) = 1
  let empty := (← Bits.take (if last then 1 else 0)) = 1
  if empty then
    alignZero
    return .ended
  match ← Bits.take 2 with
  | 3 => skipMetaBlock last
  | n =>
    let left := 1 + (← readGroups 4 4 (4 + n) (4 + n) 0)
    let plain := (← Bits.take (if last then 0 else 1)) = 1
    if plain then
      alignZero
      return .plain left
    else
      return .command (← readCodesHeader window last left)

/-! ## Commands -/

/-- The fewest literals of each insert code, with the bits that say how many more. -/
def insertLengths : Array (Nat × Nat) :=
  #[(0, 0), (1, 0), (2, 0), (3, 0), (4, 0), (5, 0), (6, 1), (8, 1), (10, 2), (14, 2), (18, 3),
    (26, 3), (34, 4), (50, 4), (66, 5), (98, 5), (130, 6), (194, 7), (322, 8), (578, 9),
    (1090, 10), (2114, 12), (6210, 14), (22594, 24)]

/-- The shortest copy of each copy code, with the bits that say how much longer it is. -/
def copyLengths : Array (Nat × Nat) :=
  #[(2, 0), (3, 0), (4, 0), (5, 0), (6, 0), (7, 0), (8, 0), (9, 0), (10, 1), (12, 1), (14, 2),
    (18, 2), (22, 3), (30, 3), (38, 4), (54, 4), (70, 5), (102, 5), (134, 6), (198, 7), (326, 8),
    (582, 9), (1094, 10), (2118, 24)]

/-- The first insert code and the first copy code of each group of 64 commands. -/
def commandGroups : Array (Nat × Nat) :=
  #[(0, 0), (0, 8), (0, 0), (0, 8), (8, 0), (8, 8), (0, 16), (16, 0), (8, 16), (16, 8), (16, 16)]

/-- Reads the head of a command: the literals to insert, the length to copy, and the context of the
distance.  The first 128 commands use the last distance again. -/
def readCommand (block : MetaBlock) : Bits (MetaBlock × Nat × Nat × Option Nat) := do
  let commands ← block.commands.next
  let command ← (block.codes.commands.getD commands.current (.constant 0)).decode
  let (firstInsert, firstCopy) := commandGroups.getD (command / 64) (0, 0)
  let copyCode := firstCopy + command % 8
  let literals ← readExtra insertLengths (firstInsert + command / 8 % 8)
  let length ← readExtra copyLengths copyCode
  Bits.require (literals ≤ block.left)
  let context := if command < 128 then none else some (min copyCode 3)
  return ({ block with commands, left := block.left - literals }, literals, length, context)

/-- Reads a literal behind the bytes `last` and, before it, `second`. -/
def readLiteral (block : MetaBlock) (last second : Nat) : Bits (MetaBlock × UInt8) := do
  let literals ← block.literals.next
  let mode := block.codes.modes.getD literals.current .lowBits
  let context := 64 * literals.current + mode.context last second
  let code := block.codes.literalMap.getD context 0
  let symbol ← (block.codes.literals.getD code (.constant 0)).decode
  return ({ block with literals }, symbol.toUInt8)

/-- The distance that a symbol up to 15 stands for: one of the latest distances, or one close to
the last or second-to-last. -/
def recentDistance? (recent : Nat × Nat × Nat × Nat) (symbol : Nat) : Option Nat :=
  let (first, second, third, fourth) := recent
  let near (base step : Nat) : Option Nat :=
    let farther := base + (step / 2 + 1)
    if step % 2 = 1 then some farther
    else if step / 2 + 1 < base then some (base - (step / 2 + 1))
    else none
  match symbol with
  | 0 => some first
  | 1 => some second
  | 2 => some third
  | 3 => some fourth
  | symbol => if symbol < 10 then near first (symbol - 4) else near second (symbol - 10)

/-- The distance of a symbol from 16 on.  The direct symbols come first; behind them, the symbols
halve and widen by turns the range that their extra bits choose from. -/
def readFarDistance (codes : Codes) (symbol : Nat) : Bits Nat := do
  let index := symbol - 16
  if index < codes.direct then
    return index + 1
  else
    let index := index - codes.direct
    let group := index >>> codes.postfixBits
    let width := 1 + group / 2
    let start := ((2 + group % 2) <<< width) - 4
    let far := start + (← Bits.take width)
    return (far <<< codes.postfixBits) + index % (1 <<< codes.postfixBits) + codes.direct + 1

/-- Reads the distance of a copy, and says whether it counts as a new one. -/
def readDistance (block : MetaBlock) (recent : Nat × Nat × Nat × Nat) (context : Option Nat) :
    Bits (MetaBlock × Nat × Bool) := do
  match context with
  | none => return (block, recent.1, false)
  | some context =>
    let distances ← block.distances.next
    let block := { block with distances }
    let code := block.codes.distanceMap.getD (4 * distances.current + context) 0
    let symbol ← (block.codes.distances.getD code (.constant 0)).decode
    if symbol < 16 then
      match recentDistance? recent symbol with
      | some distance => return (block, distance, symbol ≠ 0)
      | none => Bits.invalid
    else
      return (block, ← readFarDistance block.codes symbol, true)

/-- Behind a part of a meta-block of commands. -/
def MetaBlock.resume (block : MetaBlock) : Bits Phase := do
  if block.left ≠ 0 then
    return .command block
  else if block.last then
    alignZero
    return .ended
  else
    return .header

/-- Carries out the copy at the end of a command.  A distance farther than the output or the window
reaches names a word of the static dictionary; such a distance is not remembered. -/
def copy (data : ByteArray) (s : State) (block : MetaBlock) (length : Nat)
    (context : Option Nat) : Except Corruption State :=
  match s with
  | ⟨pos, out, window, recent, _⟩ =>
    match readDistance block recent context data pos with
    | .error cause => .error cause
    | .ok ((block, distance, isNew), pos) =>
      let reach := min out.size window.reach
      if distance ≤ reach then
        if block.left < length then .error .invalid
        else
          let recent := if isNew then (distance, recent.1, recent.2.1, recent.2.2.1) else recent
          match MetaBlock.resume { block with left := block.left - length } data pos with
          | .error cause => .error cause
          | .ok (phase, pos) => .ok ⟨pos, copyBack out distance length, window, recent, phase⟩
      else if maxDistance < distance then .error .invalid
      else
        match lookup? length (distance - reach - 1) with
        | none => .error .invalid
        | some word =>
          if block.left < word.length then .error .invalid
          else
            match MetaBlock.resume { block with left := block.left - word.length } data pos with
            | .error cause => .error cause
            | .ok (phase, pos) => .ok ⟨pos, word.foldl .push out, window, recent, phase⟩

/-! ## Decompressing -/

/-- Goes one step down the stream. -/
def advance (data : ByteArray) (s : State) : Except Corruption State :=
  match s with
  | ⟨pos, out, window, recent, phase⟩ =>
    match phase with
    | .header =>
      match readHeader window data pos with
      | .error cause => .error cause
      | .ok (phase, pos) => .ok ⟨pos, out, window, recent, phase⟩
    | .plain left =>
      let start := pos / 8
      let count := min left (data.size - start)
      if count = 0 then .error .truncated
      else
        let phase := if left = count then .header else .plain (left - count)
        .ok ⟨pos + 8 * count, appendSlice out data start count, window, recent, phase⟩
    | .command block =>
      match readCommand block data pos with
      | .error cause => .error cause
      | .ok ((block, literals, length, context), pos) =>
        .ok ⟨pos, out, window, recent, .insert block literals length context⟩
    | .insert block (literals + 1) length context =>
      let last := (out[out.size - 1]?.getD 0).toNat
      let second := if out.size < 2 then 0 else (out[out.size - 2]?.getD 0).toNat
      match readLiteral block last second data pos with
      | .error cause => .error cause
      | .ok ((block, byte), pos) =>
        if literals = 0 ∧ block.left = 0 then
          match block.resume data pos with
          | .error cause => .error cause
          | .ok (phase, pos) => .ok ⟨pos, out.push byte, window, recent, phase⟩
        else .ok ⟨pos, out.push byte, window, recent, .insert block literals length context⟩
    | .insert block 0 length context =>
      copy data ⟨pos, out, window, recent, .ended⟩ block length context
    | .ended => .ok ⟨pos, out, window, recent, .ended⟩

/-- The room the stream asks for. -/
def State.demand (s : State) : Nat :=
  match s.phase with
  | .ended => s.out.size
  | _ => s.out.size / (1 <<< s.window.bits) * (1 <<< s.window.bits)

/-- The decompressor of `data`. -/
def unpacker (data : ByteArray) : Unpacker State where
  step s :=
    match s with
    | ⟨pos, out, window, recent, .ended⟩ => .done ⟨pos, out, window, recent, .ended⟩
    | s => .ofStep s.out.size (advance data s)
  output s := s.out
  demand s := s.demand

/-- Decompresses a brotli stream to at most `limit` bytes.  A meta-block takes some of the data,
and at most three steps for each of its bytes, of which there are at most `2 ^ 24`. -/
def decompress (data : ByteArray) (limit : Nat) : Except UnpackError ByteArray :=
  match readWindow data 0 with
  | .error cause => .error (.corrupt cause)
  | .ok (window, pos) =>
    (unpacker data).run limit ((8 * data.size + 1) * (1 <<< 26))
      ⟨pos, .empty, window, (4, 11, 15, 16), .header⟩

/-! ## Compressing -/

/-- The meta-blocks that hold `data` from `start` on as it is, of at most 64 KiB each.  A header of
16 bits and four bits of padding stand in front of the bytes. -/
def plainBlocks (data : ByteArray) (start : Nat) (out : ByteArray) : ByteArray :=
  if data.size ≤ start then out
  else
    let count := min 0x10000 (data.size - start)
    -- not last, four nibbles of length, plain; then zeros up to the byte boundary
    let header := (count - 1) <<< 3 ||| 1 <<< 19
    let out := out ++ ⟨#[header.toUInt8, (header / 0x100).toUInt8, (header / 0x10000).toUInt8]⟩
    plainBlocks data (start + count) (appendSlice out data start count)
  termination_by data.size - start
  decreasing_by omega

/-- A brotli stream with the content `data`, in plain meta-blocks.  The first byte holds the window
of 16 bits and a meta-block to skip, which brings the rest to a byte boundary; the last byte is an
empty last meta-block. -/
def compress (data : ByteArray) : ByteArray :=
  (plainBlocks data 0 ⟨#[0x0c]⟩).push 0x03

end BatchInbox.Brotli
