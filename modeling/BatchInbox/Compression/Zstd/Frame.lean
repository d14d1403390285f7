import BatchInbox.Compression.Zstd.Block
import BatchInbox.Compression.Zstd.Xxh64

/-!
# Zstd frames

Zstd data is a row of frames, some of which are only there to be skipped.  A frame is a header and
a row of blocks, the last one flagged, and may close with a checksum of its content.

The consumer reads the content in pieces, into memory that grows on the way.  A frame that is known to
fit into the room of the current read is decompressed at once, which is stricter about its blocks, and
looser about the window; any other frame is decompressed block by block.  What comes next in a frame
is looked at as soon as a block is decompressed, even if the read has no room left for it; the next
frame, if the current one has filled any of the room, only in the next read.

`Zstd.unpacker` takes a frame header, a block or a checksum per step.
-/

set_option autoImplicit false
namespace BatchInbox.Zstd

/-- What a frame header says, and what its blocks left behind. -/
structure FrameState where
  /-- The most that a block may hold. -/
  maxBlock : Nat
  /-- The most of the data that a block may take up. -/
  maxCoded : Nat
  /-- Compressed blocks must not be empty, and the content has the stated size. -/
  isWhole : Bool
  /-- The size of the content, if the header states it. -/
  contentSize : Option Nat
  hasChecksum : Bool
  /-- Where the content of the frame starts in the output. -/
  start : Nat
  memory : Memory

/-- Where in the data the decompressor stands. -/
inductive Phase where
  /-- At the end of a frame, or at the start of the data. -/
  | between
  /-- In front of a block. -/
  | inside (frame : FrameState)
  /-- Behind the last block of a frame. -/
  | closing (frame : FrameState)

/-- The position in the data in bytes, the output so far and the place in the data. -/
structure State where
  pos : Nat
  out : ByteArray
  phase : Phase

/-! ## Frame headers -/

/-- The number that a frame starts with. -/
def magic : Nat := 0xfd2fb528

/-- The number that a frame to skip starts with, above its lowest four bits. -/
def skipMagic : Nat := 0x184d2a5

/-- The widest window that is accepted, unless the content is small. -/
def maxWindow : Nat := 1 <<< 27 + 1

/-- The little-endian number of `width` bytes at `start`. -/
def number (data : ByteArray) (start : Nat) : (width : Nat) → Nat
  | 0 => 0
  | width + 1 => Bits.byteAt data start + 0x100 * number data (start + 1) width

/-- The window size that a window descriptor stands for. -/
def windowOf (descriptor : Nat) : Nat :=
  let base := 1 <<< (10 + descriptor / 8)
  base + base / 8 * (descriptor % 8)

/-- What a frame header says. -/
structure Header where
  window : Nat
  /-- The size of the content, if it is stated. -/
  contentSize : Option Nat
  hasChecksum : Bool

/-- Reads a frame header behind its magic number, at `start`.  Returns it with the byte behind it. -/
def readHeader (data : ByteArray) (start : Nat) : Except Corruption (Header × Nat) := do
  if data.size ≤ start then .error .truncated
  let flags := Bits.byteAt data start
  let single := flags / 32 % 2 = 1
  let idStart := if single then start + 1 else start + 2
  let sizeStart := idStart + #[0, 1, 2, 4].getD (flags % 4) 0
  let sizeWidth := match flags / 64 with
    | 0 => if single then 1 else 0
    | 1 => 2
    | 2 => 4
    | _ => 8
  let stop := sizeStart + sizeWidth
  if data.size < stop then .error .truncated
  if flags / 8 % 2 = 1 then .error .invalid
  let size := number data sizeStart sizeWidth + if flags / 64 = 1 then 0x100 else 0
  let window := if single then size else windowOf (Bits.byteAt data (start + 1))
  if !single && (1 <<< 32) ≤ window then .error .invalid
  if number data idStart (sizeStart - idStart) ≠ 0 then .error .invalid
  return (⟨window, if sizeWidth = 0 then none else some size, flags / 4 % 2 = 1⟩, stop)

/-- The rules that a frame has to keep. -/
structure Rules where
  /-- The window is bounded, and blocks fit into it. -/
  bounded : Bool
  /-- Compressed blocks are not empty, and the content has the stated size. -/
  whole : Bool

/-- A frame with this header whose content starts at `start` in the output. -/
def Header.frame? (h : Header) (rules : Rules) (start : Nat) : Except Corruption FrameState :=
  let block := min h.window maxBlockSize
  if rules.bounded then
    if maxWindow < h.window then .error .invalid
    else .ok ⟨block, block, rules.whole, h.contentSize, h.hasChecksum, start, .fresh⟩
  else
    let size := max block (h.contentSize.getD 0)
    .ok ⟨size, max maxBlockSize size, rules.whole, h.contentSize, h.hasChecksum, start, .fresh⟩

/-- Goes over a frame header or a frame to skip.  The rules of a frame depend on its header and on the
place of its first block. -/
def enterFrame (data : ByteArray) (rules : Header → Nat → Rules) (pos : Nat) (out : ByteArray) :
    Except Corruption State :=
  let start := number data pos 4
  if data.size < pos + 4 then .error .truncated
  else if start = magic then
    match readHeader data (pos + 4) with
    | .error cause => .error cause
    | .ok (header, stop) =>
      match header.frame? (rules header stop) out.size with
      | .error cause => .error cause
      | .ok frame => .ok ⟨stop, out, .inside frame⟩
  else if start / 0x10 = skipMagic then
    let stop := pos + 8 + number data (pos + 4) 4
    if data.size < pos + 8 || data.size < stop then .error .truncated
    else .ok ⟨stop, out, .between⟩
  else .error .invalid

/-! ## Blocks -/

/-- Goes over the checksum at the end of a frame, if it has one. -/
def leaveFrame (data : ByteArray) (pos : Nat) (frame : FrameState) (out : ByteArray) :
    Except Corruption State :=
  if frame.hasChecksum then
    if data.size < pos + 4 then .error .truncated
    else if number data pos 4 = (Xxh64.hash (out.extract frame.start out.size)).toUInt32.toNat then
      .ok ⟨pos + 4, out, .between⟩
    else .error .checksum
  else .ok ⟨pos, out, .between⟩

/-- A block header: whether the block is the last one, its kind, its size, and how much of the data
it takes up. -/
def readBlockHeader (data : ByteArray) (pos : Nat) : Bool × Nat × Nat × Nat :=
  let header := number data pos 3
  let kind := header / 2 % 4
  let size := header / 8
  (header % 2 = 1, kind, size, if kind = 1 then 1 else size)

/-- Decompresses a block of the given kind behind `out`.  `coded` is its size in the data, `size`
the one its header states. -/
def takeContent (data : ByteArray) (frame : FrameState) (pos kind size coded : Nat)
    (out : ByteArray) : Except Corruption (ByteArray × Memory) :=
  if frame.maxCoded < coded then .error .invalid
  else if data.size < pos + coded then .error .truncated
  else
    match kind with
    | 0 => .ok (appendSlice out data pos size, frame.memory)
    | 1 =>
      if frame.maxBlock < size then .error .invalid
      else .ok (out ++ ⟨Array.replicate size (data[pos]?.getD 0)⟩, frame.memory)
    | 2 =>
      if size = 0 && !frame.isWhole then .ok (out, frame.memory)
      else readBlock (data.extract pos (pos + size)) frame.maxBlock frame.start frame.memory out
    | _ => .error .invalid

/-- Goes over a block.  When the data ends inside a block of plain bytes, the bytes at hand still
count. -/
def takeBlock (data : ByteArray) (frame : FrameState) (pos : Nat) (out : ByteArray) :
    Except Corruption State :=
  if data.size < pos + 3 then .error .truncated
  else
    let (last, kind, size, coded) := readBlockHeader data pos
    let pos := pos + 3
    if kind = 0 && size ≤ frame.maxCoded && pos < data.size && data.size < pos + size then
      .ok ⟨data.size, appendSlice out data pos size, .inside frame⟩
    else
      match takeContent data frame pos kind size coded out with
      | .error cause => .error cause
      | .ok (out, memory) =>
        let content := out.size - frame.start
        let pos := pos + coded
        if frame.contentSize.any (· < content) then .error .invalid
        else if last then
          if (frame.isWhole || coded ≠ 0) && frame.contentSize.any (content < ·) then
            .error .invalid
          else .ok ⟨pos, out, .closing { frame with memory }⟩
        else .ok ⟨pos, out, .inside { frame with memory }⟩

/-- Goes over the next part of the data. -/
def advance (data : ByteArray) (rules : Header → Nat → Rules) (s : State) :
    Except Corruption State :=
  match s with
  | ⟨pos, out, .between⟩ => enterFrame data rules pos out
  | ⟨pos, out, .inside frame⟩ => takeBlock data frame pos out
  | ⟨pos, out, .closing frame⟩ => leaveFrame data pos frame out

/-- All frames have ended, and no data is left. -/
def State.isFinal (data : ByteArray) (s : State) : Bool :=
  match s.phase with
  | .between => data.size ≤ s.pos
  | _ => false

/-! ## The consumer -/

/-- A read of the consumer, without a limit. -/
structure Reading where
  /-- The size of the output when it begins. -/
  start : Nat
  room : Nat
  /-- The size of the memory that holds the output; the first read has none yet. -/
  capacity : Nat
  /-- The most room that is given to a read. -/
  share : Nat
  deriving DecidableEq, Repr

/-- The first read. -/
def Reading.first : Reading := ⟨0, 32, 0, 0x2000⟩

/-- The next read.  Memory that is full grows to twice its size, or by 32 bytes, and reads that fill
their share get twice as much. -/
def Reading.next (r : Reading) (size : Nat) : Reading :=
  let capacity := if r.capacity = 0 then max 8 size else r.capacity
  let capacity := if size = capacity then max (2 * capacity) (size + 32) else capacity
  let share := if r.room = r.share && size = r.start + r.room then 2 * r.share else r.share
  ⟨size, min (capacity - size) share, capacity, share⟩

/-- Hands over the rest of a block, and ends the read that gets the last of it. -/
def Reading.flush (size : Nat) : (rounds : Nat) → Reading → Reading
  | 0, r => r.next size
  | rounds + 1, r =>
    if r.start + r.room < size then flush size rounds (r.next (r.start + r.room)) else r.next size

/-- The read at hand when there are `size` bytes of output, if it was `r` before the last step.  The end
of a frame ends a read that has got any of it. -/
def Reading.follow (r : Reading) (s : State) : Reading :=
  let size := s.out.size
  let r := if r.start + r.room < size then r.flush size size else r
  match s.phase with
  | .between => if r.start < size then r.next size else r
  | _ => r

/-- The room that is left in a read, if there is a limit. -/
def Reading.left (r : Reading) (limit size : Nat) : Nat :=
  min (r.start + r.room) (limit + 1) - size

/-! ## Decompressing -/

/-- The data has all blocks of a frame, from the one at `pos` on, and its checksum. -/
def hasBlocks (data : ByteArray) (hasChecksum : Bool) : (rounds pos : Nat) → Bool
  | 0, _ => false
  | rounds + 1, pos =>
    let (last, kind, _, coded) := readBlockHeader data pos
    let stop := pos + 3 + coded
    if data.size < pos + 3 || kind = 3 || data.size < stop then false
    else if last then !hasChecksum || stop + 4 ≤ data.size
    else hasBlocks data hasChecksum rounds stop

/-- The rules of a frame, if there is so much room left in the current read. -/
def rulesIn (data : ByteArray) (room : Nat) (h : Header) (pos : Nat) : Rules :=
  if h.contentSize.any (· ≤ room) && hasBlocks data h.hasChecksum data.size pos then ⟨false, true⟩
  else ⟨true, false⟩

/-- The decompressor, and the consumer's current read. -/
structure Reader where
  state : State
  reading : Reading

/-- Before anything is read. -/
def Reader.start : Reader := ⟨⟨0, .empty, .between⟩, .first⟩

/-- Goes over the next part of the data. -/
def Reader.advance (data : ByteArray) (limit : Nat) (r : Reader) : Except Corruption Reader :=
  let room := r.reading.left limit r.state.out.size
  match Zstd.advance data (rulesIn data room) r.state with
  | .error cause => .error cause
  | .ok state => .ok ⟨state, r.reading.follow state⟩

/-- The decompressor of `data`, for a consumer who reads one byte more than the limit.  The current
read has begun, and has room for all of the output but its last byte. -/
def unpacker (data : ByteArray) (limit : Nat) : Unpacker Reader where
  step r :=
    if r.state.isFinal data then .done r
    else .ofStep r.state.out.size (r.advance data limit)
  output r := r.state.out
  demand r := max r.reading.start (r.state.out.size - 1)

/-- Decompresses zstd data to at most `limit` bytes.  Every step takes some of the data. -/
def decompress (data : ByteArray) (limit : Nat) : Except UnpackError ByteArray :=
  (unpacker data limit).run limit (2 * data.size + 4) .start

/-! ## Compressing -/

/-- The blocks that hold `data` from `start` on as it is. -/
def rawBlocks (data : ByteArray) (start : Nat) (out : ByteArray) : ByteArray :=
  let size := min maxBlockSize (data.size - start)
  let last := data.size ≤ start + size
  let header := 8 * size + if last then 1 else 0
  let out := out ++ ⟨#[header.toUInt8, (header / 0x100).toUInt8, (header / 0x10000).toUInt8]⟩
  let out := appendSlice out data start size
  if last then out else rawBlocks data (start + size) out
  termination_by data.size - start
  decreasing_by simp only [maxBlockSize] at *; omega

/-- A frame with the content `data`, in raw blocks, with a window of the largest block's size. -/
def compress (data : ByteArray) : ByteArray :=
  rawBlocks data 0 ⟨#[0x28, 0xb5, 0x2f, 0xfd, 0x00, 0x38]⟩

end BatchInbox.Zstd
