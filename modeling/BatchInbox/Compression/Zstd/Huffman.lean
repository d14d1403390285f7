import BatchInbox.Compression.Zstd.Fse

/-!
# The Huffman code of literals

Zstd sends the weights of the symbols: a symbol of weight `w > 0` takes up `2 ^ (w - 1)` of the
table's cells.  The weight of the last symbol is left out; it fills the table up to a power of two.
-/

set_option autoImplicit false
namespace BatchInbox.Zstd

/-- A decoding table, indexed by the next `log` bits. -/
structure HuffmanTable where
  log : Nat
  symbols : ByteArray
  widths : ByteArray

namespace HuffmanTable

/-- The widest code a table may have. -/
def maxLog : Nat := 12

/-! ## Weights -/

/-- Reads weights off two alternating states until the stream is used up: `current` is due, and
`other` follows it.  What the state behind the last bits would be is never asked. -/
def readWeightsFrom (table : FseTable) (data : ByteArray) :
    (rounds left current other : Nat) → Array Nat → Except Corruption (Array Nat)
  | 0, _, _, _, _ => .error .invalid
  | rounds + 1, left, current, other, weights =>
    if 254 ≤ weights.size then .error .invalid
    else
      let weights := weights.push (table.cell current).symbol
      match table.next current data left with
      | .error _ => .ok (weights.push (table.cell other).symbol)
      | .ok (following, left) => readWeightsFrom table data rounds left other following weights

/-- The weights in a stream coded with its own FSE table. -/
def readCodedWeights (data : ByteArray) : Except Corruption (Array Nat) := do
  let (table, start) ← FseTable.read data 0 255 6
  let stream := data.extract start data.size
  match BackBits.bitLength? stream with
  | none => .error .invalid
  | some left => do
    let (first, left) ← table.start stream left
    let (second, left) ← table.start stream left
    readWeightsFrom table stream 256 left first second #[]

/-- The weights packed two to a byte, high half first. -/
def unpackWeights (data : ByteArray) (start count : Nat) : Array Nat :=
  (Array.range count).map fun i =>
    let byte := Bits.byteAt data (start + i / 2)
    if i % 2 = 0 then byte / 16 else byte % 16

/-- The cells that symbols of these weights take up. -/
def cellsOf (weights : Array Nat) : Nat :=
  weights.foldl (fun sum w => sum + (1 <<< w) / 2) 0

/-- Completes the weights with the last symbol's, which fills the table up to a power of two. -/
def complete (weights : Array Nat) : Except Corruption (Array Nat) :=
  let total := cellsOf weights
  let rest := 1 <<< (total.log2 + 1) - total
  if weights.any (maxLog < ·) || total = 0 || maxLog < total.log2 + 1 || rest ≠ 1 <<< rest.log2 then
    .error .invalid
  else
    let weights := weights.push (rest.log2 + 1)
    let lightest := weights.count 1
    if lightest < 2 || lightest % 2 = 1 then .error .invalid else .ok weights

/-! ## Tables -/

/-- The table for complete weights: the lightest symbols come first, equal ones in their order. -/
def build (weights : Array Nat) : HuffmanTable :=
  let log := (cellsOf weights).log2
  let fill (acc : ByteArray × ByteArray) (symbol weight : Nat) : ByteArray × ByteArray :=
    ((1 <<< weight) / 2).repeat
      (fun (symbols, widths) =>
        (symbols.push symbol.toUInt8, widths.push (log + 1 - weight).toUInt8))
      acc
  let (symbols, widths) := (List.range log).foldl
    (fun acc w => weights.zipIdx.foldl
      (fun acc (weight, symbol) => if weight = w + 1 then fill acc symbol weight else acc) acc)
    (ByteArray.empty, ByteArray.empty)
  ⟨log, symbols, widths⟩

/-- Reads the table in front of `data`.  Returns it with the byte behind its description. -/
def read (data : ByteArray) : Except Corruption (HuffmanTable × Nat) := do
  if data.size = 0 then .error .invalid
  let size := Bits.byteAt data 0
  if 128 ≤ size then
    let count := size - 127
    let stop := 1 + (count + 1) / 2
    if data.size < stop then .error .invalid
    return (build (← complete (unpackWeights data 1 count)), stop)
  else
    let stop := 1 + size
    if data.size < stop then .error .invalid
    return (build (← complete (← readCodedWeights (data.extract 1 stop))), stop)

/-! ## Literals -/

/-- Reads `count` symbols. -/
def readSymbols (table : HuffmanTable) : (count : Nat) → ByteArray → BackBits ByteArray
  | 0, out => return out
  | count + 1, out => fun data left =>
    let index := BackBits.peek data left table.log
    let width := Bits.byteAt table.widths index
    if left < width then .error .invalid
    else readSymbols table count (out.push (table.symbols[index]?.getD 0)) data (left - width)

/-- Decodes a stream of `count` symbols behind `out`. -/
def decode (table : HuffmanTable) (data : ByteArray) (count : Nat) (out : ByteArray) :
    Except Corruption ByteArray :=
  (table.readSymbols count out).runAll data

/-- Decodes `count` symbols in four streams, behind a table of the first three streams' sizes.  The
first three hold equally many symbols, the last the rest. -/
def decode4 (table : HuffmanTable) (data : ByteArray) (count : Nat) :
    Except Corruption ByteArray := do
  if data.size < 10 then .error .invalid
  let size1 := Bits.field data 0 16
  let size2 := Bits.field data 16 16
  let size3 := Bits.field data 32 16
  let start2 := 6 + size1
  let start3 := start2 + size2
  let start4 := start3 + size3
  let share := (count + 3) / 4
  if data.size < start4 || count < 3 * share then .error .invalid
  let out ← table.decode (data.extract 6 start2) share .empty
  let out ← table.decode (data.extract start2 start3) share out
  let out ← table.decode (data.extract start3 start4) share out
  table.decode (data.extract start4 data.size) (count - 3 * share) out

end HuffmanTable
end BatchInbox.Zstd
