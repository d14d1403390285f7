import BatchInbox.Compression.PrefixCode

/-!
# Codes in the header of a brotli meta-block

In front of its commands a meta-block lists prefix codes, and says for every context which of them
applies.  This file reads prefix codes in their two notations, and context maps.
-/

set_option autoImplicit false
namespace BatchInbox.Brotli

/-! ## Numbers -/

/-- Reads a number from 0 to 255 in few bits if it is small. -/
def readSmall : Bits Nat := do
  if (← Bits.bit) = 0 then
    return 0
  else
    let width ← Bits.take 3
    return 1 <<< width + (← Bits.take width)

/-! ## Simple prefix codes -/

/-- Reads `count` symbols of `width` bits each, below `limit`. -/
def readSymbols (width limit : Nat) : (count : Nat) → Bits (List Nat)
  | 0 => return []
  | count + 1 => do
    let symbol ← Bits.take width
    Bits.require (symbol < limit)
    return symbol :: (← readSymbols width limit count)

/-- The codeword lengths of the symbols of a simple code, in the order in which they are sent. -/
def simpleLengths (count : Nat) (skewed : Bool) : List Nat :=
  match count with
  | 2 => [1, 1]
  | 3 => [1, 2, 2]
  | 4 => if skewed then [1, 2, 3, 3] else [2, 2, 2, 2]
  | _ => [0]

/-- The number of bits of the largest symbol of an alphabet of `size` symbols. -/
def symbolWidth (size : Nat) : Nat :=
  if size ≤ 1 then 0 else (size - 1).log2 + 1

/-- Reads a code of one to four symbols out of the first `limit` of `size`. -/
def readSimpleCode (size limit : Nat) : Bits PrefixCode := do
  let count := 1 + (← Bits.take 2)
  let symbols ← readSymbols (symbolWidth size) limit count
  Bits.require symbols.Nodup
  let skewed := (← Bits.take (if count = 4 then 1 else 0)) = 1
  match symbols with
  | [symbol] => return .constant symbol
  | _ =>
    let lengths := (symbols.zip (simpleLengths count skewed)).foldl
      (fun lengths (symbol, length) => lengths.setIfInBounds symbol length)
      (Array.replicate limit 0)
    return .ofLengths lengths

/-! ## Complex prefix codes -/

/-- The symbols of the code of code lengths, in the order in which their lengths are sent. -/
def lengthOrder : List Nat :=
  [1, 2, 3, 4, 0, 5, 17, 6, 16, 7, 8, 9, 10, 11, 12, 13, 14, 15]

/-- Reads the length of a codeword of the code of code lengths, in a fixed code of its own. -/
def readLengthLength : Bits Nat := do
  match ← Bits.take 2 with
  | 0 => return 0
  | 1 => return 4
  | 2 => return 3
  | _ =>
    if (← Bits.take 1) = 0 then return 2
    else if (← Bits.take 1) = 0 then return 1
    else return 5

/-- Reads the lengths of the code of code lengths, until they fill the tree; `space` of its 32
deepest nodes are left. -/
def readLengthLengths : List Nat → (space : Nat) → Array Nat → Bits (Array Nat)
  | [], space, lengths => do
    Bits.require (space = 0 || lengths.size - lengths.count 0 = 1)
    return lengths
  | symbol :: order, space, lengths => do
    if space = 0 then
      return lengths
    let length ← readLengthLength
    let taken := if length = 0 then 0 else 1 <<< (5 - length)
    Bits.require (taken ≤ space)
    readLengthLengths order (space - taken) (lengths.setIfInBounds symbol length)

/-- The code of code lengths.  One with a single symbol takes no bits. -/
def lengthCode (lengths : Array Nat) : PrefixCode :=
  if lengths.size - lengths.count 0 = 1 then
    .constant ((Array.range lengths.size).foldl
      (fun found symbol => if lengths.getD symbol 0 = 0 then found else symbol) 0)
  else .ofLengths lengths

/-- A run of equal code lengths that may still be extended. -/
structure Run where
  /-- The length that is repeated. -/
  value : Nat
  /-- How often, since the last code length that was no repetition. -/
  count : Nat

/-- Reads code lengths until they fill the tree or the alphabet; `space` of the tree's `2 ^ 15`
deepest nodes are left.  Repetitions that follow each other multiply.  Every round adds a length. -/
def readLengths (code : PrefixCode) (limit : Nat) :
    (rounds space previous : Nat) → Run → Array Nat → Bits (Array Nat)
  | 0, space, _, _, lengths => do
    Bits.require (space = 0)
    return lengths
  | rounds + 1, space, previous, run, lengths => do
    if space = 0 then
      return lengths
    if limit ≤ lengths.size then
      Bits.invalid
    let symbol ← code.decode
    if symbol < 16 then
      let taken := if symbol = 0 then 0 else 1 <<< (15 - symbol)
      Bits.require (taken ≤ space)
      readLengths code limit rounds (space - taken) (if symbol = 0 then previous else symbol)
        { run with count := 0 } (lengths.push symbol)
    else
      let value := if symbol = 16 then previous else 0
      let width := symbol - 14
      let before := if run.value = value then run.count else 0
      let scaled := if before = 0 then 0 else (before - 2) <<< width
      let count := scaled + 3 + (← Bits.take width)
      let added := count - before
      let taken := if value = 0 then 0 else added * (1 <<< (15 - value))
      Bits.require (lengths.size + added ≤ limit && taken ≤ space)
      readLengths code limit rounds (space - taken) previous ⟨value, count⟩
        (lengths ++ Array.replicate added value)

/-- Reads a code of the first `limit` symbols, without the first `skip` lengths of the code of code
lengths. -/
def readComplexCode (limit skip : Nat) : Bits PrefixCode := do
  let lengths ← readLengthLengths (lengthOrder.drop skip) 32 (Array.replicate 18 0)
  return .ofLengths (← readLengths (lengthCode lengths) limit limit (1 <<< 15) 8 ⟨0, 0⟩ #[])

/-- Reads a prefix code.  Symbols are written like those of an alphabet of `size`, but only the
first `limit` of them may occur. -/
def readCode (size limit : Nat) : Bits PrefixCode := do
  match ← Bits.take 2 with
  | 1 => readSimpleCode size limit
  | skip => readComplexCode limit skip

/-- Reads `count` prefix codes. -/
def readCodes (size limit : Nat) : (count : Nat) → Array PrefixCode → Bits (Array PrefixCode)
  | 0, codes => return codes
  | count + 1, codes => do
    readCodes size limit count (codes.push (← readCode size limit))

/-! ## Context maps -/

/-- Reads the entries of a map of `size` contexts.  Symbols up to `longest` are runs of zeros.
Every round adds an entry. -/
def readEntries (code : PrefixCode) (size longest : Nat) : (rounds : Nat) → Array Nat →
    Bits (Array Nat)
  | 0, entries => return entries
  | rounds + 1, entries => do
    if size ≤ entries.size then
      return entries
    let symbol ← code.decode
    if symbol = 0 then
      readEntries code size longest rounds (entries.push 0)
    else if symbol ≤ longest then
      let count := 1 <<< symbol + (← Bits.take symbol)
      Bits.require (entries.size + count ≤ size)
      readEntries code size longest rounds (entries ++ Array.replicate count 0)
    else
      readEntries code size longest rounds (entries.push (symbol - longest))

/-- The values that indices into a list stand for, when each use moves its value to the front. -/
def moveToFront (entries : Array Nat) : Array Nat :=
  (entries.foldl
    (fun (values, front) index =>
      let value := front.getD index 0
      (values.push value, value :: front.eraseIdx index))
    (#[], List.range 256)).1

/-- Reads how many codes there are, and which of them each of `size` contexts uses. -/
def readContextMap (size : Nat) : Bits (Nat × Array Nat) := do
  let count := 1 + (← readSmall)
  if count = 1 then
    return (1, Array.replicate size 0)
  else
    let longest ← if (← Bits.bit) = 0 then pure 0 else pure (1 + (← Bits.take 4))
    let code ← readCode (count + longest) (count + longest)
    let entries ← readEntries code size longest size #[]
    let moved := (← Bits.take 1) = 1
    return (count, if moved then moveToFront entries else entries)

end BatchInbox.Brotli
