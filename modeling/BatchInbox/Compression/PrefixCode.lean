import BatchInbox.Compression.BitStream

/-!
# Canonical prefix codes

Deflate and brotli transmit a prefix code as the length of each symbol's codeword.  The codewords
follow from the lengths: shorter ones come first, equal lengths in symbol order, and each takes the
leftmost free node of its level in the binary tree.

Decoding walks down the tree a bit at a time.  On every level the nodes are numbered from the first
one that is not below a shorter codeword: the first `count` of them are codewords, the nodes from
there up to `reach` are inner ones, and the rest of an incomplete code stands for nothing.
-/

set_option autoImplicit false
namespace BatchInbox

/-- One level of the tree of codewords. -/
structure PrefixCode.Level where
  /-- The codewords of this length. -/
  count : Nat
  /-- The nodes on this level with a codeword at or below them. -/
  reach : Nat

/-- A canonical prefix code. -/
structure PrefixCode where
  /-- The levels from length 1 on; without any, the only symbol takes no bits. -/
  levels : List PrefixCode.Level
  /-- The symbols in the order of their codewords. -/
  symbols : Array Nat

namespace PrefixCode

/-- The longest codeword of any of the formats. -/
def maxLength : Nat := 15

/-- The number of codewords of each of the lengths `1, 2, …, maxLength`. -/
def counts (lengths : Array Nat) : List Nat :=
  let tally := lengths.foldl (fun tally n => tally.modify n (· + 1)) (Array.replicate 16 0)
  tally.toList.drop 1

/-- The symbols with a codeword, by length and then by symbol. -/
def symbolsByLength (lengths : Array Nat) : Array Nat :=
  let starts :=
    (counts lengths).foldl (fun starts n => starts.push (starts.back?.getD 0 + n)) #[0, 0]
  let total := starts.back?.getD 0
  let place (acc : Array Nat × Array Nat) (entry : Nat × Nat) : Array Nat × Array Nat :=
    let (symbols, next) := acc
    let (length, symbol) := entry
    if length = 0 then (symbols, next)
    else (symbols.setIfInBounds (next.getD length 0) symbol, next.modify length (· + 1))
  (lengths.zipIdx.foldl place (Array.replicate total 0, starts)).1

/-- The levels of a tree with the given number of codewords on each, without the empty ones below
the last codeword. -/
def levelsOf : List Nat → List Level
  | [] => []
  | count :: deeper =>
    match levelsOf deeper with
    | [] => if count = 0 then [] else [⟨count, count⟩]
    | below :: rest => ⟨count, count + (below.reach + 1) / 2⟩ :: below :: rest

/-- The space that the codewords of a tree take up, in units of the deepest level. -/
def weight (counts : List Nat) : Nat :=
  counts.foldl (fun space count => 2 * space + count) 0

/-- All of the tree belongs to codewords. -/
def isComplete (lengths : Array Nat) : Bool :=
  weight (counts lengths) = 1 <<< maxLength

/-- How many symbols have a codeword. -/
def used (lengths : Array Nat) : Nat :=
  (counts lengths).foldl (· + ·) 0

/-- The code with the given codeword lengths, `0` for a symbol without one.  A code without symbols
still takes a bit to find that there is none. -/
def ofLengths (lengths : Array Nat) : PrefixCode where
  levels :=
    match levelsOf (counts lengths) with
    | [] => [⟨0, 0⟩]
    | levels => levels
  symbols := symbolsByLength lengths

/-- The code whose only symbol takes no bits. -/
def constant (symbol : Nat) : PrefixCode := ⟨[], #[symbol]⟩

/-- Walks down from `node`; `passed` codewords are shorter than this level's. -/
def walk (symbols : Array Nat) : List Level → (node passed : Nat) → Bits Nat
  | [], _, _ => Bits.invalid
  | level :: deeper, node, passed => do
    let node := 2 * node + (← Bits.bit)
    if node < level.count then
      return symbols.getD (passed + node) 0
    else if node < level.reach then
      walk symbols deeper (node - level.count) (passed + level.count)
    else
      Bits.invalid

/-- Reads one codeword. -/
def decode (code : PrefixCode) : Bits Nat :=
  match code.levels with
  | [] => return code.symbols.getD 0 0
  | levels => walk code.symbols levels 0 0

end PrefixCode
end BatchInbox
