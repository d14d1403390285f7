import BatchInbox.Compression.Zstd.BackwardBits

/-!
# Finite state entropy

An FSE table has a cell for each state.  A state stands for a symbol; the next state is the cell's
base plus a few bits of the stream.  The table is built from the probability of each symbol, in
units of one cell, which is sent in front of the coded data.
-/

set_option autoImplicit false
namespace BatchInbox.Zstd

/-- A state: its symbol and how the next state is found. -/
structure FseCell where
  symbol : Nat
  base : Nat
  width : Nat

/-- A table of `2 ^ log` states. -/
structure FseTable where
  log : Nat
  cells : Array FseCell

/-- The share of the table that a symbol takes. -/
inductive Share where
  /-- So many cells; zero for a symbol that does not occur. -/
  | cells (count : Nat)
  /-- Less than a cell: one at the end of the table, left by any other state. -/
  | rare

namespace FseTable

def cell (table : FseTable) (state : Nat) : FseCell :=
  table.cells.getD state ⟨0, 0, 0⟩

/-- The table in which every state is the same symbol, which takes no bits. -/
def constant (symbol : Nat) : FseTable := ⟨0, #[⟨symbol, 0, 0⟩]⟩

/-- The next cell, in the walk that spreads the symbols, below the cells of rare symbols.  The
first `size` tries find one. -/
def nextFree (size free position : Nat) : (tries : Nat) → Nat
  | 0 => position
  | tries + 1 =>
    let position := (position + size / 2 + size / 8 + 3) % size
    if position < free then position else nextFree size free position tries

/-- Spreads `count` cells of a symbol over the table. -/
def spread (size free symbol : Nat) : (count : Nat) → Array Nat × Nat → Array Nat × Nat
  | 0, acc => acc
  | count + 1, (symbols, position) =>
    spread size free symbol count
      (symbols.setIfInBounds position symbol, nextFree size free position size)

/-- The symbol of every state. -/
def spreadSymbols (size : Nat) (shares : List Share) : Array Nat :=
  let indexed := shares.zipIdx
  let (symbols, free) := indexed.foldl
    (fun (symbols, free) (share, symbol) =>
      match share with
      | .rare => (symbols.setIfInBounds (free - 1) symbol, free - 1)
      | .cells _ => (symbols, free))
    (Array.replicate size 0, size)
  (indexed.foldl
    (fun acc (share, symbol) =>
      match share with
      | .rare => acc
      | .cells count => spread size free symbol count acc)
    (symbols, 0)).1

/-- The table for the given shares of `2 ^ log` cells.  The cells of a symbol are numbered from its
share on; the number says how many bits lead on, and from where. -/
def build (log : Nat) (shares : List Share) : FseTable :=
  let size := 1 <<< log
  let first := shares.toArray.map fun
    | .cells count => count
    | .rare => 1
  let number (acc : Array FseCell × Array Nat) (symbol : Nat) : Array FseCell × Array Nat :=
    let (cells, next) := acc
    let rank := next.getD symbol 1
    let width := log - rank.log2
    (cells.push ⟨symbol, (rank <<< width) - size, width⟩, next.modify symbol (· + 1))
  ⟨log, ((spreadSymbols size shares).foldl number (#[], first)).1⟩

/-! ## Reading the shares -/

/-- Skips symbols that do not occur: each pair of bits adds up to three, and a full one is followed
by another. -/
def skipAbsent (data : ByteArray) (pos : Nat) (limit : Nat) : (rounds : Nat) → Nat × Nat
  | 0 => (0, pos)
  | rounds + 1 =>
    let run := Bits.field data pos 2
    if run = 3 ∧ 3 ≤ limit then
      let (more, pos) := skipAbsent data (pos + 2) (limit - 3) rounds
      (3 + more, pos)
    else (run, pos + 2)

/-- Reads shares until they add up to the whole table.  `remaining` is one more than the cells not
yet given away, and decides how many bits the next share takes.  Every round is for a symbol. -/
def readSharesFrom (data : ByteArray) (maxSymbol : Nat) :
    (rounds pos remaining : Nat) → Array Share → Except Corruption (Array Share × Nat)
  | 0, _, _, _ => .error .invalid
  | rounds + 1, pos, remaining, shares =>
    let width := remaining.log2
    let threshold := 1 <<< width
    let short := 2 * threshold - 1 - remaining
    let low := Bits.field data pos width
    let (value, pos) :=
      if low < short then (low, pos + width)
      else
        let value := Bits.field data pos (width + 1)
        (if threshold ≤ value then value - short else value, pos + width + 1)
    let (share, used) : Share × Nat :=
      if value = 0 then (.rare, 1) else (.cells (value - 1), value - 1)
    let shares := shares.push share
    if remaining < used + 1 then .error .invalid
    else
      let remaining := remaining - used
      if remaining = 1 then .ok (shares, pos)
      else
        let (absent, pos) :=
          if value = 1 then skipAbsent data pos maxSymbol maxSymbol else (0, pos)
        if maxSymbol < shares.size + absent then .error .invalid
        else readSharesFrom data maxSymbol rounds pos remaining
          (shares ++ Array.replicate absent (.cells 0))

/-- Reads the table at byte `start` of `data`, for symbols up to `maxSymbol` and with at most
`2 ^ maxLog` states.  Returns it with the byte behind its description. -/
def read (data : ByteArray) (start maxSymbol maxLog : Nat) : Except Corruption (FseTable × Nat) :=
  let log := 5 + Bits.field data (8 * start) 4
  if maxLog < log then .error .invalid
  else
    match readSharesFrom data maxSymbol (maxSymbol + 1) (8 * start + 4) ((1 <<< log) + 1) #[] with
    | .error cause => .error cause
    | .ok (shares, pos) =>
      if 8 * data.size < pos then .error .invalid
      else .ok (build log shares.toList, (pos + 7) / 8)

/-! ## States -/

/-- Reads the first state. -/
def start (table : FseTable) : BackBits Nat :=
  BackBits.take table.log

/-- Reads the state behind `state`. -/
def next (table : FseTable) (state : Nat) : BackBits Nat := do
  let cell := table.cell state
  return cell.base + (← BackBits.take cell.width)

end FseTable
end BatchInbox.Zstd
