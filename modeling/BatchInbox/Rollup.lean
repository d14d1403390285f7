import BatchInbox.Bytes
import BatchInbox.Word

/-!
# Rollup chains

The parameters of an L2 chain that the search for its batches needs: where its genesis is, how
block numbers and timestamps go together, who posts its batches where, and how long a channel may
take.

## What is here

* `Rollup` — the parameters of a chain; `Rollup.Error` — what they cannot answer.
* `Rollup.timestamp` — the time of an L2 block.
* `Rollup.known`, `Rollup.known?` — the chains whose parameters are built in.
-/

set_option autoImplicit false
namespace BatchInbox

/-- The parameters of an L2 chain. -/
structure Rollup where
  l2ChainId : Word
  l1ChainId : Word
  genesisBlock : Word
  genesisTime : Word
  /-- Seconds from one L2 block to the next. -/
  blockTime : Word
  /-- Where batches are sent. -/
  inbox : Address
  /-- Who sends them. -/
  batcher : Address
  /-- How many L1 blocks a channel may stay open. -/
  channelTimeout : Word
  /-- How many L1 blocks a batch may be late. -/
  sequencingWindow : Word
  deriving DecidableEq

namespace Rollup

/-- Seconds from one L1 block to the next. -/
def l1BlockTime : Word := 12

/-- The channel timeout of chains that do not say otherwise, in L1 blocks. -/
def defaultChannelTimeout : Word := 300

/-- The sequencing window of chains that do not say otherwise, in L1 blocks. -/
def defaultSequencingWindow : Word := 3600

/-- Why a chain's parameters do not answer a question. -/
inductive Error where
  | zeroBlockTime
  | beforeGenesis (block genesis : Word)
  | beforeGenesisTime (timestamp genesisTime : Word)
  | timestampOverflow (block : Word)
  deriving DecidableEq, Repr

/-- The text of an error. -/
def Error.message : Error → String
  | zeroBlockTime => "l2 block time must be non-zero"
  | beforeGenesis block genesis => s!"l2 block {block} is before genesis block {genesis}"
  | beforeGenesisTime timestamp genesisTime =>
    s!"timestamp {timestamp} is before l2 genesis time {genesisTime}"
  | timestampOverflow block => s!"timestamp of l2 block {block} overflows u64"

/-- The chain makes progress. -/
def validate (c : Rollup) : Except Error Unit :=
  if c.blockTime = 0 then .error .zeroBlockTime else .ok ()

/-- The timestamp of an L2 block. -/
def timestamp (c : Rollup) (block : Word) : Except Error Word :=
  match Word.sub? block c.genesisBlock with
  | none => .error (.beforeGenesis block c.genesisBlock)
  | some offset =>
    match (Word.mul? offset c.blockTime).bind (Word.add? · c.genesisTime) with
    | none => .error (.timestampOverflow block)
    | some time => .ok time

/-- The channel timeout in seconds of L1 time. -/
def channelTimeoutSeconds (c : Rollup) : Word := Word.mulSat c.channelTimeout l1BlockTime

/-- The sequencing window in seconds of L1 time. -/
def sequencingWindowSeconds (c : Rollup) : Word := Word.mulSat c.sequencingWindow l1BlockTime

/-! ## Known chains -/

/-- An address written in hexadecimal digits. -/
def address (digits : String) : Address :=
  ((Bytes.ofHex? digits).bind (BytesN.ofList? 20)).getD default

/-- A chain with the default timeout and window. -/
def canonical (l2ChainId l1ChainId genesisBlock genesisTime blockTime : Word)
    (inbox batcher : String) : Rollup where
  l2ChainId
  l1ChainId
  genesisBlock
  genesisTime
  blockTime
  inbox := address inbox
  batcher := address batcher
  channelTimeout := defaultChannelTimeout
  sequencingWindow := defaultSequencingWindow

/-- The chains whose parameters are built in: OP Mainnet (from its migration block), Base, Unichain,
OP Sepolia and Base Sepolia. -/
def known : List Rollup :=
  [canonical 10 1 105235063 1686068903 2
      "ff00000000000000000000000000000000000010" "6887246668a3b87f54deb3b94ba47a6f63f32985",
    canonical 8453 1 0 1686789347 2
      "ff00000000000000000000000000000000008453" "5050f69a9786f081509234f1a7f4684b5e5b76c9",
    canonical 130 1 0 1730748359 1
      "ff00000000000000000000000000000000000130" "2f60a5184c63ca94f82a27100643dbabe4f3f7fd",
    canonical 11155420 11155111 0 1691802540 2
      "ff00000000000000000000000000000011155420" "8f23bb38f531600e5d8fddaaec41f13fab46e98c",
    canonical 84532 11155111 0 1695768288 2
      "ff00000000000000000000000000000000084532" "6cdebe940bc0f26850285caca097c11c33103e47"]

/-- The known chain with the given id. -/
def known? (l2ChainId : Word) : Option Rollup :=
  known.find? (·.l2ChainId = l2ChainId)

end Rollup
end BatchInbox
