import BatchInbox.Json.Decode
import BatchInbox.Rollup

/-!
# Chain parameters as JSON

Parameters are written and read in a format of their own.  A rollup node tells them in another one,
in which the timeout and the window may be missing.
-/

set_option autoImplicit false
namespace BatchInbox.Rollup
open Json (required? defaulted? optional?)

/-- The members of a chain's parameters. -/
def members : List Json.Member :=
  [.required "l2ChainId", .required "l1ChainId", .required "l2GenesisBlock",
    .required "l2GenesisTime", .required "l2BlockTime", .required "batchInboxAddress",
    .required "batcherAddress", .required "channelTimeout", .required "seqWindowSize"]

/-- Reads a chain's parameters. -/
def ofJson? (json : Json) : Option Rollup := do
  match ← json.members? members with
  | [l2ChainId, l1ChainId, genesisBlock, genesisTime, blockTime, inbox, batcher, channelTimeout,
      sequencingWindow] =>
    return {
      l2ChainId := ← required? Json.toWord? l2ChainId
      l1ChainId := ← required? Json.toWord? l1ChainId
      genesisBlock := ← required? Json.toWord? genesisBlock
      genesisTime := ← required? Json.toWord? genesisTime
      blockTime := ← required? Json.toWord? blockTime
      inbox := ← required? (Json.toFixed? 20) inbox
      batcher := ← required? (Json.toFixed? 20) batcher
      channelTimeout := ← required? Json.toWord? channelTimeout
      sequencingWindow := ← required? Json.toWord? sequencingWindow }
  | _ => none

/-- The parameters as an object. -/
def toJson (c : Rollup) : Json :=
  .ofFields
    [("l2ChainId", .ofWord c.l2ChainId), ("l1ChainId", .ofWord c.l1ChainId),
      ("l2GenesisBlock", .ofWord c.genesisBlock), ("l2GenesisTime", .ofWord c.genesisTime),
      ("l2BlockTime", .ofWord c.blockTime), ("batchInboxAddress", .ofBytes c.inbox.toList),
      ("batcherAddress", .ofBytes c.batcher.toList),
      ("channelTimeout", .ofWord c.channelTimeout),
      ("seqWindowSize", .ofWord c.sequencingWindow)]

/-! ## What a rollup node tells -/

/-- Reads the number of the genesis block. -/
def nodeBlock? (json : Json) : Option Word := do
  match ← json.members? [.required "number"] with
  | [number] => required? Json.toWord? number
  | _ => none

/-- Reads the batcher of the genesis. -/
def nodeBatcher? (json : Json) : Option Address := do
  match ← json.members? [.required "batcherAddr"] with
  | [batcher] => required? (Json.toFixed? 20) batcher
  | _ => none

/-- Reads the genesis: its L2 block, its time, and the batcher. -/
def nodeGenesis? (json : Json) : Option (Word × Word × Address) := do
  match ← json.members? [.required "l2", .required "l2_time", .required "system_config"] with
  | [block, time, system] =>
    return (← required? nodeBlock? block, ← required? Json.toWord? time,
      ← required? nodeBatcher? system)
  | _ => none

/-- The members of a rollup node's answer. -/
def nodeMembers : List Json.Member :=
  [.required "genesis", .required "block_time", .defaulted "seq_window_size",
    .defaulted "channel_timeout", .required "l1_chain_id", .required "l2_chain_id",
    .required "batch_inbox_address"]

/-- Reads the answer of a rollup node. -/
def ofNodeJson? (json : Json) : Option Rollup := do
  match ← json.members? nodeMembers with
  | [genesis, blockTime, window, timeout, l1ChainId, l2ChainId, inbox] =>
    let (genesisBlock, genesisTime, batcher) ← required? nodeGenesis? genesis
    return {
      l2ChainId := ← required? Json.toWord? l2ChainId
      l1ChainId := ← required? Json.toWord? l1ChainId
      genesisBlock
      genesisTime
      blockTime := ← required? Json.toWord? blockTime
      inbox := ← required? (Json.toFixed? 20) inbox
      batcher
      channelTimeout := (← optional? Json.toWord? timeout).getD defaultChannelTimeout
      sequencingWindow := (← optional? Json.toWord? window).getD defaultSequencingWindow }
  | _ => none

end BatchInbox.Rollup
