import BatchInbox.Partition
import BatchInbox.Rpc.Error

/-!
# What can go wrong when a range is resolved

Errors end the work on a request.  Warnings come with its result, and say what was left out of it.

## What is here

* `RequestError` — why a request makes no sense.
* `ResolveError`, `ResolveWarning` — errors and warnings, with the names of their kinds.
-/

set_option autoImplicit false
namespace BatchInbox

/-- The text of a hash: hexadecimal digits behind `0x`. -/
def hashText (hash : Hash) : String := "0x" ++ hash.toHex

/-- Why a request makes no sense. -/
inductive RequestError where
  | startAfterEnd (start last : Word)
  | rollup (cause : Rollup.Error)
  | wrongChain (served requested : Word)
  deriving DecidableEq, Repr

/-- The text of an error. -/
def RequestError.message : RequestError → String
  | startAfterEnd start last => s!"start block {start} is after end block {last}"
  | rollup cause => cause.message
  | wrongChain served requested =>
    s!"l2 node serves chain {served}, request is for chain {requested}"

/-- Why a range is not resolved. -/
inductive ResolveError where
  | configUnknownChain (l2ChainId : Word)
  | configFetch (url : String) (cause : RpcError)
  | l1Fetch (cause : RpcError)
  | beaconFetch (cause : RpcError)
  | blobMissing (slot : Word) (hash : Hash)
  | blobMismatch (slot index : Word) (expected : Hash)
  | coverageGap (missing : List BlockRange)
  | cancelled
  | invalidRequest (cause : RequestError)
  | internal (detail : String)
  /-- The program has stopped when a channel was decompressed, and gives no answer. -/
  | overflow
  deriving DecidableEq

namespace ResolveError

/-- The text of an error. -/
def message : ResolveError → String
  | configUnknownChain id => s!"no known rollup config for l2 chain {id}"
  | configFetch url cause => s!"fetching rollup config from {url}: {cause.message}"
  | l1Fetch cause => s!"l1 rpc: {cause.message}"
  | beaconFetch cause => s!"beacon api: {cause.message}"
  | blobMissing slot hash => s!"blob {hashText hash} not found in slot {slot}"
  | blobMismatch slot index expected =>
    s!"blob at index {index} in slot {slot} does not match {hashText expected}"
  | coverageGap missing =>
    "no span batch covers " ++ String.intercalate ", " (missing.map BlockRange.text)
  | cancelled => "resolve cancelled"
  | invalidRequest cause => s!"invalid request: {cause.message}"
  | internal detail => s!"internal error: {detail}"
  | overflow => Coverage.Error.overflow.message

/-- The name of an error's kind. -/
def kind : ResolveError → String
  | configUnknownChain _ => "ConfigUnknownChain"
  | configFetch _ _ => "ConfigFetch"
  | l1Fetch _ => "L1Fetch"
  | beaconFetch _ => "BeaconFetch"
  | blobMissing _ _ => "BlobMissing"
  | blobMismatch _ _ _ => "BlobMismatch"
  | coverageGap _ => "CoverageGap"
  | cancelled => "Cancelled"
  | invalidRequest _ => "InvalidRequest"
  | internal _ => "Internal"
  | overflow => "Overflow"

/-- The request is to blame. -/
def isClientError : ResolveError → Bool
  | invalidRequest _ | configUnknownChain _ => true
  | _ => false

/-- The texts of the reasons behind an error. -/
def causes : ResolveError → List String
  | configFetch _ cause => cause.message :: cause.causes
  | _ => []

end ResolveError

/-- What is left out of a result. -/
inductive ResolveWarning where
  | channelTimeout (channel : ChannelId) (firstSeen : Word)
  | channelTooLarge (channel : ChannelId) (limit : Word)
  | batchDecode (channel : ChannelId) (cause : Coverage.Error)
  | overlapDetected (kept dropped : BlockRange) (isDuplicate : Bool)
  deriving DecidableEq

namespace ResolveWarning

/-- The text of a warning. -/
def message : ResolveWarning → String
  | channelTimeout channel firstSeen =>
    s!"channel {channel.toHex} opened at l1 block {firstSeen} timed out"
  | channelTooLarge channel limit =>
    s!"channel {channel.toHex} exceeds {limit} bytes decompressed"
  | batchDecode channel cause => s!"channel {channel.toHex}: {cause.message}"
  | overlapDetected kept dropped _ =>
    s!"{dropped.text} already covered by {kept.text}, keeping the first seen"

/-- The name of a warning's kind. -/
def kind : ResolveWarning → String
  | channelTimeout _ _ => "ChannelTimeout"
  | channelTooLarge _ _ => "ChannelTooLarge"
  | batchDecode _ _ => "BatchDecode"
  | overlapDetected _ _ _ => "OverlapDetected"

end ResolveWarning
end BatchInbox
