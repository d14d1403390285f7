import BatchInbox.Main
import BatchInbox.Proofs.Runs
import BatchInbox.Proofs.Ownership
import BatchInbox.Proofs.Blob
import BatchInbox.Proofs.BlobReading
import BatchInbox.Proofs.BlobCursor
import BatchInbox.Proofs.BlobFormat
import BatchInbox.Proofs.Frame
import BatchInbox.Proofs.Delimited
import BatchInbox.Proofs.SpanPayload
import BatchInbox.Proofs.Batch
import BatchInbox.Proofs.Coverage
import BatchInbox.Proofs.Channel
import BatchInbox.Proofs.ChannelTable
import BatchInbox.Proofs.Intake
import BatchInbox.Proofs.Wire
import BatchInbox.Proofs.Effect
import BatchInbox.Proofs.Window
import BatchInbox.Proofs.Beacon
import BatchInbox.Proofs.Lookahead
import BatchInbox.Proofs.Scan
import BatchInbox.Proofs.Posted
import BatchInbox.Proofs.Completeness
import BatchInbox.Proofs.Fate
import BatchInbox.Proofs.Isolation
import BatchInbox.Proofs.JsonText
import BatchInbox.Proofs.Cache
import BatchInbox.Proofs.Fetching
import BatchInbox.Proofs.Tracking
import BatchInbox.Proofs.Renumbering
import BatchInbox.Proofs.Lockstep
import BatchInbox.Proofs.Retention
import BatchInbox.Proofs.Transparency
import BatchInbox.Proofs.Strangers
import BatchInbox.Proofs.Journal
import BatchInbox.Proofs.Timeouts
import BatchInbox.Proofs.Accounting
import BatchInbox.Proofs.BatchReader
import BatchInbox.Proofs.Strictness
import BatchInbox.Proofs.Ensures
import BatchInbox.Proofs.Cover
import BatchInbox.Proofs.Endings
import BatchInbox.Proofs.Outside
import BatchInbox.Proofs.Guarded
import BatchInbox.Proofs.Narrowing
import BatchInbox.Proofs.Gaps
import BatchInbox.Proofs.Pieces
import BatchInbox.Proofs.SeenOrder
import BatchInbox.Proofs.Exchanges
import BatchInbox.Proofs.GivingUp
import BatchInbox.Proofs.SpanLayout
import BatchInbox.Proofs.FrameRow
import BatchInbox.Proofs.Assembly
import BatchInbox.Proofs.InPlace
import BatchInbox.Proofs.Timestamps
import BatchInbox.Proofs.InboxTxs
import BatchInbox.Proofs.Emission
import BatchInbox.Proofs.Unpacking
import BatchInbox.Proofs.Conformity
import BatchInbox.Proofs.SizeLimit
import BatchInbox.Proofs.Storage
import BatchInbox.Proofs.CachedFetches
import BatchInbox.Proofs.BlobSelection
import BatchInbox.Proofs.SlotMemo
import BatchInbox.Proofs.Waiting
import BatchInbox.Proofs.Halving
import BatchInbox.Proofs.Retries
import BatchInbox.Proofs.Replies
import BatchInbox.Proofs.JsonRpc
