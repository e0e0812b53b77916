import ByteTable.Chains
import ByteTable.Dictionary
import ByteTable.Layout.FullySeparated
import ByteTable.Layout.HashSeparated
import ByteTable.Layout.Interleaved
import ByteTable.Policy.Stock
import ByteTable.Storage.Bare
import ByteTable.Storage.Pinned
import ByteTable.Table.Pairs
import ByteTable.Proofs.Storage.Exact
import ByteTable.Proofs.Storage.InPlace
import ByteTable.Proofs.Storage.Lookup
import ByteTable.Proofs.Table.Invariant
import ByteTable.Proofs.Table.Run
import ByteTable.Proofs.Table.Refinement
import ByteTable.Proofs.Action.Relations
import ByteTable.Proofs.Directory.Touches
import ByteTable.Proofs.Chains.Touches
import ByteTable.Proofs.Storage.Defaults
import ByteTable.Proofs.Storage.InStep
import ByteTable.Proofs.Table.Bare
import ByteTable.Proofs.Dictionary
import ByteTable.Proofs.Table.Refusal
import ByteTable.Proofs.Dictionary.Refusal
import ByteTable.Proofs.Table.Handle
import ByteTable.Proofs.Buckets.Marks
import ByteTable.Proofs.Dictionary.Operation
import ByteTable.Proofs.Table.Lasting
import ByteTable.Proofs.Dictionary.Lasting
import ByteTable.Proofs.Dictionary.Safety
import ByteTable.Proofs.Table.Oversized
import ByteTable.Proofs.Storage.Cursor
import ByteTable.Proofs.Dictionary.Session
import ByteTable.Proofs.Single
import ByteTable.Proofs.Table.Gains
import ByteTable.Proofs.Dictionary.Growth
import ByteTable.Proofs.Buckets.Veil
import ByteTable.Proofs.Layout.Impartial
import ByteTable.Proofs.Chains.Impartial
import ByteTable.Proofs.Table.Alike
import ByteTable.Proofs.Table.Confined
import ByteTable.Proofs.Slot.Codec
import ByteTable.Proofs.Table.Views
import ByteTable.Proofs.Table.Agreement
import ByteTable.Proofs.Storage.OneSlot
import ByteTable.Proofs.Column.Edits
import ByteTable.Proofs.Layout.Edits
import ByteTable.Proofs.Table.Redeal
import ByteTable.Proofs.Table.HighWater
import ByteTable.Proofs.Dictionary.Threshold
import ByteTable.Proofs.Policy.Stock
