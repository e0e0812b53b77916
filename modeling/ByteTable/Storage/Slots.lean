import ByteTable.Action
import ByteTable.Memory
import ByteTable.Policy

/-!
# Storage by slots

`SlotStorage` is the least that a table needs of whatever keeps its slots: create it, find or
reserve the slot of a key, read and write through slots, and walk from one live slot to the next.
Everything else a table does can be composed of these, as `ByteTable.Storage.Keyed` and
`ByteTable.Storage.Rebuild` show.

A live slot holds a key.  It holds a value only once one was written; until then the key is merely
reserved.
-/

namespace ByteTable

/-- The slot of a key, and whether it was made for it just now. -/
structure Reservation where
  /-- The slot. -/
  slot : Slot
  /-- Whether the key was absent before. -/
  created : Bool
  deriving DecidableEq

/-- What keeps the slots of a table. -/
class SlotStorage (β : Type) where
  /-- An empty storage. -/
  create : Memory → (keySize valueSize bucketCount : Nat) → Except TableError β
  /-- The number of live slots. -/
  size : β → Nat
  /-- The number of buckets. -/
  bucketCount : β → Nat
  /-- Whether a slot is live and its value written. -/
  isWritten : β → Slot → Except Crash Bool
  /-- The slot of a key. -/
  locate : β → Policy → Bytes → Except Crash (Option Slot)
  /-- The slot of a key, made for it if it has none. -/
  reserve : Memory → Policy → Bytes → Action β Reservation
  /-- The key of a slot, if it is live. -/
  keyAt : β → Slot → Except Crash (Option Bytes)
  /-- The value of a slot, if it is live, written or not. -/
  valueAt : β → Slot → Except Crash (Option Bytes)
  /-- Write the value of a live slot. -/
  assign : Slot → Bytes → Action β Unit
  /-- Turn a live slot into a tombstone. -/
  discard : Slot → Action β Unit
  /-- The next live slot from a cursor. -/
  step : β → Cursor → Direction → Except Crash Cursor
  /-- A bound on the number of slots that a walk from either end meets. -/
  extent : β → Nat

end ByteTable
