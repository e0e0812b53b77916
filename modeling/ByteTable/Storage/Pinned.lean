import ByteTable.Storage

/-!
# Pinned storage

A storage that stores nothing and reports what it is told: a number of live slots and one slot,
the only one that exists.  Every key is found there, and writes are ignored.  With it a table or a
dictionary can be driven at sizes that no memory could hold, such as a load factor of a billion.
-/

namespace ByteTable

/-- A storage that reports a stated size and a single slot. -/
structure Pinned where
  /-- The reported number of live slots. -/
  size : Nat
  /-- The number of buckets it was created or rehashed with. -/
  bucketCount : Nat
  /-- The one slot. -/
  slot : Slot
  deriving DecidableEq

namespace Pinned

/-- The key of the slot. -/
def key : Bytes := [107]

/-- The value of the slot. -/
def value : Bytes := [118]

instance : SlotStorage Pinned where
  create _ _ _ bucketCount := return ⟨0, bucketCount, ⟨0, 0⟩⟩
  size := size
  bucketCount := bucketCount
  isWritten pinned slot := return slot == pinned.slot
  locate pinned _ _ := return some pinned.slot
  reserve _ _ _ := Action.read fun pinned => return ⟨pinned.slot, true⟩
  keyAt pinned slot := return if slot = pinned.slot then some key else none
  valueAt pinned slot := return if slot = pinned.slot then some value else none
  assign _ _ := return ()
  discard _ := return ()
  step pinned
    | .head, .next => return .on pinned.slot
    | .tail, .previous => return .on pinned.slot
    | _, _ => return .exhausted
  extent _ := 1

instance : KeyedStorage Pinned where

instance : Storage Pinned where
  rehash _ _ bucketCount := Action.modify fun pinned => { pinned with bucketCount }

end Pinned

end ByteTable
