import ByteTable.Storage.Rebuild

/-!
# Storage

What a table keeps its slots in: a storage by slots and by keys that can change its number of
buckets.  By default it does so by being rebuilt.
-/

namespace ByteTable

/-- What a table keeps its slots in. -/
class Storage (β : Type) extends KeyedStorage β where
  /-- Redistribute the live slots into another number of buckets. -/
  rehash : Memory → Policy → (bucketCount : Nat) → Action β Unit := KeyedStorage.rehashByRebuild

end ByteTable
