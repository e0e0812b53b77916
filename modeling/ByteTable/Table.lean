import ByteTable.Slot.Handle
import ByteTable.Storage

/-!
# Hash tables

A table is a storage together with the policy it is used under.  It checks the lengths of the keys
and values it is given, and it shows slots as handles: `find?` and `reserve` answer with the
handle of a key's slot, and a value can be read, written or removed through it without hashing the
key again.

A handle is read with the table's present bucket count, so it serves until the next `rehash`.  One
that points to no live slot is harmless: reading through it shows nothing, and writing through it
changes nothing but the log.
-/

namespace ByteTable

/-- A storage and the policy it is used under. -/
structure Table (β : Type) where
  /-- How keys are sized, hashed and compared. -/
  policy : Policy
  /-- The number of buckets, by which handles are read. -/
  bucketCount : Nat
  /-- Where the slots are kept. -/
  storage : β

namespace Table

variable {β σ : Type} [Storage β]

/-- The bucket count of a table that is not given one. -/
def defaultBucketCount : Nat := 3

/-- An empty table.  What goes wrong is logged. -/
def create (memory : Memory) (policy : Policy) (bucketCount : Nat) : Action σ (Table β) := do
  if bucketCount < 1 then
    Action.note (.tooFewBuckets bucketCount)
    Action.raise (.invalidBucketCount bucketCount)
  let storage : β ← Action.noteError
    (Action.ofExcept (SlotStorage.create memory policy.keySize policy.valueSize bucketCount))
    .storageRefused
  return ⟨policy, bucketCount, storage⟩

/-! ## What a table shows of itself -/

/-- The number of live keys, those without a value included. -/
def size (table : Table β) : Nat :=
  SlotStorage.size table.storage

/-- Whether there is no live key. -/
def isEmpty (table : Table β) : Bool :=
  table.size == 0

/-- The number of live keys per bucket, in single precision. -/
def loadFactor (table : Table β) : Single :=
  (Single.ofNat table.size).div (Single.ofNat table.bucketCount)

/-- The hash of a key. -/
def keyHash (table : Table β) (key : Bytes) : UInt64 :=
  table.policy.hash key

/-- Check the length of a key. -/
def checkKey (table : Table β) (key : Bytes) : Except Crash Unit :=
  if key.length = table.policy.keySize then return () else throw .keySize

/-- Check the length of a value. -/
def checkValue (table : Table β) (value : Bytes) : Except Crash Unit :=
  if value.length = table.policy.valueSize then return () else throw .valueSize

/-- Run an action on the storage, given the policy. -/
def onStorage {α : Type} (act : Policy → Action β α) : Action (Table β) α := do
  let policy ← Action.read fun table => .ok table.policy
  Action.within (fun ⟨policy, bucketCount, storage⟩ =>
    (storage, fun storage' => ⟨policy, bucketCount, storage'⟩)) (act policy)

/-! ## Keys and handles -/

/-- The handle of a key's slot; none if the key is absent, or if its slot has no handle. -/
def find? (key : Bytes) : Action (Table β) (Option Handle) := do
  Action.read (checkKey · key)
  match ← Action.read fun table => SlotStorage.locate table.storage table.policy key with
  | none => return none
  | some slot => Handle.pack (← Action.read fun table => .ok table.bucketCount) slot

/-- The handle of a key's slot, made for it if it has none, and whether it was.  Without a handle
the key is reserved all the same. -/
def reserve (memory : Memory) (key : Bytes) : Action (Table β) (Option Handle × Bool) := do
  Action.read (checkKey · key)
  let reservation ← onStorage fun policy => SlotStorage.reserve memory policy key
  let bucketCount ← Action.read fun table => .ok table.bucketCount
  return (← Handle.pack bucketCount reservation.slot, reservation.created)

/-- The slot that a handle stands for at present. -/
def slotOf (table : Table β) (handle : Handle) : Except Crash Slot :=
  handle.unpack table.bucketCount

/-- Whether a handle stands for a live slot whose value was written. -/
def isWritten (table : Table β) (handle : Handle) : Except Crash Bool := do
  SlotStorage.isWritten table.storage (← table.slotOf handle)

/-- The key of the slot that a handle stands for, if it is live. -/
def keyOf? (table : Table β) (handle : Handle) : Except Crash (Option Bytes) := do
  SlotStorage.keyAt table.storage (← table.slotOf handle)

/-- The value of the slot that a handle stands for, if it is live and its value was written. -/
def valueOf? (table : Table β) (handle : Handle) : Except Crash (Option Bytes) := do
  let slot ← table.slotOf handle
  if ← SlotStorage.isWritten table.storage slot then SlotStorage.valueAt table.storage slot
  else return none

/-- Write the value of the slot that a handle stands for. -/
def assign (handle : Handle) (value : Bytes) : Action (Table β) Unit := do
  Action.read (checkValue · value)
  let slot ← Action.read (slotOf · handle)
  onStorage fun _ => SlotStorage.assign slot value

/-- Remove the key of the slot that a handle stands for. -/
def discard (handle : Handle) : Action (Table β) Unit := do
  let slot ← Action.read (slotOf · handle)
  onStorage fun _ => SlotStorage.discard slot

/-! ## Keys and values -/

/-- The value of a key; none if the key is absent or only reserved. -/
def get? (table : Table β) (key : Bytes) : Except Crash (Option Bytes) := do
  table.checkKey key
  KeyedStorage.get? table.storage table.policy key

/-- Set the value of a key. -/
def insert (memory : Memory) (key value : Bytes) : Action (Table β) Unit := do
  Action.read (checkKey · key)
  Action.read (checkValue · value)
  onStorage fun policy => KeyedStorage.insert memory policy key value

/-- Remove a key; an absent key is left absent. -/
def erase (key : Bytes) : Action (Table β) Unit := do
  Action.read (checkKey · key)
  onStorage fun policy => KeyedStorage.erase policy key

/-- The keys of all live slots. -/
def keys (table : Table β) : Except Crash (List Bytes) :=
  KeyedStorage.keys table.storage

/-- The values of all live slots, in the order of `keys`. -/
def values (table : Table β) : Except Crash (List Bytes) :=
  KeyedStorage.values table.storage

/-- An enumerator over the keys or values, on the first live slot. -/
def enumerator (table : Table β) (kind : ElementKind) : Except Crash (Enumerator β) :=
  Enumerator.start table.storage kind

/-! ## Changing the number of buckets -/

/-- Check that the storage has as many buckets as the table. -/
def checkBucketCount (table : Table β) : Except Crash Unit :=
  if SlotStorage.bucketCount table.storage = table.bucketCount then return ()
  else throw .bucketCountDiffers

/-- Redistribute the live slots into another number of buckets.  Handles from before do not serve
afterwards. -/
def rehash (memory : Memory) (bucketCount : Nat) : Action (Table β) Unit := do
  if bucketCount < 1 then Action.raise (.invalidBucketCount bucketCount)
  let old ← Action.read fun table => .ok table.bucketCount
  let live ← Action.read fun table => .ok table.size
  Action.note (.rehashing old bucketCount live)
  onStorage fun policy => Storage.rehash memory policy bucketCount
  Action.modify fun table => { table with bucketCount }
  Action.read checkBucketCount

instance : Describe (Table β) :=
  ⟨fun table => Description.openRecord "HashTable"
    [("policy", describe table.policy), ("bucket_count", describe table.bucketCount)]⟩

end Table

end ByteTable
