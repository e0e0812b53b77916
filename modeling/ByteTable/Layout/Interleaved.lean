import ByteTable.Column
import ByteTable.Directory
import ByteTable.Layout

/-!
# The interleaved layout

One chain per bucket, and in it one record per slot: the eight bytes of the word, the key, the
value.  A probe reads one stretch of memory.

Because a record is a slot in one piece, this layout can change the number of buckets by moving
whole records: `redistribute` fills a new directory with the live records in their old order and
swaps it in at the end, so that a refused reservation leaves the old directory in place.
-/

namespace ByteTable

/-- Slots kept as records of word, key and value. -/
structure Interleaved where
  /-- The length of a key. -/
  keySize : Nat
  /-- The length of a value. -/
  valueSize : Nat
  /-- Each bucket's records. -/
  records : Directory Column
  deriving DecidableEq

namespace Interleaved

/-- The bytes that a directory of element columns takes for each bucket. -/
def entryBytes : Nat := 40

/-- The offset of the key within a record. -/
def keyOffset : Nat := 8

/-- The length of a record. -/
def recordSize (store : Interleaved) : Except Crash Nat := do
  addSizes (← addSizes keyOffset store.keySize) store.valueSize

/-- The word at the beginning of a record. -/
def recordWord (record : Bytes) : SlotWord :=
  ⟨Bytes.toWord (record.take keyOffset)⟩

/-- The key within a record. -/
def recordKey (keySize : Nat) (record : Bytes) : Bytes :=
  (record.drop keyOffset).take keySize

/-- The value at the end of a record. -/
def recordValue (keySize : Nat) (record : Bytes) : Bytes :=
  record.drop (keyOffset + keySize)

/-- The record of a slot. -/
def recordAt (store : Interleaved) (slot : Slot) : Except Crash Bytes := do
  (← store.records.chain slot.bucket).element slot.item

/-- Run an action on the records. -/
def onRecords {α : Type} (act : Action (Directory Column) α) : Action Interleaved α :=
  Action.within (fun ⟨keySize, valueSize, records⟩ =>
    (records, fun records' => ⟨keySize, valueSize, records'⟩)) act

/-- Write a field of a slot's record: `width` bytes from `offset` on. -/
def writeField (slot : Slot) (offset width : Nat) (data : Bytes) : Action Interleaved Unit :=
  onRecords (Directory.onChain slot.bucket (Column.writeField slot.item offset width data))

/-- Replace the word of a slot. -/
def setWord (slot : Slot) (word : SlotWord) : Action Interleaved Unit :=
  writeField slot 0 keyOffset (Bytes.ofWord word.bits)

/-- The lengths of keys and values. -/
def sizes : Action Interleaved (Nat × Nat) :=
  Action.read fun store => .ok (store.keySize, store.valueSize)

/-- Replace the value of a slot. -/
def setValue (slot : Slot) (value : Bytes) : Action Interleaved Unit := do
  let (keySize, valueSize) ← sizes
  writeField slot (keyOffset + keySize) valueSize value

/-- Give a slot a new word and key and a zeroed value. -/
def overwrite (slot : Slot) (word : SlotWord) (key : Bytes) : Action Interleaved Unit := do
  let (keySize, valueSize) ← sizes
  setWord slot word
  writeField slot keyOffset keySize key
  writeField slot (keyOffset + keySize) valueSize (Bytes.zeroes valueSize)

/-- Add a record to a bucket: a record of zeroes first, which is then given its word and key. -/
def append (memory : Memory) (bucket : Nat) (word : SlotWord) (key : Bytes) :
    Action Interleaved Nat := do
  let size ← Action.read recordSize
  let limit := memory.limit (.chain .records bucket)
  let item ← onRecords do
    Directory.openChain bucket (Column.create limit size 1)
    Directory.onChain bucket (Column.append limit none)
  overwrite ⟨bucket, item⟩ word key
  return item

/-- The live records in bucket order. -/
def liveRecords (store : Interleaved) : List Bytes :=
  (store.records.toList.flatMap Column.toList).filter fun record =>
    !(recordWord record).isTombstone

/-- Append a record to the bucket its key belongs to. -/
def placeRecord (memory : Memory) (policy : Policy) (keySize recordSize bucketCount : Nat)
    (record : Bytes) : Action (Directory Column) Unit := do
  let bucket ← Policy.bucketOf (policy.hash (recordKey keySize record)) bucketCount
  let limit := memory.limit (.chain .records bucket)
  Directory.openChain bucket (Column.create limit recordSize 1)
  let _ ← Directory.onChain bucket (Column.append limit (some record))

/-- Move the live records into `bucketCount` buckets.  The new directory is filled completely
before it takes the place of the old one. -/
def redistribute (memory : Memory) (policy : Policy) (bucketCount : Nat) :
    Action Interleaved Unit := do
  let store ← Action.current
  let size ← store.recordSize
  let fresh ← Directory.create (memory.limit (.directory .records)) entryBytes bucketCount
  let (_, moved) ← Action.apart fresh <|
    store.liveRecords.forM (placeRecord memory policy store.keySize size bucketCount)
  Action.replace { store with records := moved }

instance : Layout Interleaved where
  create memory keySize valueSize bucketCount :=
    return ⟨keySize, valueSize,
      ← Directory.create (memory.limit (.directory .records)) entryBytes bucketCount⟩
  bucketCount store := store.records.size
  bucketLength store bucket :=
    return (← store.records.chain? bucket).elim 0 Column.size
  wordAt store slot := return recordWord (← store.recordAt slot)
  keyAt store slot := return recordKey store.keySize (← store.recordAt slot)
  valueAt store slot := return recordValue store.keySize (← store.recordAt slot)
  setWord := setWord
  setValue := setValue
  overwrite := overwrite
  append := append
  redistribute? := some redistribute

instance : Describe Interleaved :=
  ⟨fun store => Description.record "InterleavedStore"
    [("key_size", describe store.keySize), ("value_size", describe store.valueSize),
      ("buckets", describe store.records)]⟩

end Interleaved

end ByteTable
