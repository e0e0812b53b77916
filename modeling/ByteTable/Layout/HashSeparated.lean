import ByteTable.Column
import ByteTable.Directory
import ByteTable.Layout
import ByteTable.WordColumn

/-!
# The layout with words apart

Two chains per bucket: the words, and records of key and value.  A probe runs over the words alone
and touches a record only when the truncated hash agrees, which pays when keys are large.

The two chains of a bucket have the same length; `append` checks it.
-/

namespace ByteTable

/-- Slots kept as a word in one chain and a record of key and value in another. -/
structure HashSeparated where
  /-- The length of a key. -/
  keySize : Nat
  /-- The length of a value. -/
  valueSize : Nat
  /-- Each bucket's words. -/
  words : Directory WordColumn
  /-- Each bucket's records. -/
  records : Directory Column
  deriving DecidableEq

namespace HashSeparated

/-- The bytes that a directory of word columns takes for each bucket. -/
def wordEntryBytes : Nat := 24

/-- The bytes that a directory of element columns takes for each bucket. -/
def recordEntryBytes : Nat := 40

/-- The length of a record. -/
def recordSize (store : HashSeparated) : Except Crash Nat :=
  addSizes store.keySize store.valueSize

/-- The record of a slot. -/
def recordAt (store : HashSeparated) (slot : Slot) : Except Crash Bytes := do
  (← store.records.chain slot.bucket).element slot.item

/-- The lengths of keys and values. -/
def sizes : Action HashSeparated (Nat × Nat) :=
  Action.read fun store => .ok (store.keySize, store.valueSize)

/-- Run an action on the words. -/
def onWords {α : Type} (act : Action (Directory WordColumn) α) : Action HashSeparated α :=
  Action.within (fun ⟨keySize, valueSize, words, records⟩ =>
    (words, fun words' => ⟨keySize, valueSize, words', records⟩)) act

/-- Run an action on the records. -/
def onRecords {α : Type} (act : Action (Directory Column) α) : Action HashSeparated α :=
  Action.within (fun ⟨keySize, valueSize, words, records⟩ =>
    (records, fun records' => ⟨keySize, valueSize, words, records'⟩)) act

/-- Write a field of a slot's record: `width` bytes from `offset` on. -/
def writeField (slot : Slot) (offset width : Nat) (data : Bytes) : Action HashSeparated Unit :=
  onRecords (Directory.onChain slot.bucket (Column.writeField slot.item offset width data))

/-- Replace the word of a slot. -/
def setWord (slot : Slot) (word : SlotWord) : Action HashSeparated Unit :=
  onWords (Directory.onChain slot.bucket (WordColumn.setWord slot.item word))

/-- Replace the value of a slot. -/
def setValue (slot : Slot) (value : Bytes) : Action HashSeparated Unit := do
  let (keySize, valueSize) ← sizes
  writeField slot keySize valueSize value

/-- Give a slot a new word and key and a zeroed value. -/
def overwrite (slot : Slot) (word : SlotWord) (key : Bytes) : Action HashSeparated Unit := do
  let (keySize, valueSize) ← sizes
  setWord slot word
  writeField slot 0 keySize key
  writeField slot keySize valueSize (Bytes.zeroes valueSize)

/-- Check that the two chains of a bucket have the same length. -/
def checkParallel (bucket : Nat) (store : HashSeparated) : Except Crash Unit := do
  if (← store.words.chain bucket).size = (← store.records.chain bucket).size then return ()
  else throw .columnsDiffer

/-- Add a slot to a bucket.  The memory for both chains is reserved before either grows. -/
def append (memory : Memory) (bucket : Nat) (word : SlotWord) (key : Bytes) :
    Action HashSeparated Nat := do
  let size ← Action.read recordSize
  let recordLimit := memory.limit (.chain .records bucket)
  onRecords (Directory.openChain bucket (Column.create recordLimit size 1))
  onWords do
    Directory.openChain bucket (.ok #[])
    Directory.onChain bucket (WordColumn.reserveOne (memory.limit (.chain .words bucket)))
  let item ← onRecords (Directory.onChain bucket (Column.append recordLimit none))
  onWords (Directory.onChain bucket (Action.modify (Array.push · word)))
  Action.read (checkParallel bucket)
  let (keySize, _) ← sizes
  writeField ⟨bucket, item⟩ 0 keySize key
  return item

instance : Layout HashSeparated where
  create memory keySize valueSize bucketCount := do
    let words ← Directory.create (memory.limit (.directory .words)) wordEntryBytes bucketCount
    let records ←
      Directory.create (memory.limit (.directory .records)) recordEntryBytes bucketCount
    return ⟨keySize, valueSize, words, records⟩
  bucketCount store := store.words.size
  bucketLength store bucket := return (← store.words.chain? bucket).elim 0 Array.size
  wordAt store slot := do (← store.words.chain slot.bucket).word slot.item
  keyAt store slot := return (← store.recordAt slot).take store.keySize
  valueAt store slot := return (← store.recordAt slot).drop store.keySize
  setWord := setWord
  setValue := setValue
  overwrite := overwrite
  append := append
  redistribute? := none

instance : Describe HashSeparated :=
  ⟨fun store => Description.record "HashSeparatedStore"
    [("key_size", describe store.keySize), ("value_size", describe store.valueSize),
      ("hashes", describe store.words), ("records", describe store.records)]⟩

end HashSeparated

end ByteTable
