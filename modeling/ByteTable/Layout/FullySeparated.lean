import ByteTable.Column
import ByteTable.Directory
import ByteTable.Layout
import ByteTable.WordColumn

/-!
# The layout with three chains

Three chains per bucket: the words, the keys and the values.  A walk over all keys, or over all
values, reads one dense array per bucket.

The three chains of a bucket have the same length.  `append` reserves memory in all of them before
any grows, so that a refusal leaves them in step; `checkParallel` is its final check.
-/

namespace ByteTable

/-- Slots kept as word, key and value in three chains. -/
structure FullySeparated where
  /-- The length of a key. -/
  keySize : Nat
  /-- The length of a value. -/
  valueSize : Nat
  /-- Each bucket's words. -/
  words : Directory WordColumn
  /-- Each bucket's keys. -/
  keys : Directory Column
  /-- Each bucket's values. -/
  values : Directory Column
  deriving DecidableEq

namespace FullySeparated

/-- The bytes that a directory of word columns takes for each bucket. -/
def wordEntryBytes : Nat := 24

/-- The bytes that a directory of element columns takes for each bucket. -/
def columnEntryBytes : Nat := 40

/-- The element of a slot in one of the directories of columns. -/
def elementAt (columns : Directory Column) (slot : Slot) : Except Crash Bytes := do
  (← columns.chain slot.bucket).element slot.item

/-- The lengths of keys and values. -/
def sizes : Action FullySeparated (Nat × Nat) :=
  Action.read fun store => .ok (store.keySize, store.valueSize)

/-- Run an action on the words. -/
def onWords {α : Type} (act : Action (Directory WordColumn) α) : Action FullySeparated α :=
  Action.within (fun ⟨keySize, valueSize, words, keys, values⟩ =>
    (words, fun words' => ⟨keySize, valueSize, words', keys, values⟩)) act

/-- Run an action on the keys. -/
def onKeys {α : Type} (act : Action (Directory Column) α) : Action FullySeparated α :=
  Action.within (fun ⟨keySize, valueSize, words, keys, values⟩ =>
    (keys, fun keys' => ⟨keySize, valueSize, words, keys', values⟩)) act

/-- Run an action on the values. -/
def onValues {α : Type} (act : Action (Directory Column) α) : Action FullySeparated α :=
  Action.within (fun ⟨keySize, valueSize, words, keys, values⟩ =>
    (values, fun values' => ⟨keySize, valueSize, words, keys, values'⟩)) act

/-- Replace the element of a slot, which must have the given length. -/
def writeElement (slot : Slot) (width : Nat) (data : Bytes) : Action (Directory Column) Unit :=
  Directory.onChain slot.bucket (Column.writeField slot.item 0 width data)

/-- Replace the word of a slot. -/
def setWord (slot : Slot) (word : SlotWord) : Action FullySeparated Unit :=
  onWords (Directory.onChain slot.bucket (WordColumn.setWord slot.item word))

/-- Replace the value of a slot. -/
def setValue (slot : Slot) (value : Bytes) : Action FullySeparated Unit := do
  let (_, valueSize) ← sizes
  onValues (writeElement slot valueSize value)

/-- Give a slot a new word and key and a zeroed value. -/
def overwrite (slot : Slot) (word : SlotWord) (key : Bytes) : Action FullySeparated Unit := do
  let (keySize, valueSize) ← sizes
  setWord slot word
  onKeys (writeElement slot keySize key)
  onValues (writeElement slot valueSize (Bytes.zeroes valueSize))

/-- Check that the three chains of a bucket have the same length. -/
def checkParallel (bucket : Nat) (store : FullySeparated) : Except Crash Unit := do
  let words := (← store.words.chain bucket).size
  let keys := (← store.keys.chain bucket).size
  let values := (← store.values.chain bucket).size
  if keys = values ∧ values = words then return () else throw .columnsDiffer

/-- Create a bucket's column if there is none and reserve memory for one more element. -/
def prepare (limit elementSize bucket : Nat) : Action (Directory Column) Unit := do
  Directory.openChain bucket (Column.create limit elementSize 1)
  Directory.onChain bucket (Column.reserve limit 1)

/-- Add a slot to a bucket.  The memory for all three chains is reserved before any grows. -/
def append (memory : Memory) (bucket : Nat) (word : SlotWord) (key : Bytes) :
    Action FullySeparated Nat := do
  let (keySize, valueSize) ← sizes
  let keyLimit := memory.limit (.chain .keys bucket)
  let valueLimit := memory.limit (.chain .values bucket)
  onWords do
    Directory.openChain bucket (.ok #[])
    Directory.onChain bucket (WordColumn.reserveOne (memory.limit (.chain .words bucket)))
  onKeys (prepare keyLimit keySize bucket)
  onValues (prepare valueLimit valueSize bucket)
  let item ← onKeys (Directory.onChain bucket (Column.append keyLimit (some key)))
  let _ ← onValues (Directory.onChain bucket (Column.append valueLimit none))
  onWords (Directory.onChain bucket (Action.modify (Array.push · word)))
  Action.read (checkParallel bucket)
  return item

instance : Layout FullySeparated where
  create memory keySize valueSize bucketCount := do
    let words ← Directory.create (memory.limit (.directory .words)) wordEntryBytes bucketCount
    let keys ← Directory.create (memory.limit (.directory .keys)) columnEntryBytes bucketCount
    let values ← Directory.create (memory.limit (.directory .values)) columnEntryBytes bucketCount
    return ⟨keySize, valueSize, words, keys, values⟩
  bucketCount store := store.words.size
  bucketLength store bucket := return (← store.words.chain? bucket).elim 0 Array.size
  wordAt store slot := do (← store.words.chain slot.bucket).word slot.item
  keyAt store slot := elementAt store.keys slot
  valueAt store slot := elementAt store.values slot
  setWord := setWord
  setValue := setValue
  overwrite := overwrite
  append := append
  redistribute? := none

instance : Describe FullySeparated :=
  ⟨fun store => Description.record "FullySeparatedStore"
    [("key_size", describe store.keySize), ("value_size", describe store.valueSize),
      ("hashes", describe store.words), ("keys", describe store.keys),
      ("values", describe store.values)]⟩

end FullySeparated

end ByteTable
