import ByteTable.Action
import ByteTable.Memory
import ByteTable.Policy
import ByteTable.Slot.Word

/-!
# Layouts

A layout is a way to keep the slots of a table in memory.  A slot consists of its word, its key
and its value; what the layouts differ in is which of these lie side by side.

`Layout` is the interface that the chaining algorithm works with.  Whatever the layout, a bucket
is a list of slots that grows at its end only, `append` adds a slot with a zeroed value, and
`overwrite` gives an existing slot a new word and key and a zeroed value.  Reading or writing a
slot that does not exist is a crash.

`contents` is the view that all layouts share: the list of buckets, each the list of its slots.
-/

namespace ByteTable

/-- What a slot holds. -/
structure SlotRecord where
  /-- The truncated hash and state. -/
  word : SlotWord
  /-- The key. -/
  key : Bytes
  /-- The value. -/
  value : Bytes
  deriving DecidableEq

/-- A way to keep the slots of a table in memory. -/
class Layout (L : Type) where
  /-- The layout of a table of empty buckets. -/
  create : Memory → (keySize valueSize bucketCount : Nat) → Except TableError L
  /-- The number of buckets. -/
  bucketCount : L → Nat
  /-- The number of slots of a bucket, tombstones included. -/
  bucketLength : L → Nat → Except Crash Nat
  /-- The word of a slot. -/
  wordAt : L → Slot → Except Crash SlotWord
  /-- The key of a slot. -/
  keyAt : L → Slot → Except Crash Bytes
  /-- The value of a slot. -/
  valueAt : L → Slot → Except Crash Bytes
  /-- Replace the word of a slot. -/
  setWord : Slot → SlotWord → Action L Unit
  /-- Replace the value of a slot. -/
  setValue : Slot → Bytes → Action L Unit
  /-- Give a slot a new word and key and a zeroed value. -/
  overwrite : Slot → SlotWord → Bytes → Action L Unit
  /-- Add a slot with a zeroed value to a bucket, and answer with its item. -/
  append : Memory → (bucket : Nat) → SlotWord → Bytes → Action L Nat
  /-- Move the live slots into another number of buckets without probing, if the layout can. -/
  redistribute? : Option (Memory → Policy → Nat → Action L Unit)

namespace Layout

variable {L : Type} [Layout L]

/-- What a slot holds, its three parts read in turn. -/
def recordAt (layout : L) (slot : Slot) : Except Crash SlotRecord :=
  return ⟨← wordAt layout slot, ← keyAt layout slot, ← valueAt layout slot⟩

/-- The slots of a bucket, tombstones included. -/
def bucketContents (layout : L) (bucket : Nat) : Except Crash (List SlotRecord) := do
  (List.range (← bucketLength layout bucket)).mapM fun item => recordAt layout ⟨bucket, item⟩

/-- All buckets, each with all its slots. -/
def contents (layout : L) : Except Crash (List (List SlotRecord)) :=
  (List.range (bucketCount layout)).mapM (bucketContents layout)

end Layout

end ByteTable
