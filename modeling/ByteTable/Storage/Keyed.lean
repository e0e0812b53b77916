import ByteTable.Storage.Enumerator

/-!
# Storage by keys

The operations on a storage that go by key, and the lists of all keys and values.  Each has a
default that is composed of the operations by slot; a storage that has a faster way brings its own.
-/

namespace ByteTable

namespace SlotStorage

variable {β : Type} [SlotStorage β]

/-- The value of a key: that of its slot, if it has one whose value was written. -/
def valueOfLocated (storage : β) (policy : Policy) (key : Bytes) :
    Except Crash (Option Bytes) := do
  match ← locate storage policy key with
  | none => return none
  | some slot => if ← isWritten storage slot then valueAt storage slot else return none

/-- Set the value of a key: reserve its slot, then write the value. -/
def assignReserved (memory : Memory) (policy : Policy) (key value : Bytes) : Action β Unit := do
  let reservation ← reserve memory policy key
  assign reservation.slot value

/-- Remove a key: discard its slot, if it has one. -/
def discardLocated (policy : Policy) (key : Bytes) : Action β Unit := do
  match ← Action.read (locate · policy key) with
  | none => return ()
  | some slot => discard slot

/-- The keys or values of all live slots, gathered by an enumerator. -/
def enumerate (storage : β) (kind : ElementKind) : Except Crash (List Bytes) := do
  (← Enumerator.start storage kind).collect

end SlotStorage

/-- A storage with operations by key. -/
class KeyedStorage (β : Type) extends SlotStorage β where
  /-- The value of a key; none if the key is absent or only reserved. -/
  get? : β → Policy → Bytes → Except Crash (Option Bytes) := SlotStorage.valueOfLocated
  /-- Set the value of a key. -/
  insert : Memory → Policy → (key value : Bytes) → Action β Unit := SlotStorage.assignReserved
  /-- Remove a key; an absent key is left absent. -/
  erase : Policy → Bytes → Action β Unit := SlotStorage.discardLocated
  /-- The keys of all live slots. -/
  keys : β → Except Crash (List Bytes) := (SlotStorage.enumerate · .key)
  /-- The values of all live slots, in the order of `keys`. -/
  values : β → Except Crash (List Bytes) := (SlotStorage.enumerate · .value)

end ByteTable
