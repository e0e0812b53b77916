import ByteTable.Chains.Walk
import ByteTable.Storage

/-!
# Separate chaining

The storage that the library is about: each bucket is a chain of slots, a key lives in the bucket
that its hash selects, and a chain is searched from its first slot on.  The algorithm is written
once, over any `Layout`.

Slots never move.  Removing a key turns its slot into a tombstone, and a key that comes new into a
bucket takes the bucket's first tombstone before the chain is made longer.  A slot therefore keeps
its coordinates until the next rehash, which drops the tombstones.

The operations by key probe once and then work on the slot directly, instead of going through the
operations by slot as the defaults of `KeyedStorage` do.
-/

namespace ByteTable

/-- The chains of all buckets, and the number of live slots in them. -/
structure Chains (L : Type) where
  /-- Where the slots are kept. -/
  layout : L
  /-- The number of live slots. -/
  size : Nat
  deriving DecidableEq

namespace Chains

variable {L : Type} [Layout L]

/-- Run an action on the layout. -/
def onLayout {α : Type} (act : Action L α) : Action (Chains L) α :=
  Action.within (fun ⟨layout, size⟩ => (layout, fun layout' => ⟨layout', size⟩)) act

/-- Empty chains, at least one. -/
def create (memory : Memory) (keySize valueSize bucketCount : Nat) :
    Except TableError (Chains L) := do
  if bucketCount < 1 then throw (.invalidBucketCount bucketCount)
  return ⟨← Layout.create memory keySize valueSize bucketCount, 0⟩

/-- The bucket that a hash selects. -/
def bucketOf (chains : Chains L) (hash : UInt64) : Except Crash Nat :=
  Policy.bucketOf hash (Layout.bucketCount chains.layout)

/-- Whether a slot exists, live or not. -/
def contains (chains : Chains L) (slot : Slot) : Except Crash Bool := do
  if slot.bucket < Layout.bucketCount chains.layout then
    return slot.item < (← Layout.bucketLength chains.layout slot.bucket)
  else return false

/-- The word of a slot, if the slot exists and is live. -/
def liveWord? (chains : Chains L) (slot : Slot) : Except Crash (Option SlotWord) := do
  if ← chains.contains slot then
    let word ← Layout.wordAt chains.layout slot
    return if word.isTombstone then none else some word
  else return none

/-! ## Counting -/

/-- Count one more live slot. -/
def countUp : Action (Chains L) Unit := do
  let size ← addSizes (← Action.read fun chains => .ok chains.size) 1
  Action.modify fun chains => { chains with size }

/-- Count one live slot less. -/
def countDown : Action (Chains L) Unit := do
  match ← Action.read fun chains => .ok chains.size with
  | 0 => Action.crash .overflow
  | size + 1 => Action.modify fun chains => { chains with size }

/-! ## Finding and making slots -/

/-- Where a key is: the bucket that its hash selects, and its item there if it has one. -/
def search (chains : Chains L) (policy : Policy) (key : Bytes) :
    Except Crash (Nat × Option Nat) := do
  let hash := policy.hash key
  let bucket ← chains.bucketOf hash
  return (bucket, ← Layout.probe chains.layout policy bucket hash key)

/-- The slot of a key. -/
def locate (chains : Chains L) (policy : Policy) (key : Bytes) : Except Crash (Option Slot) := do
  let (bucket, item?) ← chains.search policy key
  return item?.map (Slot.mk bucket)

/-- Make a slot for a key that its bucket does not hold: the first tombstone, or else a new slot at
the end of the chain. -/
def place (memory : Memory) (bucket : Nat) (hash : UInt64) (key : Bytes) :
    Action (Chains L) Nat := do
  let word := SlotWord.live hash
  let item ← match ← Action.read fun chains => Layout.firstTombstone? chains.layout bucket with
    | some item => do
      onLayout (Layout.overwrite ⟨bucket, item⟩ word key)
      pure item
    | none => onLayout (Layout.append memory bucket word key)
  countUp
  return item

/-- The slot of a key, made for it if it has none. -/
def reserve (memory : Memory) (policy : Policy) (key : Bytes) :
    Action (Chains L) Reservation := do
  let (bucket, item?) ← Action.read (search · policy key)
  match item? with
  | some item => return ⟨⟨bucket, item⟩, false⟩
  | none => return ⟨⟨bucket, ← place memory bucket (policy.hash key) key⟩, true⟩

/-! ## Working on a slot -/

/-- Write the value of a live slot and mark it written; log if the slot is not live. -/
def assign (slot : Slot) (value : Bytes) : Action (Chains L) Unit := do
  match ← Action.read (liveWord? · slot) with
  | some word =>
    onLayout (Layout.setWord slot word.markWritten)
    onLayout (Layout.setValue slot value)
  | none => Action.note (.nothingToWrite slot)

/-- Turn a live slot into a tombstone; log if the slot is not live. -/
def discard (slot : Slot) : Action (Chains L) Unit := do
  match ← Action.read (liveWord? · slot) with
  | some word =>
    onLayout (Layout.setWord slot word.tombstoned)
    countDown
  | none => Action.note (.nothingToRemove slot)

/-- The next live slot from a cursor.  From an anchor only the way inward leads anywhere. -/
def step (chains : Chains L) : Cursor → Direction → Except Crash Cursor
  | .head, .next => Layout.scanForward chains.layout 0 0
  | .tail, .previous =>
    match Layout.bucketCount chains.layout with
    | 0 => throw .overflow
    | last + 1 => do
      Layout.scanBackward chains.layout last (← Layout.bucketLength chains.layout last)
  | .on slot, .next => do Layout.scanForward chains.layout slot.bucket (← addSizes slot.item 1)
  | .on slot, .previous => Layout.scanBackward chains.layout slot.bucket slot.item
  | _, _ => return .exhausted

instance : SlotStorage (Chains L) where
  create := create
  size := size
  bucketCount chains := Layout.bucketCount chains.layout
  isWritten chains slot := return (← chains.liveWord? slot).any SlotWord.isWritten
  locate := locate
  reserve := reserve
  keyAt chains slot := do
    match ← chains.liveWord? slot with
    | some _ => return some (← Layout.keyAt chains.layout slot)
    | none => return none
  valueAt chains slot := do
    match ← chains.liveWord? slot with
    | some _ => return some (← Layout.valueAt chains.layout slot)
    | none => return none
  assign := assign
  discard := discard
  step := step
  extent chains := Layout.slotCount chains.layout

/-! ## Working on a key -/

/-- The value of a key. -/
def get? (chains : Chains L) (policy : Policy) (key : Bytes) : Except Crash (Option Bytes) := do
  match ← chains.locate policy key with
  | none => return none
  | some slot =>
    if (← Layout.wordAt chains.layout slot).isWritten then
      return some (← Layout.valueAt chains.layout slot)
    else return none

/-- Set the value of a key, in its slot or in one made for it. -/
def insert (memory : Memory) (policy : Policy) (key value : Bytes) :
    Action (Chains L) Unit := do
  let (bucket, item?) ← Action.read (search · policy key)
  let item ← match item? with
    | some item => pure item
    | none => place memory bucket (policy.hash key) key
  let slot : Slot := ⟨bucket, item⟩
  let word ← Action.read fun chains => Layout.wordAt chains.layout slot
  onLayout (Layout.setWord slot word.markWritten)
  onLayout (Layout.setValue slot value)

/-- Remove a key. -/
def erase (policy : Policy) (key : Bytes) : Action (Chains L) Unit := do
  match ← Action.read (locate · policy key) with
  | none => return ()
  | some slot =>
    let word ← Action.read fun chains => Layout.wordAt chains.layout slot
    onLayout (Layout.setWord slot word.tombstoned)
    countDown

/-- The keys of all live slots. -/
def keys (chains : Chains L) : Except Crash (List Bytes) := do
  (← Layout.liveSlots chains.layout).mapM (Layout.keyAt chains.layout)

/-- The values of all live slots. -/
def values (chains : Chains L) : Except Crash (List Bytes) := do
  (← Layout.liveSlots chains.layout).mapM (Layout.valueAt chains.layout)

instance : KeyedStorage (Chains L) where
  get? := get?
  insert := insert
  erase := erase
  keys := keys
  values := values

/-! ## Changing the number of buckets -/

/-- Redistribute the live slots: in place if the layout can, by a rebuild otherwise. -/
def rehash (memory : Memory) (policy : Policy) (bucketCount : Nat) : Action (Chains L) Unit := do
  if bucketCount < 1 then Action.raise (.invalidBucketCount bucketCount)
  match (Layout.redistribute? : Option (Memory → Policy → Nat → Action L Unit)) with
  | some redistribute =>
    Action.andNote (onLayout (redistribute memory policy bucketCount)) (.movedInPlace bucketCount)
  | none =>
    Action.note (.rebuilding bucketCount)
    KeyedStorage.rehashByRebuild memory policy bucketCount

instance : Storage (Chains L) where
  rehash := rehash

/-- The buckets, each with all its slots. -/
def contents (chains : Chains L) : Except Crash (List (List SlotRecord)) :=
  Layout.contents chains.layout

instance [Describe L] : Describe (Chains L) :=
  ⟨fun chains => Description.record "Chained"
    [("store", describe chains.layout), ("count", describe chains.size)]⟩

end Chains

end ByteTable
