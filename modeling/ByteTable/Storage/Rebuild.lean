import ByteTable.Storage.Keyed

/-!
# Rebuilding a storage

A storage can be given another number of buckets by making a new one and inserting every live slot
of the old.  Two enumerators walk the old storage in step, one over the keys and one over the
values; a slot whose value was written is inserted with it, any other is only reserved.

At the end the new storage must have as many live slots as the old one.  The check fails when the
policy takes two stored keys for the same, and so merges their slots.
-/

namespace ByteTable

namespace KeyedStorage

variable {β σ : Type} [KeyedStorage β]

/-- Put into a new storage what two enumerators in step show from here to the end, at most `fuel`
slots.  `key?` is the key that the first one shows. -/
def reinsert (memory : Memory) (policy : Policy) (old : β) :
    Nat → (keys values : Enumerator β) → (key? : Option Bytes) → Action β Unit
  | fuel + 1, keys, values, some key => do
    let written ← match keys.slot? with
      | some slot => SlotStorage.isWritten old slot
      | none => pure false
    match ← values.current, written with
    | some value, true => insert memory policy key value
    | _, _ =>
      let _ ← SlotStorage.reserve memory policy key
    let (keys', key?') ← keys.perform .next
    let (values', _) ← values.perform .next
    reinsert memory policy old fuel keys' values' key?'
  | _, _, _, _ => return ()

/-- A storage of `bucketCount` buckets with the same live slots as an old one. -/
def rebuild (memory : Memory) (old : β) (policy : Policy) (bucketCount : Nat) : Action σ β := do
  let fresh : β ← SlotStorage.create memory policy.keySize policy.valueSize bucketCount
  let keys ← Enumerator.start old .key
  let values ← Enumerator.start old .value
  let key? ← keys.current
  let (_, filled) ← Action.apart fresh <|
    reinsert memory policy old (SlotStorage.extent old + 1) keys values key?
  if SlotStorage.size filled = SlotStorage.size old then return filled
  else Action.crash .liveCountChanged

/-- Replace a storage by its rebuilt form. -/
def rehashByRebuild (memory : Memory) (policy : Policy) (bucketCount : Nat) : Action β Unit := do
  Action.replace (← rebuild memory (← Action.current) policy bucketCount)

end KeyedStorage

end ByteTable
