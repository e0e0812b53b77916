import ByteTable.Storage

/-!
# Bare storage

A storage stripped to its operations by slot.  `Bare β` keeps its slots in a `β` and forwards the
operations of `SlotStorage` to it; whatever goes by key, and rehashing, is left to the defaults.
It is what the defaults are measured against: a storage with faster ways of its own must answer as
its bare form does.
-/

namespace ByteTable

/-- A storage of which only the operations by slot are used. -/
structure Bare (β : Type) where
  /-- The storage. -/
  inner : β
  deriving DecidableEq

namespace Bare

variable {β : Type}

/-- Run an action on the storage inside. -/
def onInner {α : Type} (act : Action β α) : Action (Bare β) α :=
  Action.within (fun ⟨inner⟩ => (inner, Bare.mk)) act

instance [SlotStorage β] : SlotStorage (Bare β) where
  create memory keySize valueSize bucketCount :=
    return ⟨← SlotStorage.create memory keySize valueSize bucketCount⟩
  size bare := SlotStorage.size bare.inner
  bucketCount bare := SlotStorage.bucketCount bare.inner
  isWritten bare := SlotStorage.isWritten bare.inner
  locate bare := SlotStorage.locate bare.inner
  reserve memory policy key := onInner (SlotStorage.reserve memory policy key)
  keyAt bare := SlotStorage.keyAt bare.inner
  valueAt bare := SlotStorage.valueAt bare.inner
  assign slot value := onInner (SlotStorage.assign slot value)
  discard slot := onInner (SlotStorage.discard slot)
  step bare := SlotStorage.step bare.inner
  extent bare := SlotStorage.extent bare.inner

instance [SlotStorage β] : KeyedStorage (Bare β) where

instance [SlotStorage β] : Storage (Bare β) where

end Bare

end ByteTable
