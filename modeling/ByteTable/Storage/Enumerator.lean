import ByteTable.Slot.Handle
import ByteTable.Storage.Slots

/-!
# Enumerators

An enumerator is a cursor over the live slots of a storage that shows the key, or the value, of the
slot it stands on.  It can be moved one slot forward or backward and sent to either end.  Once it
has run past an end it stays exhausted until it is sent to an end again.

`collect` walks to the far end and gathers what it meets.  Such a walk cannot meet more slots than
the storage's `extent`, which bounds the recursion.
-/

namespace ByteTable

/-- What an enumerator shows of each slot. -/
inductive ElementKind where
  | key
  | value
  deriving DecidableEq

instance : Describe ElementKind :=
  ⟨fun
    | .key => "Key"
    | .value => "Value"⟩

/-- The moves of an enumerator. -/
inductive Move where
  /-- To the first slot. -/
  | head
  /-- To the last slot. -/
  | tail
  /-- One slot forward. -/
  | next
  /-- One slot backward. -/
  | previous
  /-- Stay. -/
  | stay
  deriving DecidableEq

/-- A cursor over the keys or values of a storage. -/
structure Enumerator (β : Type) where
  /-- The storage. -/
  storage : β
  /-- What is shown of each slot. -/
  kind : ElementKind
  /-- The place in the walk. -/
  cursor : Cursor

namespace Enumerator

variable {β : Type} [SlotStorage β]

/-- An enumerator on the first live slot. -/
def start (storage : β) (kind : ElementKind) : Except Crash (Enumerator β) :=
  return ⟨storage, kind, ← SlotStorage.step storage .head .next⟩

/-- The slot that the enumerator stands on. -/
def slot? (e : Enumerator β) : Option Slot :=
  e.cursor.slot?

/-- What the enumerator shows; nothing once it is exhausted. -/
def current (e : Enumerator β) : Except Crash (Option Bytes) :=
  match e.slot?, e.kind with
  | none, _ => return none
  | some slot, .key => SlotStorage.keyAt e.storage slot
  | some slot, .value => SlotStorage.valueAt e.storage slot

/-- The handle of the slot that the enumerator stands on. -/
def handle {σ : Type} (e : Enumerator β) : Action σ (Option Handle) :=
  match e.slot? with
  | none => return none
  | some slot => Handle.pack (SlotStorage.bucketCount e.storage) slot

/-- Where a move leads from a cursor. -/
def target (storage : β) (cursor : Cursor) : Move → Except Crash Cursor
  | .head => SlotStorage.step storage .head .next
  | .tail => SlotStorage.step storage .tail .previous
  | .next => SlotStorage.step storage cursor .next
  | .previous => SlotStorage.step storage cursor .previous
  | .stay => return cursor

/-- Move, and answer with what the enumerator then shows. -/
def perform (e : Enumerator β) (move : Move) : Except Crash (Enumerator β × Option Bytes) := do
  let moved := { e with cursor := ← target e.storage e.cursor move }
  return (moved, ← moved.current)

/-- What the enumerator shows now and, moving forward, up to the end; at most `fuel` elements. -/
def collectUpTo (e : Enumerator β) : Nat → Option Bytes → Except Crash (List Bytes)
  | fuel + 1, some element => do
    let (moved, element?) ← e.perform .next
    return element :: (← moved.collectUpTo fuel element?)
  | _, _ => return []

/-- Every element from the current one to the last. -/
def collect (e : Enumerator β) : Except Crash (List Bytes) := do
  e.collectUpTo (SlotStorage.extent e.storage + 1) (← e.current)

instance : Describe (Enumerator β) :=
  ⟨fun e => Description.record "Enumerator"
    [("kind", describe e.kind), ("cursor", describe e.cursor)]⟩

end Enumerator

end ByteTable
