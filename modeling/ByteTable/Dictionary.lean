import ByteTable.Dictionary.Sizes
import ByteTable.Table

/-!
# Dictionaries

A dictionary is a table that looks after its own size.  Before a key is set or reserved, and
whether or not the key is new, the table grows by one step if its load factor has reached the
threshold.  All other operations are the table's.

Growing rehashes the table, so a handle from before does not serve after `insert` or `reserve`.
The handle that `reserve` itself answers with is made after the growth.
-/

namespace ByteTable

/-- A table that grows by itself. -/
structure Dictionary (β : Type) where
  /-- The table. -/
  table : Table β

namespace Dictionary

variable {β σ : Type} [Storage β]

/-- An empty dictionary of a size that fits the hint. -/
def create (memory : Memory) (policy : Policy) (hint : SizeHint) : Action σ (Dictionary β) :=
  return ⟨← Table.create memory policy hint.bucketCount⟩

/-- Run an action on the table. -/
def onTable {α : Type} (act : Action (Table β) α) : Action (Dictionary β) α :=
  Action.within (fun ⟨table⟩ => (table, Dictionary.mk)) act

/-- Grow the table by one step if its load factor has reached the threshold. -/
def growIfNeeded (memory : Memory) : Action (Table β) Unit := do
  let load ← Action.read fun table => .ok table.loadFactor
  if load.lt Growth.threshold then return ()
  let bucketCount ← Action.read fun table => .ok table.bucketCount
  let next := Growth.next bucketCount
  if next = bucketCount then
    Action.note (.noLargerSize bucketCount)
  else
    Action.note (.growing load bucketCount next)
    Table.rehash memory next

/-- The handle of a key's slot, made for it if it has none, and whether it was. -/
def reserve (memory : Memory) (key : Bytes) : Action (Dictionary β) (Option Handle × Bool) :=
  onTable do
    growIfNeeded memory
    Table.reserve memory key

/-- Set the value of a key. -/
def insert (memory : Memory) (key value : Bytes) : Action (Dictionary β) Unit :=
  onTable do
    growIfNeeded memory
    Table.insert memory key value

/-! ## The table's operations -/

/-- The number of live keys, those without a value included. -/
def size (dictionary : Dictionary β) : Nat :=
  dictionary.table.size

/-- Whether there is no live key. -/
def isEmpty (dictionary : Dictionary β) : Bool :=
  dictionary.table.isEmpty

/-- The handle of a key's slot; none if the key is absent, or if its slot has no handle. -/
def find? (key : Bytes) : Action (Dictionary β) (Option Handle) :=
  onTable (Table.find? key)

/-- Whether a handle stands for a live slot whose value was written. -/
def isWritten (dictionary : Dictionary β) (handle : Handle) : Except Crash Bool :=
  dictionary.table.isWritten handle

/-- The key of the slot that a handle stands for, if it is live. -/
def keyOf? (dictionary : Dictionary β) (handle : Handle) : Except Crash (Option Bytes) :=
  dictionary.table.keyOf? handle

/-- The value of the slot that a handle stands for, if it is live and its value was written. -/
def valueOf? (dictionary : Dictionary β) (handle : Handle) : Except Crash (Option Bytes) :=
  dictionary.table.valueOf? handle

/-- Write the value of the slot that a handle stands for. -/
def assign (handle : Handle) (value : Bytes) : Action (Dictionary β) Unit :=
  onTable (Table.assign handle value)

/-- Remove the key of the slot that a handle stands for. -/
def discard (handle : Handle) : Action (Dictionary β) Unit :=
  onTable (Table.discard handle)

/-- The value of a key; none if the key is absent or only reserved. -/
def get? (dictionary : Dictionary β) (key : Bytes) : Except Crash (Option Bytes) :=
  dictionary.table.get? key

/-- Remove a key; an absent key is left absent. -/
def erase (key : Bytes) : Action (Dictionary β) Unit :=
  onTable (Table.erase key)

/-- The keys of all live slots. -/
def keys (dictionary : Dictionary β) : Except Crash (List Bytes) :=
  dictionary.table.keys

/-- The values of all live slots, in the order of `keys`. -/
def values (dictionary : Dictionary β) : Except Crash (List Bytes) :=
  dictionary.table.values

/-- An enumerator over the keys or values, on the first live slot. -/
def enumerator (dictionary : Dictionary β) (kind : ElementKind) :
    Except Crash (Enumerator β) :=
  dictionary.table.enumerator kind

instance : Describe (Dictionary β) :=
  ⟨fun dictionary => Description.record "Dictionary" [("table", describe dictionary.table)]⟩

end Dictionary

end ByteTable
