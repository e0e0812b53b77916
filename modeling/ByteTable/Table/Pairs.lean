import ByteTable.Table

/-!
# Iterating over a table

An iterator over the pairs of key and value of a table.  It walks the live slots and passes over
those whose value was never written, so that a reserved key is not shown.

Each call of `next?` takes as many steps as it needs to reach the next pair.  All calls together
take no more steps than there are slots, and one to find out that there are no more, which is the
budget that the iterator carries.
-/

namespace ByteTable

/-- An iterator over the pairs of key and value of a storage. -/
structure Pairs (β : Type) where
  /-- The storage. -/
  storage : β
  /-- The place in the walk. -/
  cursor : Cursor
  /-- A bound on the steps that are left until the walk has ended. -/
  budget : Nat

namespace Pairs

variable {β : Type} [SlotStorage β]

/-- The pair of a slot, if its value was written. -/
def pairAt? (storage : β) (slot : Slot) : Except Crash (Option (Bytes × Bytes)) := do
  if ← SlotStorage.isWritten storage slot then
    match ← SlotStorage.keyAt storage slot, ← SlotStorage.valueAt storage slot with
    | some key, some value => return some (key, value)
    | _, _ => return none
  else return none

/-- The next pair from a cursor, within a budget of steps, with the cursor and the budget left. -/
def advance (storage : β) (cursor : Cursor) :
    (budget : Nat) → Except Crash (Cursor × Nat × Option (Bytes × Bytes))
  | 0 => return (cursor, 0, none)
  | budget + 1 => do
    let moved ← SlotStorage.step storage cursor .next
    match moved with
    | .on slot =>
      match ← pairAt? storage slot with
      | some pair => return (moved, budget, some pair)
      | none => advance storage moved budget
    | _ => return (moved, budget, none)

/-- The next pair, or none once all have been shown, and the iterator afterwards. -/
def next? (pairs : Pairs β) : Except Crash (Option (Bytes × Bytes) × Pairs β) := do
  let (cursor, budget, pair?) ← advance pairs.storage pairs.cursor pairs.budget
  return (pair?, ⟨pairs.storage, cursor, budget⟩)

/-- What the next `calls` calls show. -/
def take (pairs : Pairs β) : (calls : Nat) → Except Crash (List (Option (Bytes × Bytes)))
  | 0 => return []
  | calls + 1 => do
    let (pair?, rest) ← pairs.next?
    return pair? :: (← rest.take calls)

end Pairs

namespace Table

variable {β : Type} [Storage β]

/-- An iterator before the first pair. -/
def pairs (table : Table β) : Pairs β :=
  ⟨table.storage, .head, SlotStorage.extent table.storage + 1⟩

/-- All pairs of key and value, in the order of `keys`. -/
def toList (table : Table β) : Except Crash (List (Bytes × Bytes)) := do
  return (← table.pairs.take (SlotStorage.extent table.storage + 1)).filterMap id

end Table

end ByteTable
