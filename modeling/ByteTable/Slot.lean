import ByteTable.Description

/-!
# Slots and cursors

A slot is named by its coordinates: the bucket, and its place in the bucket's chain.  Nothing
bounds the coordinates, so a `Slot` may lie outside every table; whether it exists is a question
to a table.

A `Cursor` is a place in the walk over the live slots.  Besides the slots themselves there are
the two anchors before the first and after the last slot, and the state of having run past an
end.
-/

namespace ByteTable

/-- The coordinates of a slot. -/
structure Slot where
  /-- The bucket. -/
  bucket : Nat
  /-- The place in the bucket's chain. -/
  item : Nat
  deriving DecidableEq

/-- A place in the walk over the live slots. -/
inductive Cursor where
  /-- Before the first slot. -/
  | head
  /-- After the last slot. -/
  | tail
  /-- On a slot. -/
  | on (slot : Slot)
  /-- Past an end; only a return to an anchor leads out. -/
  | exhausted
  deriving DecidableEq

/-- The two ways to walk. -/
inductive Direction where
  | next
  | previous
  deriving DecidableEq

/-- The slot a cursor stands on, if any. -/
def Cursor.slot? : Cursor → Option Slot
  | .on slot => some slot
  | _ => none

instance : Describe Slot :=
  ⟨fun slot => Description.record "SlotIndex"
    [("bucket", describe slot.bucket), ("item", describe slot.item)]⟩

instance : Describe Cursor :=
  ⟨fun
    | .head => "Head"
    | .tail => "Tail"
    | .on slot => Description.wrap "At" (describe slot)
    | .exhausted => "Exhausted"⟩

end ByteTable
