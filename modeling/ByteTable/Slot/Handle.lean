import ByteTable.Action
import ByteTable.Slot

/-!
# Handles

A handle is a nonzero 64-bit number that stands for a slot.  In a table of `n` buckets its low
field holds the bucket plus one and the bits above hold the item.  The field is as wide as the
number `n + 1`, so that `bucket + 1` always fits it and is never zero, which leaves the number 0
free to mean "no handle".

The width depends on the bucket count.  A handle is therefore read with the bucket count of the
moment, and one from before a rehash reads as some other slot, without any error.

`pack` makes a handle and `unpack` reads one.  A slot whose item does not fit above the field has
no handle, which is logged.
-/

namespace ByteTable

/-- A nonzero 64-bit number that stands for a slot. -/
structure Handle where
  /-- The number. -/
  raw : UInt64
  /-- It is not zero. -/
  raw_ne_zero : raw ≠ 0
  deriving DecidableEq

namespace Handle

/-- The handle of a number, if it is not zero. -/
def ofRaw? (raw : UInt64) : Option Handle :=
  if h : raw = 0 then none else some ⟨raw, h⟩

/-- How many bits a number has. -/
def bitLength (n : Nat) : Nat :=
  if n = 0 then 0 else Nat.log2 n + 1

/-- The width of the bucket field in a table of `bucketCount` buckets. -/
def fieldWidth (bucketCount : Nat) : Except Crash Nat :=
  return bitLength (← addSizes bucketCount 1)

/-- The handle of a slot in a table of `bucketCount` buckets, or none, with a warning, when the item
does not fit in the bits above the bucket field. -/
def pack {σ : Type} (bucketCount : Nat) (slot : Slot) : Action σ (Option Handle) := do
  let width ← fieldWidth bucketCount
  if slot.item < 1 <<< (64 - width) then
    let low ← addSizes slot.bucket 1
    return ofRaw? (UInt64.ofNat (slot.item <<< width ||| low))
  else
    Action.note (.unaddressable bucketCount slot)
    return none

/-- The slot that a handle stands for in a table of `bucketCount` buckets.  A handle whose bucket
field is zero stands for the bucket `2 ^ 64 - 1`, which no table has. -/
def unpack (bucketCount : Nat) (handle : Handle) : Except Crash Slot := do
  let width ← fieldWidth bucketCount
  let low := handle.raw.toNat % (1 <<< width)
  return ⟨if low = 0 then wordLimit - 1 else low - 1, handle.raw.toNat >>> width⟩

end Handle

end ByteTable
