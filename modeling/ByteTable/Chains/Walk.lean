import ByteTable.Layout

/-!
# Walks over a layout

How the slots of a layout are searched and walked.  A bucket is searched from its first slot on:
`probe` for a key, `firstTombstone?` for a slot to use again.  The live slots of the whole table
are walked bucket by bucket, forward by `scanForward` and backward by `scanBackward`.

A forward scan starts on a slot and may meet it.  A backward scan starts just above a slot, that
is with the number of slots still to be looked at in its bucket, and never meets the slot itself.
-/

namespace ByteTable

namespace Layout

variable {L : Type} [Layout L]

/-- Whether a slot is live. -/
def isLive (layout : L) (slot : Slot) : Except Crash Bool :=
  return !(← wordAt layout slot).isTombstone

/-- Whether a slot belongs to a key with this hash: its word agrees with the hash, and its key is
the same under the policy.  The keys are compared only if the word agrees. -/
def holds (layout : L) (policy : Policy) (hash : UInt64) (key : Bytes) (slot : Slot) :
    Except Crash Bool := do
  if (← wordAt layout slot).agrees hash then
    return policy.keysEqual key (← keyAt layout slot)
  else return false

/-- The first item of a bucket that belongs to a key. -/
def probe (layout : L) (policy : Policy) (bucket : Nat) (hash : UInt64) (key : Bytes) :
    Except Crash (Option Nat) := do
  (List.range (← bucketLength layout bucket)).findM? fun item =>
    holds layout policy hash key ⟨bucket, item⟩

/-- The first tombstone of a bucket. -/
def firstTombstone? (layout : L) (bucket : Nat) : Except Crash (Option Nat) := do
  (List.range (← bucketLength layout bucket)).findM? fun item =>
    return !(← isLive layout ⟨bucket, item⟩)

/-- The first live item of a bucket from an item on. -/
def firstLiveFrom? (layout : L) (bucket item : Nat) : Except Crash (Option Nat) := do
  (List.range' item ((← bucketLength layout bucket) - item)).findM? fun item =>
    isLive layout ⟨bucket, item⟩

/-- The last live item of a bucket below an item. -/
def lastLiveBelow? (layout : L) (bucket : Nat) : Nat → Except Crash (Option Nat)
  | 0 => return none
  | item + 1 => do
    if ← isLive layout ⟨bucket, item⟩ then return some item
    else lastLiveBelow? layout bucket item

/-- The first live slot from an item of a bucket on, then in the buckets above. -/
def scanForward (layout : L) (bucket item : Nat) : Except Crash Cursor := do
  if bucket < bucketCount layout then
    match ← firstLiveFrom? layout bucket item with
    | some found => return .on ⟨bucket, found⟩
    | none => scanForward layout (bucket + 1) 0
  else return .exhausted
termination_by bucketCount layout - bucket

/-- The last live slot below an item of a bucket, then in the buckets below. -/
def scanBackward (layout : L) : (bucket item : Nat) → Except Crash Cursor
  | 0, item => do
    match ← lastLiveBelow? layout 0 item with
    | some found => return .on ⟨0, found⟩
    | none => return .exhausted
  | bucket + 1, item => do
    match ← lastLiveBelow? layout (bucket + 1) item with
    | some found => return .on ⟨bucket + 1, found⟩
    | none => scanBackward layout bucket (← bucketLength layout bucket)

/-- The live items of a bucket. -/
def liveItems (layout : L) (bucket : Nat) : Except Crash (List Slot) := do
  let slots := (List.range (← bucketLength layout bucket)).map (Slot.mk bucket)
  slots.filterM (isLive layout)

/-- All live slots, bucket by bucket. -/
def liveSlots (layout : L) : Except Crash (List Slot) :=
  return (← (List.range (bucketCount layout)).mapM (liveItems layout)).flatten

/-- The number of slots, tombstones included. -/
def slotCount (layout : L) : Nat :=
  (List.range (bucketCount layout)).foldl (fun count bucket =>
    match bucketLength layout bucket with
    | .ok length => count + length
    | .error _ => count) 0

end Layout

end ByteTable
