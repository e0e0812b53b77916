import ByteTable.Proofs.Slot.Handle
import ByteTable.Proofs.Storage
import ByteTable.Proofs.Table.Pairs

/-!
# Operations of a table

Everything that can be done with a table, as data: an `Operation` with its arguments, performed on a
table, gives a `Reply`.  A run of a table is then a list of operations.

The meaning of an operation is given on the buckets that the table shows: `Operation.fault?` is the
check that refuses it, `Operation.reply` is what it answers and `Operation.after` the buckets that
it leaves.  `Operation.run_perform` says that performing it does just that, and lists the other ways
in which it may end: memory is refused, or one of three crashes that depend on the sizes and the
keys.
-/

namespace ByteTable

/-! ## Walking with an enumerator -/

namespace Enumerator

variable {β σ : Type} [SlotStorage β]

/-- What an enumerator shows, and the handle of its slot, now and after each move. -/
def trail : Enumerator β → List Move → Action σ (List (Option Bytes × Option Handle))
  | e, [] => do return [(← e.current, ← e.handle)]
  | e, move :: moves => do
    let element? ← e.current
    let handle? ← e.handle
    let (moved, _) ← e.perform move
    return (element?, handle?) :: (← trail moved moves)

end Enumerator

namespace Buckets

/-- The handle of the slot that a cursor stands on. -/
def handleAt (bs : Buckets) (cursor : Cursor) : Option Handle :=
  cursor.slot?.bind (Handle.packed? bs.length)

/-- What is shown at a cursor and after each move from it. -/
def trail (bs : Buckets) (kind : ElementKind) (cursor : Cursor) :
    List Move → List (Option Bytes × Option Handle)
  | [] => [(bs.shown kind cursor, bs.handleAt cursor)]
  | move :: moves =>
    (bs.shown kind cursor, bs.handleAt cursor) :: bs.trail kind (bs.target cursor move) moves

end Buckets

namespace Enumerator

open LawfulSlotStorage

variable {β σ : Type} [SlotStorage β] [LawfulSlotStorage β] {storage : β}
  {keySize valueSize : Nat} {bs : Buckets} {cursor : Cursor}

/-- The handle of an enumerator's slot; none, with a warning, if the slot lies too deep. -/
theorem run_handle (h : Shows storage keySize valueSize bs) (kind : ElementKind)
    (hstanding : bs.Standing cursor) (s : σ) :
    ∃ log, (handle ⟨storage, kind, cursor⟩).run s = ⟨.ok (bs.handleAt cursor), s, log⟩ := by
  cases cursor with
  | head => exact ⟨[], rfl⟩
  | tail => exact ⟨[], rfl⟩
  | exhausted => exact ⟨[], rfl⟩
  | on slot =>
    obtain ⟨record, hrecord⟩ := Buckets.mem_liveSlots_iff.mp (hstanding slot rfl)
    have hbucket := Grid.bucket_lt_of_at? (Buckets.live?_eq_some_iff.mp hrecord).1
    rw [handle_eq rfl rfl, bucketCount_eq h,
      Handle.run_pack (length_lt h) hbucket]
    exact ⟨_, rfl⟩

/-- A walk shows what the buckets show at each cursor. -/
theorem run_trail (h : Shows storage keySize valueSize bs) (kind : ElementKind)
    (hstanding : bs.Standing cursor) (moves : List Move) (s : σ) :
    ∃ log, (trail ⟨storage, kind, cursor⟩ moves).run s =
      ⟨.ok (bs.trail kind cursor moves), s, log⟩ := by
  induction moves generalizing cursor with
  | nil =>
    obtain ⟨log, hhandle⟩ := run_handle h kind hstanding s
    rw [trail, current_eq h, Action.liftM_ok_bind, Action.run_bind, hhandle]
    exact ⟨_, rfl⟩
  | cons move moves ih =>
    obtain ⟨log, hhandle⟩ := run_handle h kind hstanding s
    obtain ⟨log', hrest⟩ := ih (Buckets.standing_target hstanding move)
    rw [trail, current_eq h, Action.liftM_ok_bind, Action.run_bind, hhandle, Outcome.andThen,
      perform_eq h kind hstanding, Action.liftM_ok_bind]
    dsimp only
    rw [Action.run_bind, hrest]
    exact ⟨_, rfl⟩

end Enumerator

/-! ## Operations and their meaning -/

/-- What can be done with a table. -/
inductive Operation where
  /-- Set the value of a key. -/
  | insert (key value : Bytes)
  /-- Look up the value of a key. -/
  | get (key : Bytes)
  /-- Find the handle of a key. -/
  | find (key : Bytes)
  /-- Find the handle of a key, or make a slot for it. -/
  | reserve (key : Bytes)
  /-- Remove a key. -/
  | erase (key : Bytes)
  /-- Write a value through a handle. -/
  | assign (handle : Handle) (value : Bytes)
  /-- Remove a key through a handle. -/
  | discard (handle : Handle)
  /-- Ask whether a value was written. -/
  | isWritten (handle : Handle)
  /-- Read a key through a handle. -/
  | keyOf (handle : Handle)
  /-- Read a value through a handle. -/
  | valueOf (handle : Handle)
  /-- Count the live keys. -/
  | size
  /-- Divide their number by that of the buckets. -/
  | loadFactor
  /-- List the keys. -/
  | keys
  /-- List the values. -/
  | values
  /-- Call an iterator over the pairs so many times. -/
  | pairs (calls : Nat)
  /-- Move an enumerator about. -/
  | walk (kind : ElementKind) (moves : List Move)
  /-- Change the number of buckets. -/
  | rehash (bucketCount : Nat)

/-- What an operation answers. -/
inductive Reply where
  | done
  | flag (value : Bool)
  | number (value : Nat)
  | ratio (value : Single)
  | bytes (value? : Option Bytes)
  | handle (handle? : Option Handle)
  | reserved (handle? : Option Handle) (created : Bool)
  | list (elements : List Bytes)
  | pairs (shown : List (Option (Bytes × Bytes)))
  | trail (shown : List (Option Bytes × Option Handle))
  deriving DecidableEq

namespace Operation

variable {β : Type} [Storage β]

/-- Perform an operation on a table, with the memory that it has for it. -/
def perform (memory : Memory) : Operation → Action (Table β) Reply
  | insert key value => do
    Table.insert memory key value
    return .done
  | get key => do return .bytes (← Action.read fun table => table.get? key)
  | find key => do return .handle (← Table.find? key)
  | reserve key => do
    let (handle?, created) ← Table.reserve memory key
    return .reserved handle? created
  | erase key => do
    Table.erase key
    return .done
  | assign handle value => do
    Table.assign handle value
    return .done
  | discard handle => do
    Table.discard handle
    return .done
  | isWritten handle => do return .flag (← Action.read fun table => table.isWritten handle)
  | keyOf handle => do return .bytes (← Action.read fun table => table.keyOf? handle)
  | valueOf handle => do return .bytes (← Action.read fun table => table.valueOf? handle)
  | size => do return .number (← Action.read fun table => .ok table.size)
  | loadFactor => do return .ratio (← Action.read fun table => .ok table.loadFactor)
  | keys => do return .list (← Action.read Table.keys)
  | values => do return .list (← Action.read Table.values)
  | pairs calls => do return .pairs (← Action.read fun table => table.pairs.take calls)
  | walk kind moves => do
    let e ← Action.read fun table => table.enumerator kind
    return .trail (← e.trail moves)
  | rehash bucketCount => do
    Table.rehash memory bucketCount
    return .done

/-- The check that refuses an operation before it looks at any slot. -/
def fault? (policy : Policy) : Operation → Option Failure
  | insert key value =>
    if key.length ≠ policy.keySize then some (.crash .keySize)
    else if value.length ≠ policy.valueSize then some (.crash .valueSize)
    else none
  | get key | find key | reserve key | erase key =>
    if key.length ≠ policy.keySize then some (.crash .keySize) else none
  | assign _ value => if value.length ≠ policy.valueSize then some (.crash .valueSize) else none
  | rehash bucketCount =>
    if bucketCount < 1 then some (.error (.invalidBucketCount bucketCount)) else none
  | _ => none

section

variable {policy : Policy}

theorem length_of_fault?_insert {key value : Bytes} (h : fault? policy (.insert key value) = none) :
    key.length = policy.keySize ∧ value.length = policy.valueSize := by
  rw [fault?] at h
  by_cases hkey : key.length = policy.keySize
  · by_cases hvalue : value.length = policy.valueSize
    · exact ⟨hkey, hvalue⟩
    · rw [if_neg (not_not_intro hkey), if_pos hvalue] at h
      cases h
  · rw [if_pos hkey] at h
    cases h

theorem length_of_fault?_reserve {key : Bytes} (h : fault? policy (.reserve key) = none) :
    key.length = policy.keySize := by
  rw [fault?] at h
  by_cases hkey : key.length = policy.keySize
  · exact hkey
  · rw [if_pos hkey] at h
    cases h

theorem pos_of_fault?_rehash {bucketCount : Nat}
    (h : fault? policy (.rehash bucketCount) = none) : 0 < bucketCount := by
  rw [fault?] at h
  by_cases hpos : bucketCount < 1
  · rw [if_pos hpos] at h
    cases h
  · exact Nat.not_lt.mp hpos

end

/-- What an operation answers on the buckets of a table. -/
def reply (policy : Policy) (bs : Buckets) : Operation → Reply
  | get key => .bytes (bs.get? policy key)
  | find key => .handle ((bs.locate policy key).bind (Handle.packed? bs.length))
  | reserve key =>
    .reserved (Handle.packed? bs.length (bs.reserve policy key).1.slot)
      (bs.reserve policy key).1.created
  | isWritten handle =>
    .flag ((bs.live? (handle.slotAt bs.length)).any SlotRecord.isWritten)
  | keyOf handle => .bytes ((bs.live? (handle.slotAt bs.length)).map SlotRecord.key)
  | valueOf handle => .bytes ((bs.live? (handle.slotAt bs.length)).bind SlotRecord.value?)
  | size => .number bs.liveCount
  | loadFactor => .ratio ((Single.ofNat bs.liveCount).div (Single.ofNat bs.length))
  | keys => .list (bs.liveRecords.map SlotRecord.key)
  | values => .list (bs.liveRecords.map SlotRecord.value)
  | pairs calls =>
    .pairs ((List.range calls).map fun i => (bs.liveRecords.filterMap SlotRecord.pair?)[i]?)
  | walk kind moves => .trail (bs.trail kind (bs.step .head .next) moves)
  | insert _ _ | erase _ | assign _ _ | discard _ | rehash _ => .done

/-- The buckets that an operation leaves. -/
def after (policy : Policy) (bs : Buckets) : Operation → Buckets
  | insert key value => bs.insert policy key value
  | reserve key => (bs.reserve policy key).2
  | erase key => bs.erase policy key
  | assign handle value => bs.assign (handle.slotAt bs.length) value
  | discard handle => bs.discard (handle.slotAt bs.length)
  | rehash bucketCount => Buckets.spread policy bucketCount bs.liveRecords
  | _ => bs

end Operation

end ByteTable
