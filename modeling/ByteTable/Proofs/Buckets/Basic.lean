import ByteTable.Layout
import ByteTable.Proofs.Grid
import ByteTable.Proofs.Slot.Word
import ByteTable.Storage.Slots

/-!
# Chaining on buckets of slots

`Buckets` is what a table stores once its layout is forgotten: a grid of slot records.  This module
states the chaining algorithm as pure functions on it.  They are the meaning of the operations of
every storage, and all that is said about runs of a table is said about them.

A key's slot is looked for in its home bucket only (`locate`).  A new key claims the first tombstone
of its bucket, or else a new slot at the end (`claim`).  Writing and removing change one slot.
What an operation does to the live slots is said by `live?`, place by place, and by `liveCount`.
-/

namespace ByteTable

namespace SlotRecord

/-- Whether the slot holds a key. -/
def isLive (record : SlotRecord) : Bool :=
  !record.word.isTombstone

/-- Whether the slot's value has been written. -/
def isWritten (record : SlotRecord) : Bool :=
  record.word.isWritten

/-- The slot of a key that has just been given one. -/
def reserved (policy : Policy) (key : Bytes) : SlotRecord :=
  ⟨SlotWord.live (policy.hash key), key, Bytes.zeroes policy.valueSize⟩

/-- The slot after a value was written to it. -/
def written (value : Bytes) (record : SlotRecord) : SlotRecord :=
  ⟨record.word.markWritten, record.key, value⟩

/-- The slot after its key was removed. -/
def removed (record : SlotRecord) : SlotRecord :=
  { record with word := record.word.tombstoned }

/-- The value of the slot, if one was written. -/
def value? (record : SlotRecord) : Option Bytes :=
  if record.isWritten then some record.value else none

/-- Whether a search for a key stops at the slot. -/
def holds (policy : Policy) (key : Bytes) (record : SlotRecord) : Bool :=
  record.word.agrees (policy.hash key) && policy.keysEqual key record.key

@[simp] theorem isLive_reserved (policy : Policy) (key : Bytes) :
    (reserved policy key).isLive = true := by
  simp [isLive, reserved]

@[simp] theorem isWritten_reserved (policy : Policy) (key : Bytes) :
    (reserved policy key).isWritten = false := by
  simp [isWritten, reserved]

@[simp] theorem isLive_written (value : Bytes) (record : SlotRecord) :
    (record.written value).isLive = record.isLive := by
  simp [isLive, written]

@[simp] theorem isWritten_written (value : Bytes) (record : SlotRecord) :
    (record.written value).isWritten = true := by
  simp [isWritten, written]

@[simp] theorem isLive_removed (record : SlotRecord) : record.removed.isLive = false := by
  simp [isLive, removed]

@[simp] theorem isWritten_removed (record : SlotRecord) : record.removed.isWritten = false := by
  simp [isWritten, removed]

/-- A search never stops at a tombstone. -/
theorem isLive_of_holds {policy : Policy} {key : Bytes} {record : SlotRecord}
    (h : record.holds policy key = true) : record.isLive = true := by
  have hagrees := (Bool.and_eq_true_iff.mp h).1
  simp [isLive, SlotWord.isTombstone_eq_false_of_agrees hagrees]

end SlotRecord

/-- The slots of a table, bucket by bucket, tombstones included. -/
abbrev Buckets : Type :=
  Grid SlotRecord

namespace Buckets

/-- Buckets without any slot. -/
def empty (bucketCount : Nat) : Buckets :=
  List.replicate bucketCount []

/-- What a slot holds, if it is live. -/
def live? (bs : Buckets) (slot : Slot) : Option SlotRecord :=
  (bs.at? slot).filter SlotRecord.isLive

/-- The live slots' records, bucket by bucket. -/
def liveRecords (bs : Buckets) : List SlotRecord :=
  bs.flatten.filter SlotRecord.isLive

/-- The number of live slots. -/
def liveCount (bs : Buckets) : Nat :=
  bs.flatten.countP SlotRecord.isLive

/-- The bucket that a key belongs to among `bucketCount`. -/
def home (policy : Policy) (bucketCount : Nat) (key : Bytes) : Nat :=
  (policy.hash key).toNat % bucketCount

/-- The slot of a key: the first one of its home bucket that the search stops at. -/
def locate (bs : Buckets) (policy : Policy) (key : Bytes) : Option Slot :=
  ((bs.row (home policy bs.length key)).findIdx? (SlotRecord.holds policy key)).map
    (Slot.mk (home policy bs.length key))

/-- Put a record into a bucket, in its first tombstone or else at its end. -/
def claim (bs : Buckets) (bucket : Nat) (record : SlotRecord) : Slot × Buckets :=
  match (bs.row bucket).findIdx? fun old => !old.isLive with
  | some item => (⟨bucket, item⟩, bs.update ⟨bucket, item⟩ fun _ => record)
  | none => (⟨bucket, (bs.row bucket).length⟩, bs.push bucket record)

/-- The slot of a key, made for it if it has none. -/
def reserve (bs : Buckets) (policy : Policy) (key : Bytes) : Reservation × Buckets :=
  match bs.locate policy key with
  | some slot => (⟨slot, false⟩, bs)
  | none =>
    let (slot, claimed) := bs.claim (home policy bs.length key) (.reserved policy key)
    (⟨slot, true⟩, claimed)

/-- Write the value of a slot. -/
def write (bs : Buckets) (slot : Slot) (value : Bytes) : Buckets :=
  bs.update slot (.written value)

/-- Turn a slot into a tombstone. -/
def bury (bs : Buckets) (slot : Slot) : Buckets :=
  bs.update slot .removed

/-- Write the value of a slot, if it is live. -/
def assign (bs : Buckets) (slot : Slot) (value : Bytes) : Buckets :=
  match bs.live? slot with
  | some _ => bs.write slot value
  | none => bs

/-- Remove the key of a slot, if it is live. -/
def discard (bs : Buckets) (slot : Slot) : Buckets :=
  match bs.live? slot with
  | some _ => bs.bury slot
  | none => bs

/-- The value of a key, if it has a slot whose value was written. -/
def get? (bs : Buckets) (policy : Policy) (key : Bytes) : Option Bytes :=
  (bs.locate policy key).bind fun slot => (bs.at? slot).bind SlotRecord.value?

/-- Write the value of a key, in its slot or in one made for it. -/
def insert (bs : Buckets) (policy : Policy) (key value : Bytes) : Buckets :=
  (bs.reserve policy key).2.write (bs.reserve policy key).1.slot value

/-- Remove a key. -/
def erase (bs : Buckets) (policy : Policy) (key : Bytes) : Buckets :=
  match bs.locate policy key with
  | some slot => bs.bury slot
  | none => bs

/-! ## Live slots -/

theorem live?_eq_some_iff {bs : Buckets} {slot : Slot} {record : SlotRecord} :
    bs.live? slot = some record ↔ bs.at? slot = some record ∧ record.isLive = true := by
  simp [live?, Option.filter_eq_some_iff]

theorem live?_eq_some_iff_isTombstone {bs : Buckets} {slot : Slot} {record : SlotRecord} :
    bs.live? slot = some record ↔
      bs.at? slot = some record ∧ record.word.isTombstone = false := by
  rw [live?_eq_some_iff, SlotRecord.isLive, Bool.not_eq_true']

theorem liveCount_eq_length (bs : Buckets) : bs.liveCount = bs.liveRecords.length :=
  List.countP_eq_length_filter

theorem mem_liveRecords_iff {bs : Buckets} {record : SlotRecord} :
    record ∈ bs.liveRecords ↔ ∃ slot, bs.live? slot = some record := by
  rw [liveRecords, List.mem_filter, Grid.mem_flatten_iff]
  constructor
  · rintro ⟨⟨slot, hslot⟩, hlive⟩
    exact ⟨slot, live?_eq_some_iff.mpr ⟨hslot, hlive⟩⟩
  · rintro ⟨slot, h⟩
    obtain ⟨hslot, hlive⟩ := live?_eq_some_iff.mp h
    exact ⟨⟨slot, hslot⟩, hlive⟩

@[simp] theorem length_empty (bucketCount : Nat) : (empty bucketCount).length = bucketCount :=
  List.length_replicate

@[simp] theorem at?_empty (bucketCount : Nat) (slot : Slot) :
    (empty bucketCount).at? slot = none := by
  by_cases h : slot.bucket < bucketCount <;> simp [empty, Grid.at?, Grid.row, h]

@[simp] theorem liveCount_empty (bucketCount : Nat) : (empty bucketCount).liveCount = 0 := by
  simp [empty, liveCount]

/-! ## Finding a key -/

theorem home_lt (policy : Policy) {bucketCount : Nat} (h : 0 < bucketCount) (key : Bytes) :
    home policy bucketCount key < bucketCount :=
  Nat.mod_lt _ h

/-- The search for a key stops in the key's home bucket, at a live slot. -/
theorem of_locate_eq_some {bs : Buckets} {policy : Policy} {key : Bytes} {slot : Slot}
    (h : bs.locate policy key = some slot) :
    slot.bucket = home policy bs.length key ∧
      ∃ record, bs.live? slot = some record ∧ record.holds policy key = true := by
  obtain ⟨item, hitem, rfl⟩ := Option.map_eq_some_iff.mp h
  obtain ⟨hlt, hholds, -⟩ := List.findIdx?_eq_some_iff_getElem.mp hitem
  refine ⟨rfl, _, live?_eq_some_iff.mpr ⟨List.getElem?_eq_getElem hlt, ?_⟩, hholds⟩
  exact SlotRecord.isLive_of_holds hholds

/-- If the search finds nothing, it would not have stopped at any slot of the home bucket. -/
theorem holds_eq_false_of_locate_eq_none {bs : Buckets} {policy : Policy} {key : Bytes}
    (h : bs.locate policy key = none) {slot : Slot} {record : SlotRecord}
    (hbucket : slot.bucket = home policy bs.length key) (hslot : bs.at? slot = some record) :
    record.holds policy key = false := by
  rw [locate, Option.map_eq_none_iff, List.findIdx?_eq_none_iff] at h
  rw [Grid.at?, hbucket] at hslot
  exact h record (List.mem_of_getElem? hslot)

/-! ## Claiming a slot -/

theorem claim_of_eq_none {bs : Buckets} {bucket : Nat}
    (h : ((bs.row bucket).findIdx? fun old => !old.isLive) = none) (record : SlotRecord) :
    bs.claim bucket record = (⟨bucket, (bs.row bucket).length⟩, bs.push bucket record) := by
  simp only [claim, h]

theorem claim_of_eq_some {bs : Buckets} {bucket item : Nat}
    (h : ((bs.row bucket).findIdx? fun old => !old.isLive) = some item) (record : SlotRecord) :
    bs.claim bucket record = (⟨bucket, item⟩, bs.update ⟨bucket, item⟩ fun _ => record) := by
  simp only [claim, h]

theorem exists_tombstone {bs : Buckets} {bucket item : Nat}
    (h : ((bs.row bucket).findIdx? fun old => !old.isLive) = some item) :
    ∃ old, bs.at? ⟨bucket, item⟩ = some old ∧ old.isLive = false := by
  obtain ⟨hlt, hdead, -⟩ := List.findIdx?_eq_some_iff_getElem.mp h
  exact ⟨_, List.getElem?_eq_getElem hlt, by simpa using hdead⟩

/-- The slot that is claimed lies in the bucket, and no key is in it. -/
theorem claim_fst (bs : Buckets) (bucket : Nat) (record : SlotRecord) :
    (bs.claim bucket record).1.bucket = bucket ∧ bs.live? (bs.claim bucket record).1 = none := by
  rcases h : (bs.row bucket).findIdx? (fun old => !old.isLive) with _ | item
  · rw [claim_of_eq_none h]
    simp [live?, Grid.at?]
  · obtain ⟨old, hold, hdead⟩ := exists_tombstone h
    rw [claim_of_eq_some h]
    simp [live?, hold, Option.filter_some, hdead]

theorem mk_item_claim (bs : Buckets) (bucket : Nat) (record : SlotRecord) :
    Slot.mk bucket (bs.claim bucket record).1.item = (bs.claim bucket record).1 := by
  have hbucket := (claim_fst bs bucket record).1
  generalize (bs.claim bucket record).1 = slot at hbucket ⊢
  rw [← hbucket]

@[simp] theorem length_claim (bs : Buckets) (bucket : Nat) (record : SlotRecord) :
    (bs.claim bucket record).2.length = bs.length := by
  rcases h : (bs.row bucket).findIdx? (fun old => !old.isLive) with _ | item
  · simp [claim_of_eq_none h]
  · simp [claim_of_eq_some h]

/-- Claiming a slot fills it, and no other place changes. -/
theorem at?_claim {bs : Buckets} {bucket : Nat} (hbucket : bucket < bs.length)
    (record : SlotRecord) (place : Slot) :
    (bs.claim bucket record).2.at? place =
      if place = (bs.claim bucket record).1 then some record else bs.at? place := by
  rcases h : (bs.row bucket).findIdx? (fun old => !old.isLive) with _ | item
  · rw [claim_of_eq_none h]
    exact Grid.at?_push hbucket record place
  · obtain ⟨old, hold, -⟩ := exists_tombstone h
    rw [claim_of_eq_some h, Grid.at?_update]
    by_cases hplace : place = ⟨bucket, item⟩
    · rw [if_pos hplace, if_pos hplace, hplace, hold]
      rfl
    · rw [if_neg hplace, if_neg hplace]

theorem live?_claim {bs : Buckets} {bucket : Nat} (hbucket : bucket < bs.length)
    {record : SlotRecord} (hlive : record.isLive = true) (place : Slot) :
    (bs.claim bucket record).2.live? place =
      if place = (bs.claim bucket record).1 then some record else bs.live? place := by
  rw [live?, at?_claim hbucket]
  split
  · simp [hlive]
  · rfl

/-- After a claim a place holds the new record or what it held before. -/
theorem at?_claim_cases {bs : Buckets} {bucket : Nat} (hbucket : bucket < bs.length)
    {record record' : SlotRecord} {place : Slot}
    (h : (bs.claim bucket record).2.at? place = some record') :
    (place = (bs.claim bucket record).1 ∧ record' = record) ∨ bs.at? place = some record' := by
  rw [at?_claim hbucket] at h
  by_cases hplace : place = (bs.claim bucket record).1
  · rw [if_pos hplace, Option.some.injEq] at h
    exact .inl ⟨hplace, h.symm⟩
  · rw [if_neg hplace] at h
    exact .inr h

theorem live?_claim_cases {bs : Buckets} {bucket : Nat} (hbucket : bucket < bs.length)
    {record record' : SlotRecord} {place : Slot}
    (h : (bs.claim bucket record).2.live? place = some record') :
    (place = (bs.claim bucket record).1 ∧ record' = record) ∨ bs.live? place = some record' := by
  obtain ⟨hplace, hlive⟩ := live?_eq_some_iff.mp h
  rcases at?_claim_cases hbucket hplace with hclaimed | hplace
  · exact .inl hclaimed
  · exact .inr (live?_eq_some_iff.mpr ⟨hplace, hlive⟩)

theorem liveCount_claim {bs : Buckets} {bucket : Nat} (hbucket : bucket < bs.length)
    {record : SlotRecord} (hlive : record.isLive = true) :
    (bs.claim bucket record).2.liveCount = bs.liveCount + 1 := by
  rcases h : (bs.row bucket).findIdx? (fun old => !old.isLive) with _ | item
  · simp only [claim_of_eq_none h, liveCount, Grid.countP_push hbucket, hlive, if_true]
  · obtain ⟨old, hold, hdead⟩ := exists_tombstone h
    have hcount := Grid.countP_update hold SlotRecord.isLive fun _ => record
    rw [claim_of_eq_some h]
    simpa [liveCount, hlive, hdead] using hcount

/-! ## Changing a live slot -/

@[simp] theorem length_write (bs : Buckets) (slot : Slot) (value : Bytes) :
    (bs.write slot value).length = bs.length :=
  Grid.length_update _ _ _

@[simp] theorem length_bury (bs : Buckets) (slot : Slot) : (bs.bury slot).length = bs.length :=
  Grid.length_update _ _ _

theorem live?_write (bs : Buckets) (slot place : Slot) (value : Bytes) :
    (bs.write slot value).live? place =
      if place = slot then (bs.live? place).map (.written value) else bs.live? place := by
  rw [live?, write, Grid.at?_update, live?]
  split
  · rcases bs.at? place with _ | record
    · rfl
    · by_cases hlive : record.isLive <;> simp [Option.filter_some, hlive]
  · rfl

/-- What is live after a write was live before, and has its key. -/
theorem live?_write_cases {bs : Buckets} {slot place : Slot} {value : Bytes} {record : SlotRecord}
    (h : (bs.write slot value).live? place = some record) :
    ∃ before, bs.live? place = some before ∧ (record = before ∨ record = before.written value) := by
  rw [live?_write] at h
  by_cases hplace : place = slot
  · rw [if_pos hplace, Option.map_eq_some_iff] at h
    obtain ⟨before, hbefore, rfl⟩ := h
    exact ⟨before, hbefore, .inr rfl⟩
  · rw [if_neg hplace] at h
    exact ⟨record, h, .inl rfl⟩

theorem live?_bury (bs : Buckets) (slot place : Slot) :
    (bs.bury slot).live? place = if place = slot then none else bs.live? place := by
  rw [live?, bury, Grid.at?_update, live?]
  split
  · rcases bs.at? place with _ | record <;> simp [Option.filter_some]
  · rfl

/-- What is live after a removal is another slot, as it was before. -/
theorem live?_bury_eq_some_iff {bs : Buckets} {slot place : Slot} {record : SlotRecord} :
    (bs.bury slot).live? place = some record ↔ place ≠ slot ∧ bs.live? place = some record := by
  rw [live?_bury]
  by_cases hplace : place = slot <;> simp [hplace]

theorem liveCount_write {bs : Buckets} {slot : Slot} {record : SlotRecord}
    (h : bs.at? slot = some record) (value : Bytes) :
    (bs.write slot value).liveCount = bs.liveCount := by
  have hcount := Grid.countP_update h SlotRecord.isLive (.written value)
  rw [SlotRecord.isLive_written] at hcount
  exact Nat.add_right_cancel hcount

theorem liveCount_bury {bs : Buckets} {slot : Slot} {record : SlotRecord}
    (h : bs.live? slot = some record) : (bs.bury slot).liveCount + 1 = bs.liveCount := by
  obtain ⟨hat, hlive⟩ := live?_eq_some_iff.mp h
  have hcount := Grid.countP_update hat SlotRecord.isLive .removed
  rw [hlive, SlotRecord.isLive_removed, if_pos rfl, if_neg Bool.false_ne_true] at hcount
  exact hcount

theorem liveCount_assign (bs : Buckets) (slot : Slot) (value : Bytes) :
    (bs.assign slot value).liveCount = bs.liveCount := by
  rcases h : bs.live? slot with _ | record
  · simp only [assign, h]
  · simp only [assign, h]
    exact liveCount_write (live?_eq_some_iff.mp h).1 value

theorem liveCount_discard_le (bs : Buckets) (slot : Slot) :
    (bs.discard slot).liveCount ≤ bs.liveCount := by
  rcases h : bs.live? slot with _ | record
  · simp only [discard, h, Nat.le_refl]
  · simp only [discard, h, ← liveCount_bury h, Nat.le_succ]

theorem liveCount_erase_le (bs : Buckets) (policy : Policy) (key : Bytes) :
    (bs.erase policy key).liveCount ≤ bs.liveCount := by
  rcases h : bs.locate policy key with _ | slot
  · simp only [erase, h, Nat.le_refl]
  · obtain ⟨-, record, hrecord, -⟩ := of_locate_eq_some h
    simp only [erase, h, ← liveCount_bury hrecord, Nat.le_succ]

@[simp] theorem length_assign (bs : Buckets) (slot : Slot) (value : Bytes) :
    (bs.assign slot value).length = bs.length := by
  unfold assign
  split <;> simp

@[simp] theorem length_discard (bs : Buckets) (slot : Slot) :
    (bs.discard slot).length = bs.length := by
  unfold discard
  split <;> simp

@[simp] theorem length_erase (bs : Buckets) (policy : Policy) (key : Bytes) :
    (bs.erase policy key).length = bs.length := by
  unfold erase
  split <;> simp

/-! ## Reserving a key's slot -/

theorem live?_reserve {bs : Buckets} (hpos : 0 < bs.length) (policy : Policy) (key : Bytes) :
    (bs.reserve policy key).1.slot.bucket = home policy bs.length key ∧
      ∃ record, (bs.reserve policy key).2.live? (bs.reserve policy key).1.slot = some record := by
  rcases h : bs.locate policy key with _ | slot
  · simp only [reserve, h]
    refine ⟨(claim_fst _ _ _).1, .reserved policy key, ?_⟩
    rw [live?_claim (home_lt policy hpos key) (SlotRecord.isLive_reserved policy key), if_pos rfl]
  · simp only [reserve, h]
    obtain ⟨hbucket, record, hrecord, -⟩ := of_locate_eq_some h
    exact ⟨hbucket, record, hrecord⟩

@[simp] theorem length_reserve (bs : Buckets) (policy : Policy) (key : Bytes) :
    (bs.reserve policy key).2.length = bs.length := by
  unfold reserve
  split <;> simp

theorem liveCount_reserve {bs : Buckets} (hpos : 0 < bs.length) (policy : Policy) (key : Bytes) :
    (bs.reserve policy key).2.liveCount =
      bs.liveCount + if (bs.locate policy key).isSome then 0 else 1 := by
  rcases h : bs.locate policy key with _ | slot
  · simp only [reserve, h]
    exact liveCount_claim (home_lt policy hpos key) (SlotRecord.isLive_reserved policy key)
  · simp [reserve, h]

@[simp] theorem length_insert (bs : Buckets) (policy : Policy) (key value : Bytes) :
    (bs.insert policy key value).length = bs.length := by
  simp [insert]

theorem liveCount_insert {bs : Buckets} (hpos : 0 < bs.length) (policy : Policy)
    (key value : Bytes) :
    (bs.insert policy key value).liveCount =
      bs.liveCount + if (bs.locate policy key).isSome then 0 else 1 := by
  obtain ⟨-, record, hrecord⟩ := live?_reserve hpos policy key
  rw [insert, liveCount_write (live?_eq_some_iff.mp hrecord).1,
    liveCount_reserve hpos policy key]

end Buckets

end ByteTable
