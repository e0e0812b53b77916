import ByteTable.Proofs.Buckets.Basic
import Mathlib.Data.List.Induction

/-!
# Spreading records over buckets

`spread` is what a rehash is to achieve: given the live records in order, each goes to the bucket
that its key selects among the new number of buckets, and within a bucket the order stays.  Both
ways to rehash are compared with it, the move of whole records and the rebuild.

`spread_append_singleton` is the step that both take: one more record is one more slot at the end of
its bucket.
-/

namespace ByteTable

namespace Buckets

/-- Records spread over `bucketCount` buckets, each into the one its key belongs to, in order. -/
def spread (policy : Policy) (bucketCount : Nat) (records : List SlotRecord) : Buckets :=
  (List.range bucketCount).map fun bucket =>
    records.filter fun record => home policy bucketCount record.key == bucket

variable {policy : Policy} {bucketCount : Nat} {records : List SlotRecord}

@[simp] theorem length_spread (policy : Policy) (bucketCount : Nat) (records : List SlotRecord) :
    (spread policy bucketCount records).length = bucketCount := by
  simp [spread]

@[simp] theorem spread_nil (policy : Policy) (bucketCount : Nat) :
    spread policy bucketCount [] = empty bucketCount := by
  simp [spread, empty, List.map_const']

theorem row_spread (hpos : 0 < bucketCount) (bucket : Nat) :
    (spread policy bucketCount records).row bucket =
      records.filter fun record => home policy bucketCount record.key == bucket := by
  by_cases h : bucket < bucketCount
  · simp [Grid.row, spread, h]
  · rw [Grid.row_eq_nil_of_le (by simpa using h), eq_comm, List.filter_eq_nil_iff]
    intro record _
    have hlt : home policy bucketCount record.key < bucketCount := home_lt policy hpos record.key
    rw [beq_iff_eq]
    omega

/-- One more record is one more slot at the end of its bucket. -/
theorem spread_append_singleton (hpos : 0 < bucketCount) (record : SlotRecord) :
    spread policy bucketCount (records ++ [record]) =
      (spread policy bucketCount records).push (home policy bucketCount record.key) record := by
  have hhome : home policy bucketCount record.key < (spread policy bucketCount records).length := by
    simpa using home_lt policy hpos record.key
  apply Grid.ext_row (by simp)
  intro bucket
  rw [Grid.row_push hhome, row_spread hpos, row_spread hpos, List.filter_append]
  by_cases h : bucket = home policy bucketCount record.key
  · simp [h]
  · simp [h, Ne.symm h]

/-- A record lies in the bucket of its key, and it is one of those that were spread. -/
theorem mem_of_at?_spread (hpos : 0 < bucketCount) {slot : Slot} {record : SlotRecord}
    (h : (spread policy bucketCount records).at? slot = some record) :
    record ∈ records ∧ home policy bucketCount record.key = slot.bucket := by
  rw [Grid.at?, row_spread hpos] at h
  simpa using List.mem_of_getElem? h

/-- Spreading neither loses nor adds a record. -/
theorem countP_spread (hpos : 0 < bucketCount) (p : SlotRecord → Bool) :
    (spread policy bucketCount records).flatten.countP p = records.countP p := by
  induction records using List.reverseRecOn with
  | nil => simp [empty]
  | append_singleton records record ih =>
    have hhome : home policy bucketCount record.key <
        (spread policy bucketCount records).length := by
      simpa using home_lt policy hpos record.key
    rw [spread_append_singleton hpos, Grid.countP_push hhome, ih, List.countP_append,
      List.countP_singleton]

/-- The slots are the records, each once, in some order. -/
theorem perm_flatten_spread (hpos : 0 < bucketCount) :
    (spread policy bucketCount records).flatten.Perm records := by
  rw [List.perm_iff_count]
  intro record
  rw [List.count_eq_countP, countP_spread hpos, List.count_eq_countP]

theorem liveCount_spread (hpos : 0 < bucketCount)
    (hlive : ∀ record ∈ records, record.isLive = true) :
    (spread policy bucketCount records).liveCount = records.length := by
  rw [liveCount, countP_spread hpos, List.countP_eq_length]
  exact hlive

/-- Spreading the live slots of a table over any number of buckets keeps their number. -/
theorem liveCount_spread_liveRecords (hpos : 0 < bucketCount) (bs : Buckets) :
    (spread policy bucketCount bs.liveRecords).liveCount = bs.liveCount := by
  rw [liveCount_spread hpos, liveCount_eq_length]
  exact fun record hrecord => (List.mem_filter.mp hrecord).2

theorem findIdx?_tombstone_spread (hpos : 0 < bucketCount)
    (hlive : ∀ record ∈ records, record.isLive = true) (bucket : Nat) :
    ((spread policy bucketCount records).row bucket).findIdx? (fun old => !old.isLive) = none := by
  rw [List.findIdx?_eq_none_iff, row_spread hpos]
  intro old hold
  simp [hlive old (List.mem_filter.mp hold).1]

/-- A record that is put into a bucket of spread records goes to its end. -/
theorem claim_spread (hpos : 0 < bucketCount) (hlive : ∀ record ∈ records, record.isLive = true)
    (record : SlotRecord) :
    ((spread policy bucketCount records).claim (home policy bucketCount record.key) record).2 =
      spread policy bucketCount (records ++ [record]) := by
  rw [claim_of_eq_none (findIdx?_tombstone_spread hpos hlive _), spread_append_singleton hpos]

end Buckets

end ByteTable
