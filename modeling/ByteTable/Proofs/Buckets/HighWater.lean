import ByteTable.Proofs.Buckets.Basic

/-!
# How long a bucket becomes

A bucket never becomes shorter, since a slot that is no longer needed stays as a tombstone.  When it
becomes longer, it held no tombstone and all its slots are live, the new one among them
(`Rises.push`).  Both together are one equation, which `Buckets.Rises` states: the new length is the
larger one of the old length and of the number of slots that are live afterwards.  Writing a value
or burying a slot is no exception, as these keep the length.
-/

namespace ByteTable

namespace Buckets

variable {policy : Policy} {bs bs' : Buckets} {bucket : Nat} {slot : Slot} {record : SlotRecord}

/-- The number of live slots of a bucket. -/
def liveIn (bs : Buckets) (bucket : Nat) : Nat :=
  (bs.row bucket).countP SlotRecord.isLive

theorem liveIn_le_length_row (bs : Buckets) (bucket : Nat) :
    bs.liveIn bucket ≤ (bs.row bucket).length :=
  List.countP_le_length

/-- A bucket without tombstones has as many slots as live ones. -/
theorem liveIn_eq_length_row (h : ∀ record ∈ bs.flatten, record.isLive = true) (bucket : Nat) :
    bs.liveIn bucket = (bs.row bucket).length := by
  unfold liveIn
  apply List.countP_eq_length.mpr
  intro record hrecord
  obtain ⟨item, hitem⟩ := List.mem_iff_getElem?.mp hrecord
  exact h record (Grid.mem_flatten_iff.mpr ⟨⟨bucket, item⟩, hitem⟩)

theorem liveIn_write (bs : Buckets) (slot : Slot) (value : Bytes) (bucket : Nat) :
    (bs.write slot value).liveIn bucket = bs.liveIn bucket := by
  have hcount : ∀ buckets : Buckets, buckets.liveIn bucket =
      ((buckets.image SlotRecord.isLive).row bucket).countP id := by
    intro buckets
    rw [Grid.row_image, List.countP_map]
    rfl
  have himage : (bs.write slot value).image SlotRecord.isLive = bs.image SlotRecord.isLive :=
    Grid.image_update_of_eq fun old _ => SlotRecord.isLive_written value old
  rw [hcount, hcount, himage]

/-- Whether buckets are as long as before, or longer where a live slot had no other room. -/
structure Rises (bs bs' : Buckets) : Prop where
  length_eq : bs'.length = bs.length
  length_row_eq : ∀ bucket, (bs'.row bucket).length =
    max (bs.row bucket).length (bs'.liveIn bucket)
  /-- A bucket that became longer had no tombstone. -/
  findIdx?_eq_none : ∀ bucket, (bs.row bucket).length < (bs'.row bucket).length →
    (bs.row bucket).findIdx? (fun old => !old.isLive) = none

namespace Rises

theorem of_length_row_eq (hlength : bs'.length = bs.length)
    (hrow : ∀ bucket, (bs'.row bucket).length = (bs.row bucket).length) : bs.Rises bs' where
  length_eq := hlength
  length_row_eq bucket := by
    have hlive := bs'.liveIn_le_length_row bucket
    have hsame := hrow bucket
    omega
  findIdx?_eq_none bucket hlt := by
    have hsame := hrow bucket
    omega

theorem refl (bs : Buckets) : bs.Rises bs :=
  of_length_row_eq rfl fun _ => rfl

theorem update (bs : Buckets) (slot : Slot) (f : SlotRecord → SlotRecord) :
    bs.Rises (bs.update slot f) :=
  of_length_row_eq (Grid.length_update bs slot f) (Grid.length_row_update bs slot f)

theorem push (hbucket : bucket < bs.length) (hlive : record.isLive = true)
    (hfull : (bs.row bucket).findIdx? (fun old => !old.isLive) = none) :
    bs.Rises (bs.push bucket record) where
  length_eq := Grid.length_push bs bucket record
  length_row_eq bucket' := by
    have hbound := liveIn_le_length_row (bs.push bucket record) bucket'
    rw [Grid.row_push hbucket] at hbound ⊢
    by_cases heq : bucket' = bucket
    · subst heq
      have hall : (bs.row bucket').countP SlotRecord.isLive = (bs.row bucket').length := by
        apply List.countP_eq_length.mpr
        intro old hold
        simpa using List.findIdx?_eq_none_iff.mp hfull old hold
      have hcount : Buckets.liveIn (bs.push bucket' record) bucket' =
          (bs.row bucket').length + 1 := by
        rw [liveIn, Grid.row_push hbucket, if_pos rfl, List.countP_append, hall,
          List.countP_singleton, hlive, if_pos rfl]
      rw [if_pos rfl, List.length_append, List.length_singleton, hcount]
      omega
    · rw [if_neg heq] at hbound ⊢
      omega
  findIdx?_eq_none bucket' hlt := by
    rw [Grid.row_push hbucket] at hlt
    by_cases heq : bucket' = bucket
    · rw [heq, hfull]
    · rw [if_neg heq] at hlt
      omega

theorem claim (hbucket : bucket < bs.length) (hlive : record.isLive = true) :
    bs.Rises (bs.claim bucket record).2 := by
  rcases h : (bs.row bucket).findIdx? (fun old => !old.isLive) with _ | item
  · rw [claim_of_eq_none h]
    exact push hbucket hlive h
  · rw [claim_of_eq_some h]
    exact update bs _ _

theorem write (h : bs.Rises bs') (slot : Slot) (value : Bytes) :
    bs.Rises (bs'.write slot value) := by
  have hlength : ∀ bucket, ((bs'.write slot value).row bucket).length = (bs'.row bucket).length :=
    Grid.length_row_update bs' slot _
  constructor
  · rw [length_write, h.length_eq]
  · intro bucket
    rw [hlength, liveIn_write, h.length_row_eq]
  · intro bucket hlt
    rw [hlength] at hlt
    exact h.findIdx?_eq_none bucket hlt

theorem reserve (hpos : 0 < bs.length) (policy : Policy) (key : Bytes) :
    bs.Rises (bs.reserve policy key).2 := by
  rcases hlocate : bs.locate policy key with _ | found
  · simp only [Buckets.reserve, hlocate]
    exact claim (home_lt policy hpos key) (SlotRecord.isLive_reserved policy key)
  · simp only [Buckets.reserve, hlocate]
    exact refl bs

end Rises

end Buckets

end ByteTable
