import ByteTable.Proofs.Buckets.Entries
import ByteTable.Proofs.Slot.Handle

/-!
# The slot of one key

A handle has no memory of the key that it was made for: it is the place of a slot and nothing more.
It stands for the key as long as the key stays in that slot, and `Buckets.Marks` says that it is
there now.

One lemma for each operation says what becomes of it.  Two reasons carry them all.  No operation
moves a live slot or claims it for another key, since a claim takes a tombstone or a new place
(`claim_fst`).  And a key that is not the same has another slot, just as another handle stands for
another slot (`Keyed.locate_ne`, `Handle.slotAt_inj`).
-/

namespace ByteTable

namespace Buckets

variable {policy : Policy} {bs : Buckets} {handle : Handle} {key other value : Bytes} {slot : Slot}
  {record : SlotRecord}

/-- Giving a slot to a key leaves all live slots as they are. -/
theorem live?_reserve_of_eq_some (hpos : 0 < bs.length) (policy : Policy) (other : Bytes)
    (hslot : bs.live? slot = some record) :
    (bs.reserve policy other).2.live? slot = some record := by
  rcases hlocate : bs.locate policy other with _ | found
  · have hfree := (claim_fst bs (home policy bs.length other) (.reserved policy other)).2
    have hne : slot ≠ (bs.claim (home policy bs.length other) (.reserved policy other)).1 := by
      rintro rfl
      rw [hslot] at hfree
      cases hfree
    simp only [reserve, hlocate]
    rw [live?_claim (home_lt policy hpos other) (SlotRecord.isLive_reserved policy other),
      if_neg hne, hslot]
  · simpa only [reserve, hlocate] using hslot

/-- The slot that is given to a key which is not the same is another one. -/
theorem Keyed.locate_ne (h : bs.Keyed policy) (hkey : key.length = policy.keySize)
    (hother : other.length = policy.keySize) (hslot : bs.live? slot = some record)
    (hequal : policy.keysEqual key record.key = true)
    (hdiffers : policy.keysEqual key other = false) : bs.locate policy other ≠ some slot := by
  intro hlocate
  obtain ⟨record', hrecord', hequal'⟩ := (h.locate_eq_some_iff hother).mp hlocate
  rw [hslot, Option.some.injEq] at hrecord'
  subst hrecord'
  have hsize := (h.sized slot record (live?_eq_some_iff.mp hslot).1).1
  have hback := h.consistent.symm other record.key hother hsize hequal'
  rw [h.consistent.trans key record.key other hkey hsize hother hequal hback] at hdiffers
  cases hdiffers

/-! ## A key in its place -/

/-- Whether a handle stands for the slot of a key, and what the slot holds. -/
structure Marks (policy : Policy) (bs : Buckets) (handle : Handle) (key : Bytes)
    (record : SlotRecord) : Prop where
  /-- The handle is the one that is made for the slot. -/
  packed?_eq : Handle.packed? bs.length (handle.slotAt bs.length) = some handle
  live?_eq : bs.live? (handle.slotAt bs.length) = some record
  keysEqual : policy.keysEqual key record.key = true

namespace Marks

theorem of_packed?_eq_some (hlength : bs.length + 1 < wordLimit)
    (hslot : bs.live? slot = some record) (hpacked : Handle.packed? bs.length slot = some handle)
    (hequal : policy.keysEqual key record.key = true) : bs.Marks policy handle key record := by
  have hbucket := Grid.bucket_lt_of_at? (live?_eq_some_iff.mp hslot).1
  have hread := Handle.slotAt_of_packed?_eq_some hlength hbucket hpacked
  exact ⟨hread ▸ hpacked, hread ▸ hslot, hequal⟩

/-- A slot that keeps its place and its key stays marked. -/
theorem of_live? (h : bs.Marks policy handle key record) {bs' : Buckets} {record' : SlotRecord}
    (hlength : bs'.length = bs.length)
    (hlive : bs'.live? (handle.slotAt bs.length) = some record') (hkey : record'.key = record.key) :
    bs'.Marks policy handle key record' := by
  constructor
  · rw [hlength]
    exact h.packed?_eq
  · rw [hlength]
    exact hlive
  · rw [hkey]
    exact h.keysEqual

theorem locate_eq (h : bs.Marks policy handle key record) (hkeyed : bs.Keyed policy)
    (hkey : key.length = policy.keySize) :
    bs.locate policy key = some (handle.slotAt bs.length) :=
  (hkeyed.locate_eq_some_iff hkey).mpr ⟨record, h.live?_eq, h.keysEqual⟩

theorem get?_eq (h : bs.Marks policy handle key record) (hkeyed : bs.Keyed policy)
    (hkey : key.length = policy.keySize) : bs.get? policy key = record.value? := by
  rw [get?_eq_lookup, lookup, h.locate_eq hkeyed hkey, Option.bind_some, h.live?_eq,
    Option.bind_some]

theorem locate_eq_of_keysEqual (h : bs.Marks policy handle key record) (hkeyed : bs.Keyed policy)
    (hkey : key.length = policy.keySize) (hother : other.length = policy.keySize)
    (hsame : policy.keysEqual key other = true) :
    bs.locate policy other = some (handle.slotAt bs.length) := by
  have hsize := (hkeyed.sized _ record (live?_eq_some_iff.mp h.live?_eq).1).1
  have hback := hkeyed.consistent.symm key other hkey hother hsame
  exact (hkeyed.locate_eq_some_iff hother).mpr ⟨record, h.live?_eq,
    hkeyed.consistent.trans other key record.key hother hkey hsize hback h.keysEqual⟩

/-! ## Operations -/

theorem reserve (h : bs.Marks policy handle key record) (hpos : 0 < bs.length) (other : Bytes) :
    (bs.reserve policy other).2.Marks policy handle key record :=
  h.of_live? (length_reserve bs policy other)
    (live?_reserve_of_eq_some hpos policy other h.live?_eq) rfl

theorem write_self (h : bs.Marks policy handle key record) (value : Bytes) :
    (bs.write (handle.slotAt bs.length) value).Marks policy handle key (record.written value) := by
  refine h.of_live? (length_write bs _ value) ?_ rfl
  rw [live?_write, if_pos rfl, h.live?_eq, Option.map_some]

theorem write_of_ne (h : bs.Marks policy handle key record) (hne : slot ≠ handle.slotAt bs.length)
    (value : Bytes) : (bs.write slot value).Marks policy handle key record := by
  refine h.of_live? (length_write bs slot value) ?_ rfl
  rw [live?_write, if_neg hne.symm, h.live?_eq]

theorem bury_of_ne (h : bs.Marks policy handle key record) (hne : slot ≠ handle.slotAt bs.length) :
    (bs.bury slot).Marks policy handle key record := by
  refine h.of_live? (length_bury bs slot) ?_ rfl
  rw [live?_bury, if_neg hne.symm, h.live?_eq]

theorem insert_self (h : bs.Marks policy handle key record) (hkeyed : bs.Keyed policy)
    (hkey : key.length = policy.keySize) (hother : other.length = policy.keySize)
    (hsame : policy.keysEqual key other = true) (value : Bytes) :
    (bs.insert policy other value).Marks policy handle key (record.written value) := by
  have hlocate := h.locate_eq_of_keysEqual hkeyed hkey hother hsame
  have hreserve : bs.reserve policy other = (⟨handle.slotAt bs.length, false⟩, bs) := by
    simp only [Buckets.reserve, hlocate]
  rw [Buckets.insert, hreserve]
  exact h.write_self value

theorem insert_of_ne (h : bs.Marks policy handle key record) (hkeyed : bs.Keyed policy)
    (hkey : key.length = policy.keySize) (hother : other.length = policy.keySize)
    (hdiffers : policy.keysEqual key other = false) (value : Bytes) :
    (bs.insert policy other value).Marks policy handle key record := by
  have hreserved := h.reserve hkeyed.length_pos other
  rw [Buckets.insert]
  refine hreserved.write_of_ne ?_ value
  rw [length_reserve]
  -- After the reservation the search for the other key finds the slot that is written.
  intro hslot
  have hlocate := hkeyed.locate_reserve hother
  rw [hslot] at hlocate
  have hlive := live?_reserve_of_eq_some hkeyed.length_pos policy other h.live?_eq
  exact (hkeyed.reserve hother).locate_ne hkey hother hlive h.keysEqual hdiffers hlocate

theorem erase_of_ne (h : bs.Marks policy handle key record) (hkeyed : bs.Keyed policy)
    (hkey : key.length = policy.keySize) (hother : other.length = policy.keySize)
    (hdiffers : policy.keysEqual key other = false) :
    (bs.erase policy other).Marks policy handle key record := by
  rcases hlocate : bs.locate policy other with _ | found
  · simpa only [Buckets.erase, hlocate] using h
  · have hne : found ≠ handle.slotAt bs.length := by
      rintro rfl
      exact hkeyed.locate_ne hkey hother h.live?_eq h.keysEqual hdiffers hlocate
    simpa only [Buckets.erase, hlocate] using h.bury_of_ne hne

theorem assign_self (h : bs.Marks policy handle key record) (value : Bytes) :
    (bs.assign (handle.slotAt bs.length) value).Marks policy handle key (record.written value) := by
  simpa only [Buckets.assign, h.live?_eq] using h.write_self value

theorem assign_of_ne (h : bs.Marks policy handle key record) (hne : slot ≠ handle.slotAt bs.length)
    (value : Bytes) : (bs.assign slot value).Marks policy handle key record := by
  rcases hlive : bs.live? slot with _ | old
  · simpa only [Buckets.assign, hlive] using h
  · simpa only [Buckets.assign, hlive] using h.write_of_ne hne value

theorem discard_of_ne (h : bs.Marks policy handle key record)
    (hne : slot ≠ handle.slotAt bs.length) : (bs.discard slot).Marks policy handle key record := by
  rcases hlive : bs.live? slot with _ | old
  · simpa only [Buckets.discard, hlive] using h
  · simpa only [Buckets.discard, hlive] using h.bury_of_ne hne

end Marks

end Buckets

end ByteTable
