import ByteTable.Proofs.Buckets.Entries
import Mathlib.Data.List.NodupEquivFin

/-!
# Dealing the live slots again

`Buckets.spread` deals the live slots to their buckets, in the order in which a walk over the table
meets them.  Where all live slots lie where their keys belong, dealing them to as many buckets as
there are only drops the tombstones (`Placed.row_spread_length`): of the slots that a walk meets,
those that belong to a bucket are those that lie in it.  Without tombstones nothing changes, and so
a second deal to the same number of buckets changes nothing either (`Placed.spread_spread`).

Between different numbers of buckets slots do change their buckets, but two of them that share one
before and share one after keep their order (`Keyed.item_lt_iff_spread`).  The walk meets them in
this order, and a bucket takes what it gets in the order of the walk.
-/

namespace ByteTable

/-- A property that only entries of one row have selects from the grid what it selects from the
row. -/
theorem Grid.filter_flatten_of_forall_ne {α : Type} {g : Grid α} {p : α → Bool} {bucket : Nat}
    (h : ∀ bucket', bucket' ≠ bucket → ∀ a ∈ g.row bucket', p a = false) :
    g.flatten.filter p = (g.row bucket).filter p := by
  induction g generalizing bucket with
  | nil => simp [row]
  | cons rowOf g ih =>
    rw [List.flatten_cons, List.filter_append]
    cases bucket with
    | zero =>
      have hrest : g.flatten.filter p = [] := by
        rw [List.filter_eq_nil_iff]
        intro a ha
        obtain ⟨slot, hslot⟩ := mem_flatten_iff.mp ha
        simp [h (slot.bucket + 1) (by omega) a (List.mem_of_getElem? hslot)]
      rw [hrest, List.append_nil]
      rfl
    | succ bucket =>
      have hfirst : rowOf.filter p = [] := by
        rw [List.filter_eq_nil_iff]
        intro a ha
        simp [h 0 (by omega) a ha]
      rw [hfirst, List.nil_append]
      exact ih fun bucket' hne => h (bucket' + 1) (by omega)

/-- Two entries of a list, the one before the other, make a sublist. -/
theorem pair_sublist_of_lt {α : Type} {as : List α} {a b : α} {i j : Nat} (hlt : i < j)
    (ha : as[i]? = some a) (hb : as[j]? = some b) : [a, b].Sublist as := by
  have hfirst : [a].Sublist (as.take j) := by
    rw [List.singleton_sublist]
    exact List.mem_of_getElem? ((List.getElem?_take_of_lt hlt).trans ha)
  have hsecond : [b].Sublist (as.drop j) := by
    have hhead : (as.drop j)[0]? = some b := by rw [List.getElem?_drop, Nat.add_zero, hb]
    rw [List.singleton_sublist]
    exact List.mem_of_getElem? hhead
  have hboth := hfirst.append hsecond
  rwa [List.take_append_drop] at hboth

theorem exists_lt_of_pair_sublist {α : Type} {as : List α} {a b : α} (h : [a, b].Sublist as) :
    ∃ i j : Nat, i < j ∧ as[i]? = some a ∧ as[j]? = some b := by
  obtain ⟨place, hplace⟩ := List.sublist_iff_exists_orderEmbedding_getElem?_eq.mp h
  have hlt : place 0 < place 1 := place.lt_iff_lt.mpr Nat.zero_lt_one
  exact ⟨place 0, place 1, hlt, (hplace 0).symm, (hplace 1).symm⟩

namespace Buckets

variable {policy : Policy} {bs : Buckets} {bucketCount : Nat}

/-! ## The same number of buckets -/

/-- Of the live slots, those that belong to a bucket are those that lie in it. -/
theorem Placed.filter_liveRecords (h : bs.Placed policy) (bucket : Nat) :
    (bs.liveRecords.filter fun record => Buckets.home policy bs.length record.key == bucket) =
      (bs.row bucket).filter SlotRecord.isLive := by
  have hhome : ∀ bucket', ∀ record ∈ bs.row bucket', record.isLive = true →
      Buckets.home policy bs.length record.key = bucket' := by
    intro bucket' record hrecord hlive
    obtain ⟨item, hitem⟩ := List.mem_iff_getElem?.mp hrecord
    exact (h.home ⟨bucket', item⟩ record (live?_eq_some_iff.mpr ⟨hitem, hlive⟩)).symm
  have hother : ∀ bucket', bucket' ≠ bucket → ∀ record ∈ bs.row bucket',
      (Buckets.home policy bs.length record.key == bucket && record.isLive) = false := by
    intro bucket' hne record hrecord
    by_cases hlive : record.isLive
    · simp [hlive, hhome bucket' record hrecord hlive, hne]
    · simp [hlive]
  rw [liveRecords, List.filter_filter, Grid.filter_flatten_of_forall_ne hother]
  apply List.filter_congr
  intro record hrecord
  by_cases hlive : record.isLive
  · simp [hlive, hhome bucket record hrecord hlive]
  · simp [hlive]

/-- Dealt to as many buckets as there are, the live slots stay in theirs. -/
theorem Placed.row_spread_length (h : bs.Placed policy) (hpos : 0 < bs.length) (bucket : Nat) :
    (Buckets.spread policy bs.length bs.liveRecords).row bucket =
      (bs.row bucket).filter SlotRecord.isLive := by
  rw [row_spread hpos, h.filter_liveRecords]

/-- Dealing the live slots to as many buckets as there are changes nothing if there is no
tombstone. -/
theorem Placed.spread_length (h : bs.Placed policy) (hpos : 0 < bs.length)
    (hlive : ∀ record ∈ bs.flatten, record.isLive = true) :
    Buckets.spread policy bs.length bs.liveRecords = bs := by
  apply Grid.ext_row (Buckets.length_spread _ _ _)
  intro bucket
  rw [h.row_spread_length hpos, List.filter_eq_self]
  intro record hrecord
  obtain ⟨item, hitem⟩ := List.mem_iff_getElem?.mp hrecord
  exact hlive record (Grid.mem_flatten_iff.mpr ⟨⟨bucket, item⟩, hitem⟩)

theorem isLive_of_mem_spread (hpos : 0 < bucketCount) {record : SlotRecord}
    (h : record ∈ (Buckets.spread policy bucketCount bs.liveRecords).flatten) :
    record.isLive = true := by
  obtain ⟨slot, hslot⟩ := Grid.mem_flatten_iff.mp h
  exact (List.mem_filter.mp (mem_of_at?_spread hpos hslot).1).2

/-- What has been dealt stays as it is when it is dealt again. -/
theorem Placed.spread_spread (h : bs.Placed policy) (hpos : 0 < bucketCount) :
    Buckets.spread policy bucketCount
        (Buckets.spread policy bucketCount bs.liveRecords).liveRecords =
      Buckets.spread policy bucketCount bs.liveRecords := by
  have hlength := Buckets.length_spread policy bucketCount bs.liveRecords
  have hsame := (h.spread_liveRecords hpos).spread_length (hlength.symm ▸ hpos)
    fun record => isLive_of_mem_spread hpos
  rwa [hlength] at hsame

/-! ## The order within a bucket -/

theorem Keyed.spread (h : bs.Keyed policy) (hpos : 0 < bucketCount) :
    (Buckets.spread policy bucketCount bs.liveRecords).Keyed policy where
  consistent := h.consistent
  placed := h.placed.spread_liveRecords hpos
  sized := h.sized.spread hpos policy
  distinct := h.distinct.spread_liveRecords h.consistent h.sized hpos
  length_pos := by rwa [Buckets.length_spread]

theorem Keyed.live?_of_locate_spread (h : bs.Keyed policy) (hpos : 0 < bucketCount) {key : Bytes}
    (hkey : key.length = policy.keySize) {slot slot' : Slot} {record : SlotRecord}
    (hslot : bs.locate policy key = some slot) (hrecord : bs.live? slot = some record)
    (hslot' : (Buckets.spread policy bucketCount bs.liveRecords).locate policy key = some slot') :
    (Buckets.spread policy bucketCount bs.liveRecords).live? slot' = some record := by
  obtain ⟨record', hrecord', hequal⟩ := ((h.spread hpos).locate_eq_some_iff hkey).mp hslot'
  have hmem := (mem_of_at?_spread hpos (live?_eq_some_iff.mp hrecord').1).1
  have hlookup := (h.lookup_eq_some_iff hkey).mpr ⟨hmem, hequal⟩
  rw [lookup, hslot, Option.bind_some, hrecord] at hlookup
  rwa [Option.some.inj hlookup]

section

variable {key key' : Bytes} {bucket bucket' item item' place place' : Nat}

/-- Two keys of one bucket that a deal leaves in one bucket keep their order. -/
theorem Keyed.item_lt_of_lt (h : bs.Keyed policy) (hpos : 0 < bucketCount)
    (hkey : key.length = policy.keySize) (hkey' : key'.length = policy.keySize)
    (hitem : bs.locate policy key = some ⟨bucket, item⟩)
    (hitem' : bs.locate policy key' = some ⟨bucket, item'⟩)
    (hplace : (Buckets.spread policy bucketCount bs.liveRecords).locate policy key =
      some ⟨bucket', place⟩)
    (hplace' : (Buckets.spread policy bucketCount bs.liveRecords).locate policy key' =
      some ⟨bucket', place'⟩) (hlt : item < item') : place < place' := by
  obtain ⟨record, hrecord, hequal⟩ := (h.locate_eq_some_iff hkey).mp hitem
  obtain ⟨record', hrecord', hequal'⟩ := (h.locate_eq_some_iff hkey').mp hitem'
  have hlive := h.live?_of_locate_spread hpos hkey hitem hrecord hplace
  have hlive' := h.live?_of_locate_spread hpos hkey' hitem' hrecord' hplace'
  obtain ⟨hat, halive⟩ := live?_eq_some_iff.mp hrecord
  obtain ⟨hat', halive'⟩ := live?_eq_some_iff.mp hrecord'
  have hhome := (mem_of_at?_spread hpos (live?_eq_some_iff.mp hlive).1).2
  have hhome' := (mem_of_at?_spread hpos (live?_eq_some_iff.mp hlive').1).2
  -- The walk meets the two records in this order, and the new bucket takes both.
  have hrow : [record, record'].Sublist bs.flatten :=
    (pair_sublist_of_lt hlt hat hat').trans
      (List.sublist_flatten_of_mem (List.mem_of_getElem?
        (Grid.getElem?_eq_some_row (Grid.bucket_lt_of_at? hat))))
  have hwalk := (hrow.filter SlotRecord.isLive).filter
    fun record => Buckets.home policy bucketCount record.key == bucket'
  have hdealt : [record, record'].Sublist
      ((Buckets.spread policy bucketCount bs.liveRecords).row bucket') := by
    simp only [List.filter_cons, halive, halive', hhome, hhome', beq_self_eq_true, if_true,
      List.filter_nil] at hwalk
    rw [row_spread hpos]
    exact hwalk
  -- Each of them has only one place there.
  obtain ⟨i, j, hij, hi, hj⟩ := exists_lt_of_pair_sublist hdealt
  have honly := ((h.spread hpos).locate_eq_some_iff hkey).mpr
    ⟨record, live?_eq_some_iff.mpr ⟨show Grid.at? _ ⟨bucket', i⟩ = some record from hi, halive⟩,
      hequal⟩
  have honly' := ((h.spread hpos).locate_eq_some_iff hkey').mpr
    ⟨record', live?_eq_some_iff.mpr ⟨show Grid.at? _ ⟨bucket', j⟩ = some record' from hj, halive'⟩,
      hequal'⟩
  rw [hplace, Option.some.injEq, Slot.mk.injEq] at honly
  rw [hplace', Option.some.injEq, Slot.mk.injEq] at honly'
  omega

theorem Keyed.place_eq_of_item_eq (h : bs.Keyed policy) (hpos : 0 < bucketCount)
    (hkey : key.length = policy.keySize) (hkey' : key'.length = policy.keySize) {slot : Slot}
    (hitem : bs.locate policy key = some slot) (hitem' : bs.locate policy key' = some slot)
    {target target' : Slot}
    (htarget : (Buckets.spread policy bucketCount bs.liveRecords).locate policy key = some target)
    (htarget' : (Buckets.spread policy bucketCount bs.liveRecords).locate policy key' =
      some target') : target = target' := by
  obtain ⟨record, hrecord, hequal⟩ := (h.locate_eq_some_iff hkey).mp hitem
  have hlive := h.live?_of_locate_spread hpos hkey hitem hrecord htarget
  have hlive' := h.live?_of_locate_spread hpos hkey' hitem' hrecord htarget'
  have hsize := h.sized.of_mem_liveRecords (mem_liveRecords_iff.mpr ⟨slot, hrecord⟩)
  exact (h.spread hpos).distinct target target' record record hlive hlive'
    (h.consistent.refl _ hsize.1)

/-- Two keys that share a bucket before a deal and share one after it keep their order. -/
theorem Keyed.item_lt_iff_spread (h : bs.Keyed policy) (hpos : 0 < bucketCount)
    (hkey : key.length = policy.keySize) (hkey' : key'.length = policy.keySize)
    (hitem : bs.locate policy key = some ⟨bucket, item⟩)
    (hitem' : bs.locate policy key' = some ⟨bucket, item'⟩)
    (hplace : (Buckets.spread policy bucketCount bs.liveRecords).locate policy key =
      some ⟨bucket', place⟩)
    (hplace' : (Buckets.spread policy bucketCount bs.liveRecords).locate policy key' =
      some ⟨bucket', place'⟩) : item < item' ↔ place < place' := by
  refine ⟨h.item_lt_of_lt hpos hkey hkey' hitem hitem' hplace hplace', fun hlt => ?_⟩
  rcases Nat.lt_trichotomy item item' with hitems | rfl | hitems
  · exact hitems
  · have hsame := h.place_eq_of_item_eq hpos hkey hkey' hitem hitem' hplace hplace'
    rw [Slot.mk.injEq] at hsame
    omega
  · have hback := h.item_lt_of_lt hpos hkey' hkey hitem' hitem hplace' hplace hitems
    omega

end

end Buckets

end ByteTable
