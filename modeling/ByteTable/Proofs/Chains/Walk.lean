import ByteTable.Chains.Walk
import ByteTable.Proofs.Buckets.Walk
import ByteTable.Proofs.Layout.Lawful

/-!
# Searching and walking a lawful layout

Every search and every walk over a layout is one over the buckets that it shows.  The searches of a
bucket are `List.findIdx?` on its row; the two scans find the neighbours of a place in the list of
the live slots.

A scan goes on in the next bucket when it finds nothing in the rest of the present one, and the
slots from a place on (`Buckets.slotsFrom`), or below it, divide in the same way, so each scan
follows by induction over the buckets that are left.
-/

namespace ByteTable

theorem find?_range_eq_findIdx? {α : Type} (row : List α) (p : α → Bool) :
    (List.range row.length).find? (fun item => row[item]?.any p) = row.findIdx? p := by
  induction row with
  | nil => rfl
  | cons a row ih =>
    rw [List.length_cons, List.range_succ_eq_map, List.find?_cons, List.findIdx?_cons,
      List.find?_map]
    cases hp : p a with
    | true => simp [hp]
    | false => simpa [hp, Function.comp_def] using congrArg (Option.map (· + 1)) ih

namespace Layout

open LawfulLayout Buckets

variable {L : Type} [Layout L] [LawfulLayout L] {layout : L} {keySize valueSize : Nat}
  {bs : Buckets}

/-! ## Searching a bucket -/

theorem isLive_eq (h : Shows layout keySize valueSize bs) {slot : Slot} {record : SlotRecord}
    (hslot : bs.at? slot = some record) : isLive layout slot = .ok record.isLive := by
  rw [isLive, wordAt_eq h hslot]
  rfl

theorem holds_eq (h : Shows layout keySize valueSize bs) {slot : Slot} {record : SlotRecord}
    (hslot : bs.at? slot = some record) (policy : Policy) (key : Bytes) :
    holds layout policy (policy.hash key) key slot = .ok (record.holds policy key) := by
  rw [holds, wordAt_eq h hslot, ok_bind, SlotRecord.holds]
  by_cases hagrees : record.word.agrees (policy.hash key)
  · rw [if_pos hagrees, keyAt_eq h hslot, hagrees]
    rfl
  · rw [if_neg hagrees, Bool.eq_false_iff.mpr hagrees]
    rfl

theorem findM?_range_eq {look : Nat → Except Crash Bool} {p : SlotRecord → Bool} {bucket : Nat}
    (hlook : ∀ item record, bs.at? ⟨bucket, item⟩ = some record → look item = .ok (p record)) :
    (List.range (bs.row bucket).length).findM? look = .ok ((bs.row bucket).findIdx? p) := by
  have hrange : ∀ item ∈ List.range (bs.row bucket).length,
      look item = .ok ((bs.row bucket)[item]?.any p) := by
    intro item hitem
    have hslot := List.getElem?_eq_getElem (List.mem_range.mp hitem)
    rw [hlook item _ hslot, hslot, Option.any_some]
  rw [findM?_eq_ok hrange, find?_range_eq_findIdx?]

theorem probe_eq (h : Shows layout keySize valueSize bs) {bucket : Nat}
    (hbucket : bucket < bs.length) (policy : Policy) (key : Bytes) :
    probe layout policy bucket (policy.hash key) key =
      .ok ((bs.row bucket).findIdx? (SlotRecord.holds policy key)) := by
  rw [probe, bucketLength_eq h hbucket, ok_bind]
  exact findM?_range_eq fun item record hslot => holds_eq h hslot policy key

theorem firstTombstone?_eq (h : Shows layout keySize valueSize bs) {bucket : Nat}
    (hbucket : bucket < bs.length) :
    firstTombstone? layout bucket =
      .ok ((bs.row bucket).findIdx? fun record => !record.isLive) := by
  rw [firstTombstone?, bucketLength_eq h hbucket, ok_bind]
  refine findM?_range_eq fun item record hslot => ?_
  rw [isLive_eq h hslot]
  rfl

/-! ## Scanning -/

theorem isLive_eq_isLiveAt (h : Shows layout keySize valueSize bs) {bucket item : Nat}
    (hitem : item < (bs.row bucket).length) :
    isLive layout ⟨bucket, item⟩ = .ok (bs.isLiveAt ⟨bucket, item⟩) := by
  have hexists : ∃ record, bs.at? ⟨bucket, item⟩ = some record := Grid.exists_at?_of_item_lt hitem
  obtain ⟨record, hslot⟩ := hexists
  rw [isLive_eq h hslot, isLiveAt, live?, hslot, Option.filter_some]
  cases record.isLive with
  | true => rfl
  | false => rfl

theorem firstLiveFrom?_eq (h : Shows layout keySize valueSize bs) {bucket : Nat}
    (hbucket : bucket < bs.length) (item : Nat) :
    firstLiveFrom? layout bucket item =
      .ok ((List.range' item ((bs.row bucket).length - item)).find? fun item =>
        bs.isLiveAt ⟨bucket, item⟩) := by
  rw [firstLiveFrom?, bucketLength_eq h hbucket, ok_bind]
  refine findM?_eq_ok fun item' hitem' => isLive_eq_isLiveAt h ?_
  have hrange := List.mem_range'_1.mp hitem'
  omega

theorem lastLiveBelow?_eq (h : Shows layout keySize valueSize bs) {bucket item : Nat}
    (hitem : item ≤ (bs.row bucket).length) :
    lastLiveBelow? layout bucket item =
      .ok ((List.range item).filter fun item => bs.isLiveAt ⟨bucket, item⟩).getLast? := by
  induction item with
  | zero => rfl
  | succ item ih =>
    rw [lastLiveBelow?, isLive_eq_isLiveAt h hitem, ok_bind, List.range_succ, List.filter_append,
      List.getLast?_append]
    cases hlive : bs.isLiveAt ⟨bucket, item⟩ with
    | true => simp [hlive, pure, Except.pure]
    | false => simpa [hlive] using ih (Nat.le_of_succ_le hitem)

/-- An upward scan finds the first live slot from its place on. -/
theorem scanForward_eq (h : Shows layout keySize valueSize bs) {bucket : Nat}
    (hbucket : bucket < bs.length) (item : Nat) :
    scanForward layout bucket item =
      .ok (cursorOf ((bs.slotsFrom bucket item).find? bs.isLiveAt)) := by
  rw [scanForward, bucketCount_eq h, if_pos hbucket, firstLiveFrom?_eq h hbucket, ok_bind,
    slotsFrom, List.find?_append, List.find?_map]
  rcases hfound : (List.range' item ((bs.row bucket).length - item)).find?
    (fun item => bs.isLiveAt ⟨bucket, item⟩) with _ | found
  · have hnone : (List.range' item ((bs.row bucket).length - item)).find?
        (bs.isLiveAt ∘ Slot.mk bucket) = none := hfound
    rw [hnone, Option.map_none, Option.none_or]
    by_cases hnext : bucket + 1 < bs.length
    · rw [← slotsFrom_zero hnext]
      exact scanForward_eq h hnext 0
    · rw [Nat.sub_eq_zero_of_le (Nat.not_lt.mp hnext), List.range'_zero, List.flatMap_nil]
      dsimp only
      rw [scanForward, bucketCount_eq h, if_neg hnext]
      rfl
  · have hsome : (List.range' item ((bs.row bucket).length - item)).find?
        (bs.isLiveAt ∘ Slot.mk bucket) = some found := hfound
    rw [hsome, Option.map_some, Option.some_or]
    rfl
termination_by bs.length - bucket

/-- A downward scan finds the last live slot below its place. -/
theorem scanBackward_eq (h : Shows layout keySize valueSize bs) {bucket item : Nat}
    (hbucket : bucket < bs.length) (hitem : item ≤ (bs.row bucket).length) :
    scanBackward layout bucket item =
      .ok (cursorOf ((bs.slotsBelow bucket item).filter bs.isLiveAt).getLast?) := by
  have hlast : ((List.range item).map (Slot.mk bucket)).filter bs.isLiveAt =
      ((List.range item).filter fun item => bs.isLiveAt ⟨bucket, item⟩).map (Slot.mk bucket) :=
    List.filter_map
  rw [slotsBelow, List.filter_append, List.getLast?_append, hlast, List.getLast?_map]
  induction bucket generalizing item with
  | zero =>
    rw [scanBackward, lastLiveBelow?_eq h hitem, ok_bind]
    rcases ((List.range item).filter fun item => bs.isLiveAt ⟨0, item⟩).getLast? with _ | found
    · rfl
    · rfl
  | succ bucket ih =>
    rw [scanBackward, lastLiveBelow?_eq h hitem, ok_bind]
    rcases ((List.range item).filter fun item => bs.isLiveAt ⟨bucket + 1, item⟩).getLast?
      with _ | found
    · have hbelow : bucket < bs.length := Nat.lt_of_succ_lt hbucket
      have hrest := ih hbelow (Nat.le_refl (bs.row bucket).length) List.filter_map
      dsimp only
      rw [bucketLength_eq h hbelow, ok_bind, hrest, Option.map_none, Option.none_or,
        ← slotsBelow_length, slotsBelow, List.filter_append, List.getLast?_append, List.filter_map,
        List.getLast?_map]
      rfl
    · rfl

/-! ## All slots -/

theorem liveItems_eq (h : Shows layout keySize valueSize bs) {bucket : Nat}
    (hbucket : bucket < bs.length) :
    liveItems layout bucket = .ok ((bs.rowSlots bucket).filter bs.isLiveAt) := by
  rw [liveItems, bucketLength_eq h hbucket, ok_bind]
  refine filterM_eq_ok ?_
  intro slot hslot
  obtain ⟨rfl, hitem⟩ := mem_rowSlots_iff.mp hslot
  exact isLive_eq_isLiveAt h hitem

theorem liveSlots_eq (h : Shows layout keySize valueSize bs) :
    liveSlots layout = .ok bs.liveSlots := by
  have hitems : ∀ bucket ∈ List.range bs.length,
      liveItems layout bucket = .ok ((bs.rowSlots bucket).filter bs.isLiveAt) :=
    fun bucket hbucket => liveItems_eq h (List.mem_range.mp hbucket)
  rw [liveSlots, bucketCount_eq h, mapM_eq_ok hitems, ok_bind, Buckets.liveSlots, slots,
    List.filter_flatMap, List.flatMap_def]
  rfl

theorem foldl_bucketLength_eq (h : Shows layout keySize valueSize bs) (buckets : List Nat)
    (hbuckets : ∀ bucket ∈ buckets, bucket < bs.length) (count : Nat) :
    buckets.foldl (fun count bucket =>
      match bucketLength layout bucket with
      | .ok length => count + length
      | .error _ => count) count = count + (buckets.flatMap bs.rowSlots).length := by
  induction buckets generalizing count with
  | nil => rfl
  | cons bucket buckets ih =>
    have hrow : (bs.rowSlots bucket).length = (bs.row bucket).length := by
      rw [rowSlots, List.length_map, List.length_range]
    rw [List.foldl_cons, bucketLength_eq h (hbuckets bucket List.mem_cons_self),
      ih (fun bucket' hbucket' => hbuckets bucket' (List.mem_cons_of_mem bucket hbucket')),
      List.flatMap_cons, List.length_append, hrow, Nat.add_assoc]

theorem slotCount_eq (h : Shows layout keySize valueSize bs) :
    slotCount layout = bs.slots.length := by
  have hcount := foldl_bucketLength_eq h (List.range bs.length)
    (fun bucket hbucket => List.mem_range.mp hbucket) 0
  rw [Nat.zero_add] at hcount
  rw [slotCount, bucketCount_eq h]
  exact hcount

end Layout

end ByteTable
