import ByteTable.Proofs.KeyMap

/-!
# The map that buckets hold

Each live slot is an entry, `Buckets.entries`, and under a consistent policy the operations on
buckets are those of a `KeyMap` on the entries.  Order is the only difference: a new key may take
any slot, and a rehash deals the slots anew, so what is said there is said up to permutation.

`Buckets.Keyed` collects what this takes: every search finds its key.
-/

namespace ByteTable

/-- The entry of a live slot. -/
def SlotRecord.entry (record : SlotRecord) : Entry :=
  ⟨record.key, record.value?⟩

namespace SlotRecord

@[simp] theorem isOf_entry (policy : Policy) (key : Bytes) (record : SlotRecord) :
    record.entry.isOf policy key = policy.keysEqual key record.key := rfl

theorem entry_written (value : Bytes) (record : SlotRecord) :
    (record.written value).entry = record.entry.written value := by
  rw [entry, value?, isWritten_written, if_pos rfl]
  rfl

theorem entry_reserved (policy : Policy) (key : Bytes) :
    (reserved policy key).entry = ⟨key, none⟩ := by
  rw [entry, value?, isWritten_reserved, if_neg Bool.false_ne_true]
  rfl

end SlotRecord

namespace Buckets

/-- The entries of the live slots, bucket by bucket. -/
def entries (bs : Buckets) : KeyMap :=
  bs.liveRecords.map SlotRecord.entry

/-- What the slot of a key holds. -/
def lookup (bs : Buckets) (policy : Policy) (key : Bytes) : Option SlotRecord :=
  (bs.locate policy key).bind bs.live?

/-- Whether a search under the policy finds every key that has a live slot. -/
structure Keyed (policy : Policy) (bs : Buckets) : Prop where
  consistent : policy.Consistent
  placed : bs.Placed policy
  sized : bs.Sized policy.keySize policy.valueSize
  distinct : bs.Distinct policy
  length_pos : 0 < bs.length

theorem length_entries (bs : Buckets) : bs.entries.length = bs.liveCount := by
  rw [entries, List.length_map, liveCount_eq_length]

theorem get?_eq_lookup (bs : Buckets) (policy : Policy) (key : Bytes) :
    bs.get? policy key = (bs.lookup policy key).bind SlotRecord.value? := by
  unfold get? lookup
  rcases h : bs.locate policy key with _ | slot
  · rfl
  · obtain ⟨-, record, hrecord, -⟩ := of_locate_eq_some h
    rw [Option.bind_some, Option.bind_some, hrecord, (live?_eq_some_iff.mp hrecord).1]

namespace Keyed

variable {policy : Policy} {bs : Buckets} {key value : Bytes} {slot : Slot} {record : SlotRecord}

theorem empty (hconsistent : policy.Consistent) {bucketCount : Nat} (hpos : 0 < bucketCount) :
    (Buckets.empty bucketCount).Keyed policy :=
  ⟨hconsistent, .empty policy bucketCount, .empty bucketCount _ _, .empty policy bucketCount, by
    rwa [length_empty]⟩

/-! ## Finding an entry -/

theorem locate_eq_some_iff (h : bs.Keyed policy) (hkey : key.length = policy.keySize) :
    bs.locate policy key = some slot ↔
      ∃ record, bs.live? slot = some record ∧ policy.keysEqual key record.key = true :=
  Buckets.locate_eq_some_iff h.consistent h.placed h.distinct h.sized hkey

/-- A key that has a slot has no other. -/
theorem lookup_eq_some_iff (h : bs.Keyed policy) (hkey : key.length = policy.keySize) :
    bs.lookup policy key = some record ↔
      record ∈ bs.liveRecords ∧ policy.keysEqual key record.key = true := by
  rw [lookup, Option.bind_eq_some_iff, mem_liveRecords_iff]
  constructor
  · rintro ⟨slot, hslot, hrecord⟩
    obtain ⟨record', hrecord', hequal⟩ := (h.locate_eq_some_iff hkey).mp hslot
    rw [hrecord, Option.some.injEq] at hrecord'
    exact ⟨⟨slot, hrecord⟩, hrecord' ▸ hequal⟩
  · rintro ⟨⟨slot, hrecord⟩, hequal⟩
    exact ⟨slot, (h.locate_eq_some_iff hkey).mpr ⟨record, hrecord, hequal⟩, hrecord⟩

/-- The entry of a key is that of the slot which the search finds. -/
theorem held?_eq (h : bs.Keyed policy) {m : KeyMap} (hm : m.Perm bs.entries)
    (hkey : key.length = policy.keySize) :
    m.held? policy key = (bs.lookup policy key).map SlotRecord.entry := by
  rcases hentry : m.held? policy key with _ | entry
  · rcases hlookup : bs.lookup policy key with _ | record
    · rfl
    · obtain ⟨hmem, hequal⟩ := (h.lookup_eq_some_iff hkey).mp hlookup
      have hin : record.entry ∈ m := hm.mem_iff.mpr (List.mem_map_of_mem hmem)
      rw [KeyMap.held?, List.find?_eq_none] at hentry
      exact absurd hequal (hentry record.entry hin)
  · have hin := hm.mem_iff.mp (List.mem_of_find?_eq_some hentry)
    obtain ⟨record, hmem, rfl⟩ := List.mem_map.mp hin
    have hequal : record.entry.isOf policy key = true := List.find?_some hentry
    rw [SlotRecord.isOf_entry] at hequal
    rw [(h.lookup_eq_some_iff hkey).mpr ⟨hmem, hequal⟩, Option.map_some]

theorem contains_eq (h : bs.Keyed policy) {m : KeyMap} (hm : m.Perm bs.entries)
    (hkey : key.length = policy.keySize) :
    m.contains policy key = (bs.locate policy key).isSome := by
  rw [KeyMap.contains, h.held?_eq hm hkey, Option.isSome_map, lookup]
  rcases hslot : bs.locate policy key with _ | slot
  · rfl
  · obtain ⟨-, record, hrecord, -⟩ := of_locate_eq_some hslot
    rw [Option.bind_some, hrecord]
    rfl

theorem get?_eq (h : bs.Keyed policy) {m : KeyMap} (hm : m.Perm bs.entries)
    (hkey : key.length = policy.keySize) :
    m.get? policy key = bs.get? policy key := by
  rw [KeyMap.get?, h.held?_eq hm hkey, get?_eq_lookup, Option.bind_map]
  rfl

end Keyed

/-! ## What the operations do to the entries -/

variable {policy : Policy} {bs : Buckets}

theorem liveRecords_claim {bucket : Nat} (hbucket : bucket < bs.length) {record : SlotRecord}
    (hlive : record.isLive = true) :
    (bs.claim bucket record).2.liveRecords.Perm (record :: bs.liveRecords) := by
  rw [List.perm_iff_count]
  intro other
  rw [List.count_cons, liveRecords, List.count_eq_countP, List.countP_filter, liveRecords,
    List.count_eq_countP, List.countP_filter]
  rcases h : (bs.row bucket).findIdx? (fun old => !old.isLive) with _ | item
  · rw [claim_of_eq_none h, Grid.countP_push hbucket, hlive, Bool.and_true]
  · obtain ⟨old, hold, hdead⟩ := exists_tombstone h
    have hcount := Grid.countP_update hold (fun old => old == other && old.isLive) fun _ => record
    rw [hdead, hlive, Bool.and_false, Bool.and_true, if_neg Bool.false_ne_true] at hcount
    rw [claim_of_eq_some h]
    exact hcount

/-- Spreading the live records only changes their order. -/
theorem liveRecords_spread (policy : Policy) {bucketCount : Nat} (hpos : 0 < bucketCount)
    (bs : Buckets) :
    (spread policy bucketCount bs.liveRecords).liveRecords.Perm bs.liveRecords := by
  have hlive : bs.liveRecords.filter SlotRecord.isLive = bs.liveRecords := by
    rw [List.filter_eq_self]
    exact fun record hrecord => (List.mem_filter.mp hrecord).2
  have hperm : (spread policy bucketCount bs.liveRecords).flatten.Perm bs.liveRecords :=
    perm_flatten_spread hpos
  have hfiltered := hperm.filter SlotRecord.isLive
  rwa [hlive] at hfiltered

/-- Changing a slot is changing every record of which it is the only place. -/
theorem update_eq_image {slot : Slot} {p : SlotRecord → Bool} (f : SlotRecord → SlotRecord)
    (hslot : ∀ place record, bs.at? place = some record → (p record = true ↔ place = slot)) :
    Grid.update bs slot f =
      Grid.image (fun record => if p record then f record else record) bs := by
  apply Grid.ext_at? (by simp)
  intro place
  rw [Grid.at?_update, Grid.at?_image]
  rcases hplace : bs.at? place with _ | record
  · split <;> rfl
  · by_cases heq : place = slot
    · rw [if_pos heq, Option.map_some, Option.map_some,
        if_pos ((hslot place record hplace).mpr heq)]
    · rw [if_neg heq, Option.map_some,
        if_neg fun hp => heq ((hslot place record hplace).mp hp)]

theorem entries_spread (policy : Policy) {bucketCount : Nat} (hpos : 0 < bucketCount)
    (bs : Buckets) : (spread policy bucketCount bs.liveRecords).entries.Perm bs.entries :=
  (liveRecords_spread policy hpos bs).map SlotRecord.entry

namespace Keyed

variable {key : Bytes} {slot : Slot} {record : SlotRecord}

/-- The live record of a key is the only one that is the same. -/
theorem only_place (h : bs.Keyed policy) (hkey : key.length = policy.keySize)
    (hslot : bs.locate policy key = some slot) {place : Slot} {record : SlotRecord}
    (hplace : bs.at? place = some record) :
    (record.isLive && policy.keysEqual key record.key) = true ↔ place = slot := by
  rw [Bool.and_eq_true]
  constructor
  · rintro ⟨hlive, hequal⟩
    have hlocate := (h.locate_eq_some_iff hkey).mpr
      ⟨record, live?_eq_some_iff.mpr ⟨hplace, hlive⟩, hequal⟩
    rw [hslot, Option.some.injEq] at hlocate
    exact hlocate.symm
  · rintro rfl
    obtain ⟨record', hrecord', hequal⟩ := (h.locate_eq_some_iff hkey).mp hslot
    obtain ⟨hat, hlive⟩ := live?_eq_some_iff.mp hrecord'
    rw [hplace, Option.some.injEq] at hat
    exact hat ▸ ⟨hlive, hequal⟩

/-- Writing to the slot of a key writes its value in the map. -/
theorem entries_write (h : bs.Keyed policy) (hkey : key.length = policy.keySize)
    (hslot : bs.locate policy key = some slot) (value : Bytes) :
    (bs.write slot value).entries = bs.entries.assign policy key value := by
  have himage := update_eq_image (.written value) fun _ _ => h.only_place hkey hslot
  have hlive : SlotRecord.isLive ∘ (fun record : SlotRecord =>
      if record.isLive && policy.keysEqual key record.key then record.written value else record) =
      SlotRecord.isLive := by
    funext record
    rw [Function.comp_apply]
    split <;> simp
  rw [entries, liveRecords, write, himage, Grid.image, ← List.map_flatten, List.filter_map, hlive,
    ← liveRecords, entries, KeyMap.assign, List.map_map, List.map_map]
  refine List.map_congr_left ?_
  intro record hrecord
  rw [Function.comp_apply, Function.comp_apply, (List.mem_filter.mp hrecord).2, Bool.true_and,
    SlotRecord.isOf_entry]
  split
  · exact SlotRecord.entry_written value record
  · rfl

/-- Burying the slot of a key removes it from the map. -/
theorem entries_bury (h : bs.Keyed policy) (hkey : key.length = policy.keySize)
    (hslot : bs.locate policy key = some slot) :
    (bs.bury slot).entries = bs.entries.erase policy key := by
  have himage := update_eq_image .removed fun _ _ => h.only_place hkey hslot
  have hlive : SlotRecord.isLive ∘ (fun record : SlotRecord =>
      if record.isLive && policy.keysEqual key record.key then record.removed else record) =
      fun record => !policy.keysEqual key record.key && record.isLive := by
    funext record
    rw [Function.comp_apply]
    cases hrecord : record.isLive <;> cases hequal : policy.keysEqual key record.key <;>
      simp [hrecord]
  rw [entries, liveRecords, bury, himage, Grid.image, ← List.map_flatten, List.filter_map, hlive,
    entries, KeyMap.erase, List.filter_map, liveRecords, List.filter_filter, List.map_map]
  refine List.map_congr_left ?_
  intro record hrecord
  have hother := (Bool.and_eq_true_iff.mp (List.mem_filter.mp hrecord).2).1
  rw [Bool.not_eq_true'] at hother
  rw [Function.comp_apply, hother, Bool.and_false, if_neg Bool.false_ne_true]

theorem entries_reserve (h : bs.Keyed policy) (hkey : key.length = policy.keySize) :
    (bs.reserve policy key).2.entries.Perm (bs.entries.reserve policy key) := by
  have hcontains := h.contains_eq (.refl bs.entries) hkey
  rcases hslot : bs.locate policy key with _ | slot
  · rw [hslot] at hcontains
    rw [KeyMap.reserve, hcontains, Option.isSome_none, if_neg Bool.false_ne_true]
    simp only [reserve, hslot]
    have hclaim := liveRecords_claim (home_lt policy h.length_pos key)
      (SlotRecord.isLive_reserved policy key)
    have hentries := hclaim.map SlotRecord.entry
    rwa [List.map_cons, SlotRecord.entry_reserved] at hentries
  · rw [hslot] at hcontains
    rw [KeyMap.reserve, hcontains, Option.isSome_some, if_pos rfl]
    simp only [reserve, hslot]
    exact .refl _

/-! ## A reserved key -/

theorem reserve (h : bs.Keyed policy) (hkey : key.length = policy.keySize) :
    (bs.reserve policy key).2.Keyed policy where
  consistent := h.consistent
  placed := h.placed.reserve h.length_pos key
  sized := h.sized.reserve h.length_pos hkey
  distinct := h.distinct.reserve h.consistent h.placed h.sized h.length_pos hkey
  length_pos := (length_reserve bs policy key).symm ▸ h.length_pos

theorem locate_reserve (h : bs.Keyed policy) (hkey : key.length = policy.keySize) :
    (bs.reserve policy key).2.locate policy key = some (bs.reserve policy key).1.slot := by
  refine ((h.reserve hkey).locate_eq_some_iff hkey).mpr ?_
  rcases hslot : bs.locate policy key with _ | slot
  · simp only [Buckets.reserve, hslot]
    refine ⟨.reserved policy key, ?_, h.consistent.refl key hkey⟩
    rw [live?_claim (home_lt policy h.length_pos key) (SlotRecord.isLive_reserved policy key),
      if_pos rfl]
  · simp only [Buckets.reserve, hslot]
    exact (h.locate_eq_some_iff hkey).mp hslot

theorem entries_insert (h : bs.Keyed policy) (hkey : key.length = policy.keySize)
    (value : Bytes) :
    (bs.insert policy key value).entries.Perm (bs.entries.insert policy key value) := by
  rw [insert, (h.reserve hkey).entries_write hkey (h.locate_reserve hkey) value]
  exact KeyMap.assign_perm (h.entries_reserve hkey) key value

theorem entries_erase (h : bs.Keyed policy) (hkey : key.length = policy.keySize) :
    (bs.erase policy key).entries = bs.entries.erase policy key := by
  rcases hslot : bs.locate policy key with _ | slot
  · simp only [erase, hslot]
    rw [KeyMap.erase_of_contains_eq_false]
    rw [h.contains_eq (.refl bs.entries) hkey, hslot]
    rfl
  · simp only [erase, hslot]
    exact h.entries_bury hkey hslot

end Keyed

end Buckets

end ByteTable
