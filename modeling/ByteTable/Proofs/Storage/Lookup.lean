import ByteTable.Proofs.Storage.Exact
import Mathlib.Data.Set.Card

/-!
# A search sees what a full scan sees

A search looks into one bucket, the one that the hash of the key selects, and there it compares keys
only where the truncated hashes agree.  Under a consistent policy nothing is hidden by this: in
every storage that operations have led to, the search finds a key exactly if some live slot, in any
bucket, holds a key that is the same, and then it stops at the only such slot
(`StorageKind.Searchable`).

So the count of live slots is a count of keys.  As a comparator may take different bytes for the
same key, what is counted are the classes of keys that it does not tell apart (`Policy.keyClass`).
-/

namespace ByteTable

open LawfulSlotStorage LawfulKeyedStorage LawfulStorage

/-! ## Classes of keys -/

/-- The keys that a policy takes for the same as a key. -/
def Policy.keyClass (policy : Policy) (key : Bytes) : Set Bytes :=
  {other | other.length = policy.keySize ∧ policy.keysEqual key other = true}

/-- Two keys have the same class exactly if they are the same. -/
theorem Policy.Consistent.keyClass_eq_iff {policy : Policy} (h : policy.Consistent) {a b : Bytes}
    (ha : a.length = policy.keySize) (hb : b.length = policy.keySize) :
    policy.keyClass a = policy.keyClass b ↔ policy.keysEqual a b = true := by
  constructor
  · intro hclass
    have hmem : b ∈ policy.keyClass b := ⟨hb, h.refl b hb⟩
    rw [← hclass] at hmem
    exact hmem.2
  · intro hab
    have hba := h.symm a b ha hb hab
    ext other
    constructor
    · rintro ⟨hother, hequal⟩
      exact ⟨hother, h.trans b a other hb ha hother hba hequal⟩
    · rintro ⟨hother, hequal⟩
      exact ⟨hother, h.trans a b other ha hb hother hab hequal⟩

namespace Buckets

variable {policy : Policy} {bs : Buckets} {valueSize : Nat}

/-- A search finds the key of a live record. -/
theorem exists_locate_eq_some_iff (hconsistent : policy.Consistent) (hplaced : bs.Placed policy)
    (hdistinct : bs.Distinct policy) (hsized : bs.Sized policy.keySize valueSize) {key : Bytes}
    (hkey : key.length = policy.keySize) :
    (∃ slot, bs.locate policy key = some slot) ↔
      ∃ record ∈ bs.liveRecords, policy.keysEqual key record.key = true := by
  constructor
  · rintro ⟨slot, hlocate⟩
    obtain ⟨record, hslot, hequal⟩ :=
      (locate_eq_some_iff hconsistent hplaced hdistinct hsized hkey).mp hlocate
    exact ⟨record, mem_liveRecords_iff.mpr ⟨slot, hslot⟩, hequal⟩
  · rintro ⟨record, hrecord, hequal⟩
    obtain ⟨slot, hslot⟩ := mem_liveRecords_iff.mp hrecord
    exact ⟨slot, (locate_eq_some_iff hconsistent hplaced hdistinct hsized hkey).mpr
      ⟨record, hslot, hequal⟩⟩

theorem isTombstone_eq_false_of_locate {key : Bytes} {slot : Slot} {record : SlotRecord}
    (h : bs.locate policy key = some slot) (hslot : bs.at? slot = some record) :
    record.word.isTombstone = false := by
  obtain ⟨-, found, hfound, -⟩ := of_locate_eq_some h
  obtain ⟨hat, hlive⟩ := live?_eq_some_iff.mp hfound
  rw [hslot, Option.some.injEq] at hat
  rwa [← hat, SlotRecord.isLive, Bool.not_eq_true'] at hlive

/-- A key whose slot is made a tombstone is not found in another. -/
theorem locate_bury_eq_none (hconsistent : policy.Consistent) (hplaced : bs.Placed policy)
    (hdistinct : bs.Distinct policy) (hsized : bs.Sized policy.keySize valueSize) {key : Bytes}
    (hkey : key.length = policy.keySize) {slot : Slot} (h : bs.locate policy key = some slot) :
    (bs.bury slot).locate policy key = none := by
  rw [Option.eq_none_iff_forall_ne_some]
  intro place hplace
  obtain ⟨-, other, hother, hholds⟩ := of_locate_eq_some hplace
  obtain ⟨hne, hlive⟩ := live?_bury_eq_some_iff.mp hother
  have hagain := (locate_eq_some_iff hconsistent hplaced hdistinct hsized hkey).mpr
    ⟨other, hlive, (Bool.and_eq_true_iff.mp hholds).2⟩
  rw [h, Option.some.injEq] at hagain
  exact hne hagain.symm

/-- The keys that a search finds fall into as many classes as there are live slots. -/
theorem encard_foundClasses (hconsistent : policy.Consistent) (hplaced : bs.Placed policy)
    (hdistinct : bs.Distinct policy) (hsized : bs.Sized policy.keySize valueSize) :
    {found | ∃ key, key.length = policy.keySize ∧ (∃ slot, bs.locate policy key = some slot) ∧
      found = policy.keyClass key}.encard = bs.liveCount := by
  classical
  have hclasses : {found | ∃ key, key.length = policy.keySize ∧
      (∃ slot, bs.locate policy key = some slot) ∧ found = policy.keyClass key} =
      ((bs.liveRecords.map fun record => policy.keyClass record.key).toFinset :
        Set (Set Bytes)) := by
    ext found
    rw [Finset.mem_coe, List.mem_toFinset, List.mem_map]
    constructor
    · rintro ⟨key, hkey, hlocate, rfl⟩
      obtain ⟨record, hrecord, hequal⟩ :=
        (exists_locate_eq_some_iff hconsistent hplaced hdistinct hsized hkey).mp hlocate
      have hsize := (hsized.of_mem_liveRecords hrecord).1
      exact ⟨record, hrecord, ((hconsistent.keyClass_eq_iff hkey hsize).mpr hequal).symm⟩
    · rintro ⟨record, hrecord, rfl⟩
      have hsize := (hsized.of_mem_liveRecords hrecord).1
      refine ⟨record.key, hsize, ?_, rfl⟩
      exact (exists_locate_eq_some_iff hconsistent hplaced hdistinct hsized hsize).mpr
        ⟨record, hrecord, hconsistent.refl record.key hsize⟩
  have hnodup : (bs.liveRecords.map fun record => policy.keyClass record.key).Nodup := by
    rw [List.nodup_iff_pairwise_ne, List.pairwise_map]
    refine hdistinct.pairwise_liveRecords.imp_of_mem ?_
    intro earlier later hearlier hlater hdifferent hclass
    have hequal := (hconsistent.keyClass_eq_iff (hsized.of_mem_liveRecords hearlier).1
      (hsized.of_mem_liveRecords hlater).1).mp hclass
    rw [hdifferent.1] at hequal
    cases hequal
  rw [hclasses, Set.encard_coe_eq_coe_finsetCard, List.toFinset_card_of_nodup hnodup,
    List.length_map, liveCount_eq_length]

end Buckets

/-! ## Searching a storage -/

namespace StorageKind

/-- Whether a slot exists and this is what it holds, be it live or a tombstone. -/
def Stores (kind : StorageKind) (storage : kind.Store) (slot : Slot) (record : SlotRecord) : Prop :=
  ∃ buckets, kind.contents storage = .ok buckets ∧ buckets.at? slot = some record

/-- Whether a slot is live and its key is the same as one that is looked up. -/
def HasKey (kind : StorageKind) (policy : Policy) (storage : kind.Store) (key : Bytes)
    (slot : Slot) : Prop :=
  ∃ record, kind.Stores storage slot record ∧ record.word.isTombstone = false ∧
    policy.keysEqual key record.key = true

/-- Whether searching a storage agrees with looking at all its slots. -/
structure Searchable (kind : StorageKind) (policy : Policy) (storage : kind.Store) : Prop where
  locate_eq_some_iff (key : Bytes) (slot : Slot) : key.length = policy.keySize →
    (SlotStorage.locate storage policy key = .ok (some slot) ↔ kind.HasKey policy storage key slot)
  locate_eq_none_iff (key : Bytes) : key.length = policy.keySize →
    (SlotStorage.locate storage policy key = .ok none ↔
      ∀ slot, ¬kind.HasKey policy storage key slot)
  slot_unique (key : Bytes) (slot slot' : Slot) : key.length = policy.keySize →
    kind.HasKey policy storage key slot → kind.HasKey policy storage key slot' → slot = slot'
  /-- No search stops at a tombstone, whatever key it is for. -/
  locate_ne_of_isTombstone (key : Bytes) (slot : Slot) (record : SlotRecord) :
    kind.Stores storage slot record → record.word.isTombstone = true →
    SlotStorage.locate storage policy key ≠ .ok (some slot)
  /-- A removed key is not found again, although its slot keeps the bytes. -/
  erase_locate (key : Bytes) (slot : Slot) (record : SlotRecord) : key.length = policy.keySize →
    SlotStorage.locate storage policy key = .ok (some slot) → kind.Stores storage slot record →
    kind.Stores ((KeyedStorage.erase policy key).run storage).state slot
        { record with word := record.word.tombstoned } ∧
      SlotStorage.locate ((KeyedStorage.erase policy key).run storage).state policy key = .ok none
  encard_foundClasses : {found | ∃ key, key.length = policy.keySize ∧
    (∃ slot, SlotStorage.locate storage policy key = .ok (some slot)) ∧
      found = policy.keyClass key}.encard = SlotStorage.size storage

variable {kind : StorageKind} {policy : Policy} {storage : kind.Store} {bs : Buckets}
  {keySize valueSize : Nat}

theorem stores_iff (h : Shows storage keySize valueSize bs) {slot : Slot} {record : SlotRecord} :
    kind.Stores storage slot record ↔ bs.at? slot = some record := by
  rw [Stores, contents_eq h]
  constructor
  · rintro ⟨buckets, hbuckets, hslot⟩
    cases hbuckets
    exact hslot
  · intro hslot
    exact ⟨bs, rfl, hslot⟩

theorem hasKey_iff (h : Shows storage keySize valueSize bs) {key : Bytes} {slot : Slot} :
    kind.HasKey policy storage key slot ↔
      ∃ record, bs.live? slot = some record ∧ policy.keysEqual key record.key = true := by
  simp only [HasKey, stores_iff h, Buckets.live?_eq_some_iff, SlotRecord.isLive,
    Bool.not_eq_true', and_assoc]

theorem locate_eq_ok_iff (h : Shows storage keySize valueSize bs) {key : Bytes}
    {slot? : Option Slot} :
    SlotStorage.locate storage policy key = .ok slot? ↔ bs.locate policy key = slot? := by
  rw [locate_eq h, Except.ok.injEq]

/-- What shows buckets under all three invariants can be searched. -/
theorem searchable_of_keeps (hconsistent : policy.Consistent)
    (h : Storage.Keeps policy bs storage) : kind.Searchable policy storage := by
  have hsized := sized h.shows
  have hdistinct := h.distinct hconsistent
  have hlocate : ∀ (key : Bytes) (slot : Slot), key.length = policy.keySize →
      (bs.locate policy key = some slot ↔ kind.HasKey policy storage key slot) := by
    intro key slot hkey
    rw [hasKey_iff h.shows]
    exact Buckets.locate_eq_some_iff hconsistent h.placed hdistinct hsized hkey
  constructor
  case locate_eq_some_iff =>
    intro key slot hkey
    rw [locate_eq_ok_iff h.shows]
    exact hlocate key slot hkey
  case locate_eq_none_iff =>
    intro key hkey
    rw [locate_eq_ok_iff h.shows, Option.eq_none_iff_forall_ne_some]
    exact forall_congr' fun slot => not_congr (hlocate key slot hkey)
  case slot_unique =>
    intro key slot slot' hkey hslot hslot'
    have hfound := (hlocate key slot hkey).mpr hslot
    rw [(hlocate key slot' hkey).mpr hslot', Option.some.injEq] at hfound
    exact hfound.symm
  case locate_ne_of_isTombstone =>
    intro key slot record hslot htombstone hfound
    rw [locate_eq_ok_iff h.shows] at hfound
    rw [Buckets.isTombstone_eq_false_of_locate hfound ((stores_iff h.shows).mp hslot)] at htombstone
    cases htombstone
  case erase_locate =>
    intro key slot record hkey hfound hslot
    rw [locate_eq_ok_iff h.shows] at hfound
    obtain ⟨storage', hrun, hshows⟩ := run_erase h.shows policy key
    have herase : bs.erase policy key = bs.bury slot := by
      simp only [Buckets.erase, hfound]
    rw [herase] at hshows
    rw [hrun]
    constructor
    · rw [stores_iff hshows]
      exact Grid.at?_update_of_eq_some ((stores_iff h.shows).mp hslot) SlotRecord.removed
    · rw [locate_eq_ok_iff hshows]
      exact Buckets.locate_bury_eq_none hconsistent h.placed hdistinct hsized hkey hfound
  case encard_foundClasses =>
    simp only [locate_eq_ok_iff h.shows, size_eq h.shows]
    exact Buckets.encard_foundClasses hconsistent h.placed hdistinct hsized

end StorageKind

/-- Under a consistent policy a search finds what a scan of all slots finds, and the count is that
of the classes of keys that are found; a rehash keeps the count and the keys that are found. -/
theorem Storage.Reachable.searchable_rehash {kind : StorageKind} {policy : Policy}
    {storage : kind.Store} (h : Storage.Reachable policy storage)
    (hconsistent : policy.Consistent) :
    kind.Searchable policy storage ∧
      ∀ (memory : Memory) (bucketCount : Nat) (after : kind.Store), 0 < bucketCount →
        ((Storage.rehash memory policy bucketCount).run storage).state = after →
        kind.Searchable policy after ∧ SlotStorage.size after = SlotStorage.size storage ∧
          ∀ key : Bytes, key.length = policy.keySize →
            ((∃ slot, SlotStorage.locate after policy key = .ok (some slot)) ↔
              ∃ slot, SlotStorage.locate storage policy key = .ok (some slot)) := by
  obtain ⟨bs, hkeeps⟩ := h.exists_keeps
  refine ⟨StorageKind.searchable_of_keeps hconsistent hkeeps, ?_⟩
  intro memory bucketCount after hpos hafter
  obtain ⟨bs', hkeeps', hperm⟩ := hkeeps.exists_keeps_rehash memory hpos
  rw [hafter] at hkeeps'
  refine ⟨StorageKind.searchable_of_keeps hconsistent hkeeps', ?_, ?_⟩
  · rw [size_eq hkeeps.shows, size_eq hkeeps'.shows, Buckets.liveCount_eq_length,
      Buckets.liveCount_eq_length, hperm.length_eq]
  · intro key hkey
    simp only [StorageKind.locate_eq_ok_iff hkeeps.shows,
      StorageKind.locate_eq_ok_iff hkeeps'.shows]
    rw [Buckets.exists_locate_eq_some_iff hconsistent hkeeps'.placed (hkeeps'.distinct hconsistent)
        (sized hkeeps'.shows) hkey,
      Buckets.exists_locate_eq_some_iff hconsistent hkeeps.placed (hkeeps.distinct hconsistent)
        (sized hkeeps.shows) hkey]
    simp only [hperm.mem_iff]

/-- A written key next to the tombstone of another one, in chains. -/
theorem Storage.searchable_rehash_of_one_key :
    ∃ storage after : StorageKind.Store (.chains .fullySeparated),
      Storage.Reachable (.standard 1 1) storage ∧ (Policy.standard 1 1).Consistent ∧
        StorageKind.Searchable (.chains .fullySeparated) (.standard 1 1) storage ∧
        ((Storage.rehash Memory.full (.standard 1 1) 5).run storage).state = after ∧
        StorageKind.Searchable (.chains .fullySeparated) (.standard 1 1) after ∧
        SlotStorage.size after = 1 := by
  have hone : List.length ([1] : Bytes) = (Policy.standard 1 1).keySize := rfl
  have htwo : List.length ([2] : Bytes) = (Policy.standard 1 1).keySize := rfl
  have hnine : List.length ([9] : Bytes) = (Policy.standard 1 1).valueSize := rfl
  have hcreate : (SlotStorage.create Memory.full 1 1 2 :
      Except TableError (StorageKind.Store (.chains .fullySeparated))) = .ok _ := rfl
  have hnew : Storage.Reachable (.standard 1 1) _ := .created (by decide) hcreate
  have hreserved := hnew.reserve (by decide +kernel) Memory.full hone
  have hinserted := hreserved.insert (by decide +kernel) Memory.full htwo hnine
  obtain ⟨storage, hstorage, hsize⟩ :
      ∃ storage : StorageKind.Store (.chains .fullySeparated),
        Storage.Reachable (.standard 1 1) storage ∧ SlotStorage.size storage = 1 :=
    ⟨_, hinserted.erase [1], by decide +kernel⟩
  have hconsistent : (Policy.standard 1 1).Consistent := Policy.consistent_of_bytewise rfl
  obtain ⟨hsearchable, hrehash⟩ := hstorage.searchable_rehash hconsistent
  obtain ⟨hafter, hcount, -⟩ := hrehash Memory.full 5 _ (by decide) rfl
  exact ⟨storage, _, hstorage, hconsistent, hsearchable, rfl, hafter, hcount.trans hsize⟩

end ByteTable
