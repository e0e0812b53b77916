import ByteTable.Proofs.Slot.Codec
import ByteTable.Proofs.Storage.Cursor
import ByteTable.Proofs.Table.Alike
import ByteTable.Proofs.Table.Lasting

/-!
# One handle for each slot

A live slot is come by in two ways: an enumerator walks to it, and a search hashes a key and probes.
Both pack the slot, the enumerator with the number of buckets in the storage and the table with its
own copy of it, and `Table.Names` says that the handle is the same.  The two numbers agree
whatever was rehashed or failed to be (`Table.Shows.bucketCount_eq`), and under a consistent policy
a search for any key that equals the stored one ends on this slot (`Buckets.Keyed`).

Slots whose item does not fit above the bucket field have no handle, and are left out.
-/

namespace ByteTable

theorem Move.foldl_lead_next {count : Nat} (i : Fin count) :
    (List.replicate i.val next).foldl lead (head.lead none) = some i := by
  obtain ⟨i, hi⟩ := i
  induction i with
  | zero => exact dif_pos hi
  | succ i ih =>
    have hlt : i < count := Nat.lt_of_succ_lt hi
    rw [List.replicate_succ', List.foldl_append, ih hlt]
    exact lead_next_of_lt hi

namespace Table

section

variable {kind : LayoutKind}

/-- Whether a handle is the one of a slot, from wherever it is had. -/
structure Names (policy : Policy) (table : Table (Chains kind.Store)) (slot : Slot)
    (record : SlotRecord) (handle : Handle) : Prop where
  run_pack {σ : Type} (s : σ) :
    (Handle.pack table.bucketCount slot).run s = ⟨.ok (some handle), s, []⟩
  /-- Enumerators over the table come to the slot. -/
  exists_enumerator (element : ElementKind) : ∃ start moves e shown,
    table.enumerator element = .ok start ∧ start.performAll moves = .ok (e, shown) ∧
      e.storage = table.storage ∧ e.slot? = some slot
  run_handle {e : Enumerator (Chains kind.Store)} : e.storage = table.storage →
    e.slot? = some slot → ∀ {σ : Type} (s : σ), e.handle.run s = ⟨.ok (some handle), s, []⟩
  keyOf?_eq : table.keyOf? handle = .ok (some record.key)
  /-- Searching for an equal key, or reserving one, changes nothing. -/
  run_find? {key : Bytes} : key.length = policy.keySize →
    policy.keysEqual key record.key = true →
    (find? key).run table = ⟨.ok (some handle), table, []⟩
  run_reserve {key : Bytes} : key.length = policy.keySize →
    policy.keysEqual key record.key = true → ∀ memory,
    (reserve memory key).run table = ⟨.ok (some handle, false), table, []⟩
  exists_value {key : Bytes} : key.length = policy.keySize →
    policy.keysEqual key record.key = true →
    ∃ value?, table.valueOf? handle = .ok value? ∧ table.get? key = .ok value?

/-- Whether every addressable live slot of a table has a handle, and no other has the same. -/
structure NamesSlots (policy : Policy) (table : Table (Chains kind.Store)) (buckets : Buckets) :
    Prop where
  contents_eq : table.storage.contents = .ok buckets
  exists_handle {slot : Slot} {record : SlotRecord} : buckets.at? slot = some record →
    record.word.isTombstone = false → slot.item < 2 ^ (64 - (table.bucketCount + 1).size) →
    ∃ handle, table.Names policy slot record handle
  /-- Enumerators on two live slots do not report the same handle. -/
  slot_unique {σ : Type} {e e' : Enumerator (Chains kind.Store)} {slot slot' : Slot}
    {record record' : SlotRecord} {handle : Handle} {s s' : σ} :
    buckets.at? slot = some record → record.word.isTombstone = false →
    buckets.at? slot' = some record' → record'.word.isTombstone = false →
    e.storage = table.storage → e.slot? = some slot →
    e'.storage = table.storage → e'.slot? = some slot' →
    (e.handle.run s).answer = .ok (some handle) →
    (e'.handle.run s').answer = .ok (some handle) → slot = slot'

end

namespace Shows

/-- Enumerators over a table come to every live slot. -/
theorem exists_enumerator {β : Type} [Storage β] [LawfulStorage β] {policy : Policy} {bs : Buckets}
    {table : Table β} (h : table.Shows policy bs) {slot : Slot} (hslot : slot ∈ bs.liveSlots)
    (element : ElementKind) : ∃ start moves e shown,
      table.enumerator element = .ok start ∧ start.performAll moves = .ok (e, shown) ∧
        e.storage = table.storage ∧ e.slot? = some slot := by
  obtain ⟨i, rfl⟩ := List.get_of_mem hslot
  have hrun := Enumerator.performAll_cursorAt h.storage element (Move.head.lead none)
    (List.replicate i.val .next)
  rw [Move.foldl_lead_next] at hrun
  exact ⟨_, _, _, _, Enumerator.start_eq_cursorAt h.storage element, hrun, rfl, rfl⟩

variable {kind : LayoutKind} {policy : Policy} {bs : Buckets} {table : Table (Chains kind.Store)}
  {slot : Slot} {record : SlotRecord}

theorem exists_names (h : table.Shows policy bs) (hkeyed : bs.Keyed policy)
    (hslot : bs.live? slot = some record)
    (hitem : slot.item < 1 <<< (64 - Handle.bitLength (bs.length + 1))) :
    ∃ handle, table.Names policy slot record handle := by
  have hlength := LawfulSlotStorage.length_lt h.storage
  have hbucket := Grid.bucket_lt_of_at? (Buckets.live?_eq_some_iff.mp hslot).1
  obtain ⟨handle, hpacked, hread⟩ := Handle.exists_packed?_eq_some hlength hbucket hitem
  have hpack : ∀ {σ : Type} (s : σ),
      (Handle.pack bs.length slot).run s = ⟨.ok (some handle), s, []⟩ :=
    Handle.run_pack_of_packed? hlength (Handle.succ_lt_field hbucket) hpacked
  have hlocate : ∀ {key : Bytes}, key.length = policy.keySize →
      policy.keysEqual key record.key = true → bs.locate policy key = some slot :=
    fun hkey hequal => (hkeyed.locate_eq_some_iff hkey).mpr ⟨record, hslot, hequal⟩
  refine ⟨handle, ?_⟩
  constructor
  · intro σ s
    rw [h.bucketCount_eq, hpack]
  · exact h.exists_enumerator (Buckets.mem_liveSlots_iff.mpr ⟨record, hslot⟩)
  · intro e hstorage he σ s
    rw [Enumerator.handle_eq hstorage he, LawfulSlotStorage.bucketCount_eq h.storage, hpack]
  · rw [h.keyOf?_eq, hread, hslot, Option.map_some]
  · intro key hkey hequal
    rw [h.run_find?_of_eq_some hkey (hlocate hkey hequal), hpack]
  · intro key hkey hequal memory
    rw [h.run_reserve_eq_pack hkey (hlocate hkey hequal), hpack]
    rfl
  · intro key hkey hequal
    refine ⟨_, h.valueOf?_eq handle, ?_⟩
    rw [h.get?_eq hkey, Buckets.get?_eq_lookup, Buckets.lookup, hlocate hkey hequal, hread,
      Option.bind_some]

theorem slotAt_of_answer_handle {σ : Type} (h : table.Shows policy bs)
    (hslot : bs.live? slot = some record) {e : Enumerator (Chains kind.Store)} {s : σ}
    {handle : Handle} (hstorage : e.storage = table.storage) (he : e.slot? = some slot)
    (hanswer : (e.handle.run s).answer = .ok (some handle)) :
    handle.slotAt bs.length = slot := by
  have hlength := LawfulSlotStorage.length_lt h.storage
  have hbucket := Grid.bucket_lt_of_at? (Buckets.live?_eq_some_iff.mp hslot).1
  rw [Enumerator.handle_eq hstorage he, LawfulSlotStorage.bucketCount_eq h.storage,
    Handle.run_pack hlength hbucket, Except.ok.injEq] at hanswer
  exact Handle.slotAt_of_packed?_eq_some hlength hbucket hanswer

end Shows

/-- Under a consistent policy, the handles of a table that operations led to agree, from wherever
they are had. -/
theorem Reachable.exists_namesSlots {kind : LayoutKind} {policy : Policy}
    {table : Table (Chains kind.Store)} (h : table.Reachable policy)
    (hconsistent : policy.Consistent) : ∃ buckets, table.NamesSlots policy buckets := by
  obtain ⟨bs, hshows, hkeyed⟩ := h.exists_keyed hconsistent
  refine ⟨bs, ?_⟩
  constructor
  · exact hshows.contents_eq
  · intro slot record hat htombstone hitem
    rw [← Handle.bitLength_eq_size, hshows.bucketCount_eq, ← Nat.one_shiftLeft] at hitem
    have hslot := Buckets.live?_eq_some_iff_isTombstone.mpr ⟨hat, htombstone⟩
    exact hshows.exists_names hkeyed hslot hitem
  · intro σ e e' slot slot' record record' handle s s' hat htombstone hat' htombstone' hstorage he
      hstorage' he' hanswer hanswer'
    have hslot := Buckets.live?_eq_some_iff_isTombstone.mpr ⟨hat, htombstone⟩
    have hslot' := Buckets.live?_eq_some_iff_isTombstone.mpr ⟨hat', htombstone'⟩
    rw [← hshows.slotAt_of_answer_handle hslot hstorage he hanswer,
      ← hshows.slotAt_of_answer_handle hslot' hstorage' he' hanswer']

/-- A key is removed again, a rehash is refused and another is not. -/
def rehashed : List (Memory × Operation) :=
  [(.full, .insert [1] [7]), (.full, .insert [2] [8]), (.full, .insert [3] [9]),
    (.full, .erase [1]), (⟨fun _ => 0, fun _ => Nat.zero_le _⟩, .rehash 5), (.full, .rehash 3)]

/-- The key that came last is the first in the new buckets. -/
theorem namesSlots_of_rehashed :
    ∃ (table : Table (Chains LayoutKind.hashSeparated.Store)) (buckets : Buckets)
      (record : SlotRecord) (handle : Handle),
      (create Memory.full (.standard 1 1) 2 : Action Unit _).run () = ⟨.ok table, (), []⟩ ∧
      (table.after rehashed).Reachable (.standard 1 1) ∧ (Policy.standard 1 1).Consistent ∧
      (table.after rehashed).NamesSlots (.standard 1 1) buckets ∧ record.key = [3] ∧
      (table.after rehashed).Names (.standard 1 1) ⟨0, 0⟩ record handle := by
  obtain ⟨table, hcreate, hroom, hcount, hfirst⟩ :
      ∃ table : Table (Chains LayoutKind.hashSeparated.Store),
        (create Memory.full (.standard 1 1) 2 : Action Unit _).run () = ⟨.ok table, (), []⟩ ∧
        table.HasRoomFor rehashed ∧ (table.after rehashed).bucketCount = 3 ∧
        (Buckets.live? ((table.after rehashed).storage.contents.toOption.getD []) ⟨0, 0⟩).map
          SlotRecord.key = some [3] := by
    refine ⟨_, rfl, ?_, ?_, ?_⟩
    · decide +kernel
    · decide +kernel
    · decide +kernel
  have hconsistent : (Policy.standard 1 1).Consistent := Policy.consistent_of_bytewise rfl
  have hreachable : (table.after rehashed).Reachable (.standard 1 1) :=
    (Reachable.created hcreate).after hroom
  obtain ⟨buckets, hnames⟩ := hreachable.exists_namesSlots hconsistent
  rw [hnames.contents_eq] at hfirst
  obtain ⟨record, hslot, hkey⟩ := Option.map_eq_some_iff.mp hfirst
  obtain ⟨hat, htombstone⟩ := Buckets.live?_eq_some_iff_isTombstone.mp hslot
  obtain ⟨handle, hhandle⟩ := hnames.exists_handle hat htombstone (by rw [hcount]; decide)
  exact ⟨table, buckets, record, handle, hcreate, hreachable, hconsistent, hnames, hkey, hhandle⟩

end Table

end ByteTable
