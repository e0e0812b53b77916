import ByteTable.Proofs.Table.Leads
import ByteTable.Proofs.Table.Refusal

/-!
# Slots that no buffer can hold

The sizes of keys and values are any two machine words, and a table can be created with all of them.
If its slots are too large, that shows when the first is to be made.  `LayoutKind.slotBytes` is what
a slot takes in the buffer that gets most of it, and decides what happens.

* Up to `maxBytes`, memory may be had or be refused.
* Past `maxBytes` memory is always refused, so that there never is a slot.
* From `wordLimit` on, a layout that puts the parts of a slot side by side cannot name the size that
  it has to ask memory for, and crashes.  It does so before it changes anything.

A rehash asks for memory record by record, and of a table without slots only for the directories.
The interleaved layout, which moves records of one size, forms that size even if there are none.
-/

namespace ByteTable

open LawfulSlotStorage (Fits)

/-- How many bytes of a slot lie in one buffer, for the buffer that gets most of them. -/
def LayoutKind.slotBytes (keySize valueSize : Nat) : LayoutKind → Nat
  | interleaved => Interleaved.rawSize keySize valueSize
  | hashSeparated => keySize + valueSize
  | fullySeparated => max keySize valueSize

namespace LayoutKind

variable {kind : LayoutKind} {keySize valueSize : Nat} {bs : Buckets} {slot : Slot}

/-- A slot that exists is held by its buffers. -/
theorem slotBytes_le {store : kind.Store} {record : SlotRecord}
    (h : LawfulLayout.Shows store keySize valueSize bs) (hslot : bs.at? slot = some record) :
    kind.slotBytes keySize valueSize ≤ maxBytes := by
  cases kind with
  | interleaved =>
    have h : Interleaved.Shows store keySize valueSize bs := h
    exact h.records.width_le (Grid.at?_image_of_eq_some hslot)
  | hashSeparated =>
    have h : HashSeparated.Shows store keySize valueSize bs := h
    exact h.records.width_le (Grid.at?_image_of_eq_some hslot)
  | fullySeparated =>
    have h : FullySeparated.Shows store keySize valueSize bs := h
    exact Nat.max_le.mpr ⟨h.keys.width_le (Grid.at?_image_of_eq_some hslot),
      h.values.width_le (Grid.at?_image_of_eq_some hslot)⟩

/-- The sizes that a layout forms fit a machine word if all that it asks memory for does. -/
theorem fits_iff (kind : LayoutKind) (hkeySize : keySize < wordLimit)
    (hvalueSize : valueSize < wordLimit) :
    Fits (Chains kind.Store) keySize valueSize ↔ kind.slotBytes keySize valueSize < wordLimit := by
  cases kind with
  | interleaved => exact Iff.rfl
  | hashSeparated => exact Iff.rfl
  | fullySeparated => exact iff_of_true trivial (Nat.max_lt.mpr ⟨hkeySize, hvalueSize⟩)

/-- Records are moved in place by one layout only. -/
theorem redistribute?_eq_none (h : kind ≠ interleaved) :
    (Layout.redistribute? : Option (Memory → Policy → Nat → Action kind.Store Unit)) = none := by
  cases kind with
  | interleaved => exact absurd rfl h
  | hashSeparated => rfl
  | fullySeparated => rfl

end LayoutKind

/-! ## Sizes that do not fit a machine word -/

namespace Chains

variable {L : Type} [Layout L] [LawfulLayout L] {chains : Chains L} {keySize valueSize : Nat}
  {bs : Buckets} {policy : Policy}

/-- Where the size of a record does not fit a machine word, no key has a slot and none can be
made. -/
theorem Shows.run_reserve_of_not_fits (h : chains.Shows keySize valueSize bs)
    (hsize : ¬LawfulLayout.Fits L keySize valueSize) (memory : Memory) (policy : Policy)
    (key : Bytes) :
    (reserve memory policy key).run chains = ⟨.error (.crash .overflow), chains, []⟩ := by
  have hnone : ∀ slot record, bs.at? slot ≠ some record :=
    fun slot record hslot => hsize (LawfulLayout.fits_of_at? h.layout hslot)
  have hlocate : bs.locate policy key = none := by
    rw [Option.eq_none_iff_forall_ne_some]
    intro slot hlocate
    obtain ⟨-, record, hrecord, -⟩ := Buckets.of_locate_eq_some hlocate
    exact hnone slot record (Buckets.live?_eq_some_iff.mp hrecord).1
  have htombstone : (bs.row (Buckets.home policy bs.length key)).findIdx? (fun old => !old.isLive) =
      none := by
    rcases hfind : (bs.row (Buckets.home policy bs.length key)).findIdx? (fun old => !old.isLive)
      with _ | item
    · exact hfind
    · obtain ⟨old, hold, -⟩ := Buckets.exists_tombstone hfind
      exact absurd hold (hnone _ old)
  rw [h.run_reserve_of_eq_none hlocate htombstone, run_onLayout,
    LawfulLayout.run_append_of_not_fits h.layout hsize]
  rfl

theorem Shows.run_rehash_of_not_fits (h : chains.Shows keySize valueSize bs)
    (hsize : ¬LawfulLayout.Fits L keySize valueSize)
    {redistribute : Memory → Policy → Nat → Action L Unit}
    (hredistribute : Layout.redistribute? = some redistribute) {bucketCount : Nat}
    (hpos : 0 < bucketCount) (memory : Memory) (policy : Policy) :
    ∃ log, (rehash memory policy bucketCount).run chains =
      ⟨.error (.crash .overflow), chains, log⟩ := by
  obtain ⟨log, hrun⟩ := Action.run_andNote (onLayout (redistribute memory policy bucketCount))
    (.movedInPlace bucketCount) chains
  rw [rehash, if_neg (Nat.not_lt.mpr hpos), hredistribute]
  dsimp only
  rw [hrun, run_onLayout, LawfulLayout.run_redistribute_of_not_fits hredistribute h.layout hsize]
  exact ⟨log, rfl⟩

/-- A rehash forms no size that does not fit, if it has none to form or if they fit. -/
theorem Shows.run_rehash_of_fits (h : chains.Shows policy.keySize policy.valueSize bs)
    (hfits : LawfulLayout.Fits L policy.keySize policy.valueSize ∨
      (Layout.redistribute? : Option (Memory → Policy → Nat → Action L Unit)) = none)
    {bucketCount : Nat} (hpos : 0 < bucketCount)
    (hrenewed : ∀ record ∈ bs.liveRecords, record.renewed policy = record) (memory : Memory) :
    ((rehash memory policy bucketCount).run chains).Rehashes
      (·.Shows policy.keySize policy.valueSize (Buckets.spread policy bucketCount bs.liveRecords))
      (·.Shows policy.keySize policy.valueSize bs) False
      (¬Buckets.Apart policy bucketCount (bs.liveRecords.map SlotRecord.key)) := by
  rcases hfits with hfits | hnone
  · exact (run_rehash h rfl rfl hpos hrenewed memory).mono (fun _ h => h) (fun _ h => h)
      (fun hsize => hsize hfits) id
  · exact run_rehash_of_eq_none h hnone rfl rfl hpos hrenewed memory

end Chains

/-! ## What a table makes of its sizes -/

namespace Table

variable {kind : LayoutKind} {policy : Policy} {bs : Buckets} {table : Table (Chains kind.Store)}

/-- How a table reserves a slot for a key, by the size of a slot. -/
structure ReservesBySize (policy : Policy) (table : Table (Chains kind.Store))
    (outcome : Outcome (Table (Chains kind.Store)) Reply) : Prop where
  /-- Where a buffer can hold the slot, nothing but memory is in the way. -/
  eq_allocation : kind.slotBytes policy.keySize policy.valueSize ≤ maxBytes →
    table.size + 1 < wordLimit → ∀ cause, outcome.answer = .error cause →
    cause = .error .allocation
  /-- Where none can, memory is refused. -/
  refused : maxBytes < kind.slotBytes policy.keySize policy.valueSize →
    kind.slotBytes policy.keySize policy.valueSize < wordLimit →
    outcome.answer = .error (.error .allocation) ∧ table.Unchanged outcome.state
  /-- Where the size cannot be formed, asking for memory crashes. -/
  crashed : wordLimit ≤ kind.slotBytes policy.keySize policy.valueSize →
    outcome.answer = .error (.crash .overflow) ∧ outcome.state = table

/-- How it changes its number of buckets. -/
structure RehashesBySize (policy : Policy) (table : Table (Chains kind.Store))
    (outcome : Outcome (Table (Chains kind.Store)) Reply) : Prop where
  /-- Nothing but memory is in the way, unless records are moved whose size cannot be formed. -/
  eq_allocation : policy.Consistent →
    (kind = .interleaved → kind.slotBytes policy.keySize policy.valueSize < wordLimit) →
    ∀ cause, outcome.answer = .error cause → cause = .error .allocation
  /-- If they are, it crashes like a reservation, even where there is no record to move. -/
  crashed : kind = .interleaved → wordLimit ≤ kind.slotBytes policy.keySize policy.valueSize →
    outcome.answer = .error (.crash .overflow) ∧ outcome.state = table

/-- A table whose slots no buffer can hold has none. -/
theorem Shows.at?_ne_some (h : table.Shows policy bs)
    (hlarge : maxBytes < kind.slotBytes policy.keySize policy.valueSize) (slot : Slot)
    (record : SlotRecord) : bs.at? slot ≠ some record :=
  fun hslot => absurd (LayoutKind.slotBytes_le h.chains.layout hslot) (Nat.not_le.mpr hlarge)

/-! ### Reserving a slot -/

/-- No size is in the way of a reservation, if the sizes fit and there is room to count the slot. -/
theorem Shows.reserve_eq_allocation (h : table.Shows policy bs) {memory : Memory} {key : Bytes}
    (hkey : key.length = policy.keySize)
    (hfits : Fits (Chains kind.Store) policy.keySize policy.valueSize)
    (hroom : table.size + 1 < wordLimit) {cause : Failure}
    (hanswer : (((Operation.reserve key).perform memory).run table).answer = .error cause) :
    cause = .error .allocation := by
  have hends := (Operation.reserve key).run_perform h memory
  generalize ((Operation.reserve key).perform memory).run table = outcome at hends hanswer
  cases hends with
  | answered _ _ => cases hanswer
  | faulted hfault _ => exact absurd (hfault.symm.trans (if_neg (not_not_intro hkey))) (by simp)
  | refused _ => exact (Except.error.inj hanswer).symm
  | oversized hsize _ => exact absurd hfits hsize
  | full hfault hfull =>
    have hcount := (Operation.reserve key).liveCount_after_le h.chains.length_pos hfault
    have hsize : table.size = bs.liveCount := h.chains.size_eq
    omega
  | merged hop _ _ => cases hop

theorem Shows.reserve_ne_ok (h : table.Shows policy bs)
    (hlarge : maxBytes < kind.slotBytes policy.keySize policy.valueSize) (memory : Memory)
    (key : Bytes) (reply : Reply) :
    (((Operation.reserve key).perform memory).run table).answer ≠ .ok reply := by
  have hends := (Operation.reserve key).run_perform h memory
  generalize ((Operation.reserve key).perform memory).run table = outcome at hends
  intro hanswer
  cases hends with
  | answered _ hafter =>
    obtain ⟨-, record, hrecord⟩ := Buckets.live?_reserve h.chains.length_pos policy key
    exact hafter.at?_ne_some hlarge _ record (Buckets.live?_eq_some_iff.mp hrecord).1
  | _ => cases hanswer

theorem Shows.run_reserve_of_not_fits (h : table.Shows policy bs) {key : Bytes}
    (hkey : key.length = policy.keySize)
    (hsize : ¬Fits (Chains kind.Store) policy.keySize policy.valueSize) (memory : Memory) :
    ((Operation.reserve key).perform memory).run table =
      ⟨.error (.crash .overflow), table, []⟩ := by
  have hstorage : (SlotStorage.reserve memory table.policy key).run table.storage =
      ⟨.error (.crash .overflow), table.storage, []⟩ :=
    h.chains.run_reserve_of_not_fits hsize memory table.policy key
  rw [Operation.perform, reserve]
  simp only [bind_assoc]
  rw [Action.run_read_bind, h.checkKey_eq hkey, Action.andThen_answer_ok, Action.run_bind,
    run_onStorage, hstorage]
  rfl

theorem Shows.reservesBySize (h : table.Shows policy bs)
    (hfits : Fits (Chains kind.Store) policy.keySize policy.valueSize ↔
      kind.slotBytes policy.keySize policy.valueSize < wordLimit)
    (memory : Memory) {key : Bytes} (hkey : key.length = policy.keySize) :
    table.ReservesBySize policy (((Operation.reserve key).perform memory).run table) := by
  constructor
  case eq_allocation =>
    intro hsmall hroom cause hanswer
    exact h.reserve_eq_allocation hkey (hfits.mpr (Nat.lt_of_le_of_lt hsmall (by decide))) hroom
      hanswer
  case refused =>
    intro hlarge hword
    have hempty : bs.liveRecords = [] := by
      rw [List.eq_nil_iff_forall_not_mem]
      intro record hrecord
      obtain ⟨slot, hslot⟩ := Buckets.mem_liveRecords_iff.mp hrecord
      exact h.at?_ne_some hlarge slot record (Buckets.live?_eq_some_iff.mp hslot).1
    have hroom : table.size + 1 < wordLimit := by
      have hsize : table.size = bs.liveCount := h.chains.size_eq
      rw [hsize, Buckets.liveCount_eq_length, hempty]
      decide
    rcases hanswer : (((Operation.reserve key).perform memory).run table).answer with cause | reply
    · obtain rfl := h.reserve_eq_allocation hkey (hfits.mpr hword) hroom hanswer
      exact ⟨rfl, h.unchanged_of_error hanswer⟩
    · exact absurd hanswer (h.reserve_ne_ok hlarge memory key reply)
  case crashed =>
    intro hword
    rw [h.run_reserve_of_not_fits hkey fun hsize => Nat.not_le.mpr (hfits.mp hsize) hword]
    exact ⟨rfl, rfl⟩

/-! ### Changing the number of buckets -/

/-- Nothing but memory is in the way of a rehash that has no size to form, or one that fits. -/
theorem Shows.rehash_eq_allocation (h : table.Shows policy bs) (hkeyed : bs.Keyed policy)
    (hfits : kind = .interleaved → Fits (Chains kind.Store) policy.keySize policy.valueSize)
    {memory : Memory} {bucketCount : Nat} (hpos : 0 < bucketCount) {cause : Failure}
    (hanswer : (((Operation.rehash bucketCount).perform memory).run table).answer =
      .error cause) : cause = .error .allocation := by
  obtain rfl := h.policy_eq
  have hforms : Fits (Chains kind.Store) table.policy.keySize table.policy.valueSize ∨
      (Layout.redistribute? : Option (Memory → Policy → Nat → Action kind.Store Unit)) = none := by
    by_cases hkind : kind = .interleaved
    · exact .inl (hfits hkind)
    · exact .inr (LayoutKind.redistribute?_eq_none hkind)
  have hrehash := h.chains.run_rehash_of_fits hforms hpos
    (fun _ => h.placed.of_mem_liveRecords) memory
  rw [Operation.perform, Action.run_bind] at hanswer
  generalize hrun : (Chains.rehash memory table.policy bucketCount).run table.storage = outcome
    at hrehash
  cases hrehash with
  | @done storage log hstorage =>
    have hcount : SlotStorage.bucketCount storage = bucketCount :=
      (LawfulSlotStorage.bucketCount_eq hstorage).trans (Buckets.length_spread _ _ _)
    obtain ⟨log', hrun'⟩ := run_rehash_of_ok hpos hrun hcount
    rw [hrun'] at hanswer
    cases hanswer
  | refused _ =>
    obtain ⟨log', hrun'⟩ := run_rehash_of_error hpos hrun
    rw [hrun'] at hanswer
    exact (Except.error.inj hanswer).symm
  | oversized hnever _ => exact hnever.elim
  | merged hmerging _ => exact absurd (hkeyed.distinct.apart_of_imp (fun _ _ => id) _) hmerging

theorem Shows.run_rehash_of_not_fits {table : Table (Chains LayoutKind.interleaved.Store)}
    (h : table.Shows policy bs)
    (hsize : ¬Fits (Chains LayoutKind.interleaved.Store) policy.keySize policy.valueSize)
    (memory : Memory) {bucketCount : Nat} (hpos : 0 < bucketCount) :
    ∃ log, ((Operation.rehash bucketCount).perform memory).run table =
      ⟨.error (.crash .overflow), table, log⟩ := by
  obtain ⟨log, hrun⟩ := h.chains.run_rehash_of_not_fits hsize rfl hpos memory table.policy
  obtain ⟨log', hrun'⟩ := run_rehash_of_error hpos hrun
  rw [Operation.perform, Action.run_bind, hrun']
  exact ⟨_, rfl⟩

/-- What reserving a slot and rehashing come to in a reachable table depends on the size of a slot
as its layout keeps it. -/
theorem Reachable.serves_by_size (h : table.Reachable policy)
    (hkeySize : policy.keySize < wordLimit) (hvalueSize : policy.valueSize < wordLimit)
    (memory : Memory) :
    (∀ key, key.length = policy.keySize →
        table.ReservesBySize policy (((Operation.reserve key).perform memory).run table)) ∧
      ∀ bucketCount, 0 < bucketCount →
        table.RehashesBySize policy
          (((Operation.rehash bucketCount).perform memory).run table) := by
  have hfits := kind.fits_iff hkeySize hvalueSize
  obtain ⟨bs, hshows⟩ := h.exists_shows
  refine ⟨fun key hkey => hshows.reservesBySize hfits memory hkey, fun bucketCount hpos => ?_⟩
  constructor
  case eq_allocation =>
    intro hconsistent hword cause hanswer
    obtain ⟨bs', hshows', hkeyed⟩ := h.exists_keyed hconsistent
    exact hshows'.rehash_eq_allocation hkeyed (fun hkind => hfits.mpr (hword hkind)) hpos hanswer
  case crashed =>
    rintro rfl hword
    obtain ⟨log, hrun⟩ := hshows.run_rehash_of_not_fits
      (fun hsize => Nat.not_le.mpr (hfits.mp hsize) hword) memory hpos
    rw [hrun]
    exact ⟨rfl, rfl⟩

/-- With values of `wordLimit - 1` bytes, memory for a slot is refused where keys and values are
kept apart.  Next to each other they take more bytes than there are numbers for. -/
theorem serves_by_size_of_two_tables :
    (∃ table : Table (Chains LayoutKind.fullySeparated.Store),
      (create Memory.full (.standard 4 (wordLimit - 1)) 2 : Action Unit _).run () =
          ⟨.ok table, (), []⟩ ∧
        (((Operation.reserve [1, 0, 0, 0]).perform Memory.full).run table).answer =
          .error (.error .allocation) ∧
        table.Unchanged (((Operation.reserve [1, 0, 0, 0]).perform Memory.full).run table).state ∧
        (((Operation.rehash 3).perform Memory.full).run table).answer = .ok .done) ∧
      ∃ table : Table (Chains LayoutKind.interleaved.Store),
        (create Memory.full (.standard 4 (wordLimit - 1)) 2 : Action Unit _).run () =
            ⟨.ok table, (), []⟩ ∧
          (((Operation.reserve [1, 0, 0, 0]).perform Memory.full).run table).answer =
            .error (.crash .overflow) ∧
          (((Operation.rehash 3).perform Memory.full).run table).answer =
            .error (.crash .overflow) := by
  constructor
  · have hcreate : (create Memory.full (.standard 4 (wordLimit - 1)) 2 :
        Action Unit (Table (Chains LayoutKind.fullySeparated.Store))).run () =
          ⟨.ok _, (), []⟩ := rfl
    obtain ⟨hreserves, -⟩ :=
      (Reachable.created hcreate).serves_by_size (by decide) (by decide) Memory.full
    obtain ⟨hanswer, hunchanged⟩ :=
      (hreserves [1, 0, 0, 0] rfl).refused (by decide) (by decide)
    exact ⟨_, hcreate, hanswer, hunchanged, by decide +kernel⟩
  · have hcreate : (create Memory.full (.standard 4 (wordLimit - 1)) 2 :
        Action Unit (Table (Chains LayoutKind.interleaved.Store))).run () = ⟨.ok _, (), []⟩ := rfl
    obtain ⟨hreserves, hrehashes⟩ :=
      (Reachable.created hcreate).serves_by_size (by decide) (by decide) Memory.full
    exact ⟨_, hcreate, ((hreserves [1, 0, 0, 0] rfl).crashed (by decide)).1,
      ((hrehashes 3 (by decide)).crashed rfl (by decide)).1⟩

/-- A table that keeps words apart from keys and values crashes on a key of the right length. -/
theorem exists_crash_of_sized_key :
    ∃ table : Table (Chains LayoutKind.hashSeparated.Store),
      (create Memory.full (.standard 4 (wordLimit - 1)) 2 : Action Unit _).run () =
          ⟨.ok table, (), []⟩ ∧
        [1, 0, 0, 0].length = table.policy.keySize ∧
        (((Operation.reserve [1, 0, 0, 0]).perform Memory.full).run table).answer =
          .error (.crash .overflow) := by
  refine ⟨_, rfl, rfl, ?_⟩
  decide +kernel

end Table

end ByteTable
