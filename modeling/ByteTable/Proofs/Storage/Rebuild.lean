import ByteTable.Proofs.Buckets.Rebuild
import ByteTable.Proofs.Storage.Enumerator
import ByteTable.Storage

/-!
# Rebuilding a lawful storage

A rebuild walks the old storage with two enumerators in step and puts what they show into a new one.
What this amounts to is a loop over the live records of the old storage (`reinsert_eq`): the
enumerators stand on the first slot of what is left of the list of the live slots.  `rebuild_eq` is
the rebuild written with that loop, and nothing of the walk is needed after it.

Each round of the loop puts one record into the new storage (`KeyedStorage.readd`), which does to
the buckets what `Buckets.readd` does.  The new storage never counts more live slots than the old
one, so neither crash on the size of a number can occur.  What is left are the three ends of
`run_rebuild`: memory is refused, or the keys are apart and the result shows the spread of the live
records, or the final check fails.
-/

namespace ByteTable

namespace KeyedStorage

open LawfulSlotStorage LawfulKeyedStorage

variable {β σ : Type} [KeyedStorage β]

/-- Put a record into a storage: with its value if one was written, or else only its key. -/
def readd (memory : Memory) (policy : Policy) (record : SlotRecord) : Action β Unit :=
  if record.isWritten then insert memory policy record.key record.value
  else SlotStorage.reserve memory policy record.key >>= fun _ => pure ()

variable [LawfulKeyedStorage β] {old storage : β} {keySize valueSize : Nat} {bs current : Buckets}
  {policy : Policy} {records : List SlotRecord}

/-! ## The walk is a loop over the live records -/

/-- One round of the walk: put what the enumerators show, then move both. -/
theorem reinsert_succ (h : Shows old keySize valueSize bs) {slot : Slot} {record : SlotRecord}
    (hslot : bs.live? slot = some record) (hstanding : bs.Standing (.on slot)) (memory : Memory)
    (fuel : Nat) :
    (reinsert memory policy old (fuel + 1) ⟨old, .key, .on slot⟩ ⟨old, .value, .on slot⟩
        (some record.key) : Action β Unit) =
      readd memory policy record >>= fun _ =>
        reinsert memory policy old fuel ⟨old, .key, bs.step (.on slot) .next⟩
          ⟨old, .value, bs.step (.on slot) .next⟩ (bs.shown .key (bs.step (.on slot) .next)) := by
  have hwritten := isWritten_eq h slot
  rw [hslot, Option.any_some] at hwritten
  have hvalue : Enumerator.current ⟨old, .value, .on slot⟩ = .ok (some record.value) := by
    rw [Enumerator.current_eq h, Buckets.shown, Cursor.slot?, Option.bind_some, hslot,
      Option.map_some]
    rfl
  have hkeys := Enumerator.perform_eq h .key hstanding .next
  have hvalues := Enumerator.perform_eq h .value hstanding .next
  rw [reinsert, Enumerator.slot?, Cursor.slot?, readd]
  dsimp only
  by_cases hrecord : record.isWritten
  · rw [hrecord] at hwritten
    simp only [hwritten, hvalue, hkeys, hvalues, Action.liftM_ok_bind, if_pos hrecord]
    rfl
  · rw [Bool.eq_false_iff.mpr hrecord] at hwritten
    simp only [hwritten, hvalue, hkeys, hvalues, Action.liftM_ok_bind, if_neg hrecord, bind_assoc,
      pure_bind]
    rfl

/-- The walk puts all that is left of the old storage into the new one. -/
theorem reinsert_eq (h : Shows old keySize valueSize bs) {before rest : List Slot}
    (hrest : bs.liveSlots = before ++ rest) {fuel : Nat} (hfuel : rest.length ≤ fuel)
    (memory : Memory) (policy : Policy) :
    (reinsert memory policy old fuel ⟨old, .key, Buckets.cursorOf rest.head?⟩
        ⟨old, .value, Buckets.cursorOf rest.head?⟩
        (bs.shown .key (Buckets.cursorOf rest.head?)) : Action β Unit) =
      (rest.filterMap bs.live?).forM (readd memory policy) := by
  induction rest generalizing before fuel with
  | nil =>
    rw [List.head?_nil, Buckets.cursorOf]
    cases fuel <;> rfl
  | cons slot rest ih =>
    have hne : fuel ≠ 0 := by
      rw [List.length_cons] at hfuel
      omega
    obtain ⟨fuel, rfl⟩ := Nat.exists_eq_add_one_of_ne_zero hne
    have hstanding : bs.Standing (.on slot) := Buckets.standing_cursorOf_head? hrest
    obtain ⟨record, hslot⟩ := Buckets.mem_liveSlots_iff.mp (hstanding slot rfl)
    have hshown : bs.shown .key (.on slot) = some record.key := by
      rw [Buckets.shown, Cursor.slot?, Option.bind_some, hslot, Option.map_some]
      rfl
    have hrest' : bs.liveSlots = (before ++ [slot]) ++ rest := by
      rw [hrest, List.append_assoc, List.singleton_append]
    rw [List.head?_cons, Buckets.cursorOf, hshown, reinsert_succ h hslot hstanding,
      Buckets.step_next_of_eq hrest, ih hrest' (Nat.le_of_succ_le_succ hfuel),
      List.filterMap_cons_some hslot, List.forM_eq_forM, List.forM_cons]

/-- A rebuild puts the live records of the old storage, one by one, into a new one. -/
theorem rebuild_eq (h : Shows old keySize valueSize bs) (memory : Memory) (policy : Policy)
    (bucketCount : Nat) :
    (rebuild memory old policy bucketCount : Action σ β) = (do
      let fresh : β ← SlotStorage.create memory policy.keySize policy.valueSize bucketCount
      let (_, filled) ← Action.apart fresh (bs.liveRecords.forM (readd memory policy))
      if SlotStorage.size filled = bs.liveCount then return filled
      else Action.crash .liveCountChanged) := by
  have hall : bs.liveSlots = [] ++ bs.liveSlots := (List.nil_append _).symm
  have hwalk := reinsert_eq h hall (Nat.le_succ_of_le (length_liveSlots_le h)) memory policy
  rw [Buckets.filterMap_liveSlots] at hwalk
  rw [rebuild]
  refine congrArg _ (funext fun fresh => ?_)
  rw [Enumerator.start_eq h, Action.liftM_ok_bind, Enumerator.start_eq h, Action.liftM_ok_bind,
    Enumerator.current_eq h, Action.liftM_ok_bind, size_eq h]
  exact congrArg (Action.apart fresh · >>= _) hwalk

omit [LawfulKeyedStorage β] in
/-- The default rehash puts the rebuilt storage in the place of the old one. -/
theorem run_rehashByRebuild_eq (memory : Memory) (policy : Policy) (bucketCount : Nat)
    (storage : β) :
    (rehashByRebuild memory policy bucketCount).run storage =
      (rebuild memory storage policy bucketCount >>= Action.replace).run storage := by
  rw [rehashByRebuild, Action.run_bind, Action.run_current, Outcome.andThen_ok]

/-! ## Filling the new storage -/

theorem run_readd (h : Shows storage keySize valueSize current)
    (hvalueSize : policy.valueSize = valueSize) {record : SlotRecord}
    (hkey : record.key.length = keySize) (hvalue : record.value.length = valueSize)
    (memory : Memory) :
    ((readd memory policy record).run storage).Serves () []
      (Shows · keySize valueSize (current.readd policy record)) (Shows · keySize valueSize current)
      (¬Fits β keySize valueSize) (wordLimit ≤ (current.readd policy record).liveCount) := by
  by_cases hwritten : record.isWritten
  · rw [Buckets.readd, if_pos hwritten, readd, if_pos hwritten]
    exact run_insert h hkey hvalue hvalueSize memory
  · rw [Buckets.readd, if_neg hwritten, readd, if_neg hwritten, Action.run_bind]
    exact (run_reserve h hkey hvalueSize memory).andThen_of_ok fun s hs => ⟨s, rfl, hs⟩

theorem serves_readd (h : Shows storage keySize valueSize current)
    (hfits : Fits β keySize valueSize) (hroom : current.liveCount + 1 < wordLimit)
    (hvalueSize : policy.valueSize = valueSize)
    {record : SlotRecord} (hkey : record.key.length = keySize)
    (hvalue : record.value.length = valueSize) (memory : Memory) :
    ((readd memory policy record).run storage).Serves () []
      (Shows · keySize valueSize (current.readd policy record)) (fun _ => True) False False := by
  have hcount := Buckets.liveCount_readd (length_pos h) policy record
  have hfull : ¬wordLimit ≤ (current.readd policy record).liveCount := by
    rw [hcount]
    split <;> omega
  exact (run_readd h hvalueSize hkey hvalue memory).mono (fun _ hs => hs) (fun _ _ => trivial)
    (fun hsize => hsize hfits) hfull

/-- A new storage has room for all that an old one holds. -/
theorem room_of_shows (h : Shows old keySize valueSize bs) (bucketCount : Nat) :
    (bs.liveRecords ≠ [] → Fits β keySize valueSize) ∧
      (Buckets.empty bucketCount).liveCount + bs.liveRecords.length < wordLimit := by
  constructor
  · intro hne
    obtain ⟨record, hrecord⟩ := List.exists_mem_of_ne_nil _ hne
    obtain ⟨slot, hslot⟩ := Buckets.mem_liveRecords_iff.mp hrecord
    exact fits_of_at? h (Buckets.live?_eq_some_iff.mp hslot).1
  · rw [Buckets.liveCount_empty, Nat.zero_add, ← Buckets.liveCount_eq_length]
    exact liveCount_lt h

theorem serves_forM_readd (h : Shows storage keySize valueSize current)
    (hrecords : ∀ record ∈ records, record.key.length = keySize ∧ record.value.length = valueSize)
    (hfits : records ≠ [] → Fits β keySize valueSize)
    (hroom : current.liveCount + records.length < wordLimit)
    (hvalueSize : policy.valueSize = valueSize) (memory : Memory) :
    ((records.forM (readd memory policy)).run storage).Serves () []
      (Shows · keySize valueSize (records.foldl (Buckets.readd policy) current))
      (fun _ => True) False False := by
  induction records generalizing current storage with
  | nil => exact .done h
  | cons record records ih =>
    have hfits' := hfits (List.cons_ne_nil record records)
    have hcount := Buckets.liveCount_readd (length_pos h) policy record
    obtain ⟨hkey, hvalue⟩ := hrecords record List.mem_cons_self
    rw [List.length_cons] at hroom
    rw [List.forM_eq_forM, List.forM_cons, Action.run_bind, List.foldl_cons]
    refine (serves_readd h hfits' (by omega) hvalueSize hkey hvalue memory).andThen ?_
    intro after hafter
    refine ih hafter (fun other hother => hrecords other (List.mem_cons_of_mem _ hother))
      (fun _ => hfits') ?_
    rw [hcount]
    split <;> omega

/-! ## The rebuild -/

/-- How a rebuild of a storage that shows `bs` ends. -/
inductive Rebuilt (β : Type) [KeyedStorage β] [LawfulKeyedStorage β] (keySize valueSize : Nat)
    (policy : Policy) (bucketCount : Nat) (bs : Buckets) (s : σ) : Outcome σ β → Prop where
  /-- The keys are apart, and every live record has a slot. -/
  | done {fresh : β}
    (hapart : Buckets.Apart policy bucketCount (bs.liveRecords.map SlotRecord.key))
    (hshows : Shows fresh keySize valueSize
      (Buckets.spread policy bucketCount (bs.liveRecords.map (.renewed policy)))) :
    Rebuilt β keySize valueSize policy bucketCount bs s ⟨.ok fresh, s, []⟩
  /-- Some key meets an earlier one, and the check of the count fails. -/
  | merged (hmeets : ¬Buckets.Apart policy bucketCount (bs.liveRecords.map SlotRecord.key)) :
    Rebuilt β keySize valueSize policy bucketCount bs s ⟨.error (.crash .liveCountChanged), s, []⟩
  /-- Memory is refused. -/
  | refused {log : List Event} :
    Rebuilt β keySize valueSize policy bucketCount bs s ⟨.error (.error .allocation), s, log⟩

theorem run_rebuild (hold : Shows old keySize valueSize bs) (hkeySize : policy.keySize = keySize)
    (hvalueSize : policy.valueSize = valueSize) {bucketCount : Nat} (hpos : 0 < bucketCount)
    (memory : Memory) (s : σ) :
    Rebuilt β keySize valueSize policy bucketCount bs s
      ((rebuild memory old policy bucketCount : Action σ β).run s) := by
  rw [rebuild_eq hold, Action.run_bind, hkeySize, hvalueSize]
  rcases hfresh : (SlotStorage.create memory keySize valueSize bucketCount :
    Except TableError β) with cause | fresh
  · rw [Action.run_liftM_error, create_eq_error hfresh hpos, Outcome.andThen_error]
    exact .refused
  rw [Action.run_liftM_ok, Outcome.andThen_ok, Action.run_bind]
  obtain ⟨hfits, hroom⟩ := room_of_shows hold bucketCount
  have houtcome := serves_forM_readd (create_eq_ok hfresh)
    (fun _ => (sized hold).of_mem_liveRecords) hfits hroom hvalueSize memory
  generalize hrun : (bs.liveRecords.forM (readd memory policy)).run fresh = outcome at houtcome
  cases houtcome with
  | done hfilled =>
    rw [Action.run_apart_of_ok hrun, Outcome.andThen_ok]
    dsimp only
    rw [size_eq hfilled, Buckets.liveCount_eq_length bs]
    by_cases hapart : Buckets.Apart policy bucketCount (bs.liveRecords.map SlotRecord.key)
    · rw [Buckets.foldl_readd_of_apart hpos hapart] at hfilled ⊢
      rw [Buckets.liveCount_spread_renewed hpos, if_pos rfl]
      exact .done hapart hfilled
    · rw [if_neg (Nat.ne_of_lt (Buckets.liveCount_foldl_readd_lt hpos hapart))]
      exact .merged hapart
  | refused _ =>
    rw [Action.run_apart_of_error hrun, Outcome.andThen_error]
    exact .refused
  | oversized hsize _ => exact hsize.elim
  | full hfull => exact hfull.elim

end KeyedStorage

end ByteTable
