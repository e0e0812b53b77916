import ByteTable.Proofs.Storage.Exact

/-!
# Moving records in place

An interleaved layout changes its number of buckets by moving raw records: it never hashes a word
anew, compares a key or writes a value.  A rebuild does all of these.  Here the two are compared on
the chains that operations under one policy have led to.

The move deals the old live records to the new buckets, byte for byte and in the order of an
enumeration (`Chains.Moved`).  A rebuild under the same policy that returns has the same buckets,
because a live record is what reserving its key and writing its value make of a slot
(`Buckets.Placed`): its word carries the hash of its key, and its value is zeroes as long as none
was written.  The rebuild does return if no stored key meets an earlier one, which a consistent
policy ensures.
-/

namespace ByteTable

open LawfulSlotStorage

/-! ## Raw records -/

/-- The raw records of each bucket, tombstones included. -/
def Interleaved.rows (store : Interleaved) : List (List Bytes) :=
  store.records.chains.toList.map fun chain => chain.elim [] Column.toList

theorem Interleaved.Shows.rows_eq {store : Interleaved} {keySize valueSize : Nat} {bs : Buckets}
    (h : store.Shows keySize valueSize bs) : store.rows = bs.map (List.map rawRecord) :=
  h.records.map_elim_toList

theorem Interleaved.filter_rawRecord {records : List SlotRecord} {keySize : Nat}
    (hkey : ∀ record ∈ records, record.key.length = keySize) (p : SlotWord → Bytes → Bool) :
    (records.map rawRecord).filter (fun raw => p (recordWord raw) (recordKey keySize raw)) =
      (records.filter fun record => p record.word record.key).map rawRecord := by
  rw [List.filter_map]
  refine congrArg (List.map rawRecord) (List.filter_congr ?_)
  intro record hrecord
  rw [Function.comp_apply, recordWord_rawRecord, recordKey_rawRecord (hkey record hrecord)]

namespace Chains

/-- Whether chains are what moving the records of old ones is to give. -/
structure Moved (policy : Policy) (bucketCount : Nat) (old moved : Chains Interleaved) : Prop where
  bucketCount_eq : SlotStorage.bucketCount moved = bucketCount
  size_eq : SlotStorage.size moved = SlotStorage.size old
  /-- Each bucket holds the bytes of the old live records whose keys belong to it, in their
  order. -/
  rows_eq : moved.layout.rows = (List.range bucketCount).map fun bucket =>
    old.layout.rows.flatten.filter fun raw => !(Interleaved.recordWord raw).isTombstone &&
      (policy.hash (Interleaved.recordKey policy.keySize raw)).toNat % bucketCount == bucket
  isTombstone_eq_false {raw : Bytes} : raw ∈ moved.layout.rows.flatten →
    (Interleaved.recordWord raw).isTombstone = false
  /-- The order of the old records is that of an enumeration. -/
  exists_contents : ∃ buckets : Buckets, old.contents = .ok buckets ∧
    old.layout.rows = buckets.map (List.map Interleaved.rawRecord) ∧
    SlotStorage.enumerate old .key = .ok (buckets.liveRecords.map SlotRecord.key) ∧
    SlotStorage.enumerate old .value = .ok (buckets.liveRecords.map SlotRecord.value) ∧
    moved.contents = .ok ((List.range bucketCount).map fun bucket =>
      buckets.liveRecords.filter fun record =>
        (policy.hash record.key).toNat % bucketCount == bucket)

variable {policy : Policy} {old moved : Chains Interleaved} {bs : Buckets} {bucketCount : Nat}
  {valueSize : Nat}

theorem moved_of_shows (hpos : 0 < bucketCount) (hold : old.Shows policy.keySize valueSize bs)
    (hmoved : moved.Shows policy.keySize valueSize
      (Buckets.spread policy bucketCount bs.liveRecords)) :
    Moved policy bucketCount old moved := by
  have hrows := Interleaved.Shows.rows_eq hold.layout
  have hrows' := Interleaved.Shows.rows_eq hmoved.layout
  constructor
  case bucketCount_eq =>
    rw [LawfulSlotStorage.bucketCount_eq (β := Chains Interleaved) hmoved, Buckets.length_spread]
  case size_eq =>
    rw [LawfulSlotStorage.size_eq (β := Chains Interleaved) hmoved,
      LawfulSlotStorage.size_eq (β := Chains Interleaved) hold,
      Buckets.liveCount_spread_liveRecords hpos]
  case rows_eq =>
    rw [hrows', hrows, Buckets.spread, List.map_map, ← List.map_flatten]
    refine List.map_congr_left ?_
    intro bucket _
    have hkey : ∀ record ∈ bs.flatten, record.key.length = policy.keySize := by
      intro record hrecord
      obtain ⟨slot, hslot⟩ := Grid.mem_flatten_iff.mp hrecord
      exact (sized (β := Chains Interleaved) hold slot record hslot).1
    rw [Interleaved.filter_rawRecord hkey fun word key => !word.isTombstone &&
      (policy.hash key).toNat % bucketCount == bucket, Function.comp_apply, Buckets.liveRecords,
      List.filter_filter]
    refine congrArg (List.map Interleaved.rawRecord) (List.filter_congr ?_)
    intro record _
    rw [Bool.and_comm]
    rfl
  case isTombstone_eq_false =>
    intro raw hraw
    rw [hrows', ← List.map_flatten, List.mem_map] at hraw
    obtain ⟨record, hrecord, rfl⟩ := hraw
    obtain ⟨slot, hslot⟩ := Grid.mem_flatten_iff.mp hrecord
    have hlive := (List.mem_filter.mp (Buckets.mem_of_at?_spread hpos hslot).1).2
    rw [Interleaved.recordWord_rawRecord]
    rwa [SlotRecord.isLive, Bool.not_eq_true'] at hlive
  case exists_contents =>
    exact ⟨bs, LawfulLayout.contents_eq hold.layout, hrows,
      SlotStorage.enumerate_eq (β := Chains Interleaved) hold .key,
      SlotStorage.enumerate_eq (β := Chains Interleaved) hold .value,
      LawfulLayout.contents_eq hmoved.layout⟩

/-- Interleaved chains are rehashed by moving their records. -/
theorem rehash_interleaved_eq (hpos : 0 < bucketCount) (memory : Memory) (policy : Policy) :
    (rehash memory policy bucketCount : Action (Chains Interleaved) Unit) =
      (onLayout (Interleaved.redistribute memory policy bucketCount)).andNote
        (.movedInPlace bucketCount) := by
  rw [rehash, if_neg (Nat.not_lt.mpr hpos)]
  rfl

/-- The move fails only if memory is refused. -/
theorem run_rehash_interleaved {keySize : Nat} (h : old.Shows keySize valueSize bs)
    (hfits : Interleaved.keyOffset + keySize + valueSize < wordLimit) (hpos : 0 < bucketCount)
    (memory : Memory) (policy : Policy) :
    (∃ moved log, (rehash memory policy bucketCount).run old = ⟨.ok (), moved, log⟩ ∧
        moved.Shows keySize valueSize (Buckets.spread policy bucketCount bs.liveRecords)) ∨
      ((rehash memory policy bucketCount).run old).answer = .error (.error .allocation) := by
  have hmove : ((onLayout (Interleaved.redistribute memory policy bucketCount)).run old).Rehashes
      (·.Shows keySize valueSize (Buckets.spread policy bucketCount bs.liveRecords))
      (·.Shows keySize valueSize bs) (¬LawfulLayout.Fits Interleaved keySize valueSize) False :=
    run_onLayout_redistribute h rfl hpos memory False
  obtain ⟨log, hrun⟩ := Action.run_andNote
    (onLayout (Interleaved.redistribute memory policy bucketCount)) (.movedInPlace bucketCount) old
  rw [rehash_interleaved_eq hpos, hrun]
  generalize (onLayout (Interleaved.redistribute memory policy bucketCount)).run old = outcome
    at hmove
  cases hmove with
  | done hshows => exact .inl ⟨_, log, rfl, hshows⟩
  | refused _ => exact .inr rfl
  | oversized hsize _ => exact absurd hfits hsize
  | merged hmerging _ => exact hmerging.elim

/-- A rebuild that returns shows the same slots as the move, and under a consistent policy it fails
only if memory is refused. -/
theorem rebuild_of_keeps (hkeeps : Storage.Keeps policy bs old) (hpos : 0 < bucketCount)
    (hmoved : moved.Shows policy.keySize policy.valueSize
      (Buckets.spread policy bucketCount bs.liveRecords)) {memory : Memory} {σ : Type} {s : σ}
    {outcome : Outcome σ (Chains Interleaved)}
    (hrun : (KeyedStorage.rebuild memory old policy bucketCount).run s = outcome) :
    (∀ fresh, outcome.answer = .ok fresh → fresh.contents = moved.contents ∧
        fresh.layout.rows = moved.layout.rows ∧
        SlotStorage.size fresh = SlotStorage.size moved) ∧
      (policy.Consistent → outcome.answer ≠ .error (.error .allocation) →
        ∃ fresh, outcome.answer = .ok fresh) := by
  have hsame : bs.liveRecords.map (.renewed policy) = bs.liveRecords :=
    SlotRecord.map_renewed fun _ => hkeeps.placed.of_mem_liveRecords
  have hrebuilt := KeyedStorage.run_rebuild hkeeps.shows rfl rfl hpos memory s
  rw [hrun] at hrebuilt
  cases hrebuilt with
  | @done fresh _ hfresh =>
    rw [hsame] at hfresh
    refine ⟨fun fresh' hanswer => ?_, fun _ _ => ⟨fresh, rfl⟩⟩
    cases hanswer
    have hfresh : fresh.Shows policy.keySize policy.valueSize
      (Buckets.spread policy bucketCount bs.liveRecords) := hfresh
    refine ⟨?_, ?_, ?_⟩
    · exact (LawfulLayout.contents_eq hfresh.layout).trans
        (LawfulLayout.contents_eq hmoved.layout).symm
    · rw [Interleaved.Shows.rows_eq hfresh.layout, Interleaved.Shows.rows_eq hmoved.layout]
    · exact hfresh.size_eq.trans hmoved.size_eq.symm
  | merged hmeets =>
    refine ⟨fun fresh hanswer => ?_, fun hconsistent _ => ?_⟩
    · cases hanswer
    · exact absurd ((hkeeps.distinct hconsistent).apart_of_imp (fun _ _ => id) bucketCount) hmeets
  | refused =>
    refine ⟨fun fresh hanswer => ?_, fun _ hmemory => absurd rfl hmemory⟩
    cases hanswer

end Chains

/-- A rehash in place that is granted memory succeeds, moves the live records and drops the
tombstones; and a rebuild of the same chains gives the same buckets whenever it returns, as it does
under a consistent policy. -/
theorem Storage.Reachable.rehash_in_place {policy : Policy} {old : Chains Interleaved}
    (h : Storage.Reachable policy old)
    (hfits : 8 + policy.keySize + policy.valueSize < wordLimit) {bucketCount : Nat}
    (hpos : 0 < bucketCount) {memory : Memory} {outcome : Outcome (Chains Interleaved) Unit}
    (hrun : (Storage.rehash memory policy bucketCount).run old = outcome)
    (hmemory : outcome.answer ≠ .error (.error .allocation)) :
    outcome.answer = .ok () ∧ Chains.Moved policy bucketCount old outcome.state ∧
      ∀ (σ : Type) (s : σ) (memory' : Memory) (rebuilt : Outcome σ (Chains Interleaved)),
        (KeyedStorage.rebuild memory' old policy bucketCount).run s = rebuilt →
        (∀ fresh, rebuilt.answer = .ok fresh → fresh.contents = outcome.state.contents ∧
            fresh.layout.rows = outcome.state.layout.rows ∧
            SlotStorage.size fresh = SlotStorage.size outcome.state) ∧
          (policy.Consistent → rebuilt.answer ≠ .error (.error .allocation) →
            ∃ fresh, rebuilt.answer = .ok fresh) := by
  obtain ⟨bs, hkeeps⟩ := h.exists_keeps
  have hold : old.Shows policy.keySize policy.valueSize bs := hkeeps.shows
  subst hrun
  rcases Chains.run_rehash_interleaved hold hfits hpos memory policy with
    ⟨moved, log, hrehash, hmoved⟩ | hrefused
  · have hrehash : (Storage.rehash memory policy bucketCount).run old = ⟨.ok (), moved, log⟩ :=
      hrehash
    rw [hrehash]
    refine ⟨rfl, Chains.moved_of_shows hpos hold hmoved, ?_⟩
    intro σ s memory' rebuilt hrun
    exact Chains.rebuild_of_keeps hkeeps hpos hmoved hrun
  · exact absurd hrefused hmemory

/-- A reserved key, a written one and a tombstone, moved into five buckets. -/
theorem Storage.rehash_in_place_of_three_keys :
    ∃ (old moved fresh : Chains Interleaved), Storage.Reachable (.standard 1 1) old ∧
      8 + 1 + 1 < wordLimit ∧
      ((Storage.rehash Memory.full (.standard 1 1) 5).run old).answer = .ok () ∧
      Chains.Moved (.standard 1 1) 5 old moved ∧
      ((KeyedStorage.rebuild Memory.full old (.standard 1 1) 5).run ()).answer = .ok fresh ∧
      fresh.contents = moved.contents := by
  have hone : List.length ([1] : Bytes) = (Policy.standard 1 1).keySize := rfl
  have htwo : List.length ([2] : Bytes) = (Policy.standard 1 1).keySize := rfl
  have hthree : List.length ([3] : Bytes) = (Policy.standard 1 1).keySize := rfl
  have hnine : List.length ([9] : Bytes) = (Policy.standard 1 1).valueSize := rfl
  have hcreate : (SlotStorage.create Memory.full 1 1 2 :
      Except TableError (Chains Interleaved)) = .ok _ := rfl
  have hnew : Storage.Reachable (.standard 1 1) _ := .created (by decide) hcreate
  have hreserved := hnew.reserve (by decide +kernel) Memory.full hone
  have hinserted := hreserved.insert (by decide +kernel) Memory.full htwo hnine
  have hthird := hinserted.reserve (by decide +kernel) Memory.full hthree
  obtain ⟨old, hold, hok, hrebuilt⟩ : ∃ old : Chains Interleaved,
      Storage.Reachable (.standard 1 1) old ∧
      ((Storage.rehash Memory.full (.standard 1 1) 5).run old).answer.isOk ∧
      ((KeyedStorage.rebuild Memory.full old (.standard 1 1) 5).run ()).answer.isOk :=
    ⟨_, hthird.erase [3], by decide +kernel, by decide +kernel⟩
  obtain ⟨hanswer, hmoved, hrebuild⟩ := hold.rehash_in_place (by decide) (Nat.zero_lt_succ 4) rfl
    (fun hanswer => by rw [hanswer] at hok; cases hok)
  obtain ⟨hsame, hreturns⟩ := hrebuild Unit () Memory.full _ rfl
  obtain ⟨fresh, hfresh⟩ := hreturns (Policy.consistent_of_bytewise rfl)
    (fun hanswer => by rw [hanswer] at hrebuilt; cases hrebuilt)
  exact ⟨old, _, fresh, hold, by decide, hanswer, hmoved, hfresh, (hsame fresh hfresh).1⟩

end ByteTable
