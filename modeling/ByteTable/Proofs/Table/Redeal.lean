import ByteTable.Proofs.Buckets.Redeal
import ByteTable.Proofs.Table.Leads

/-!
# Rehashing again

A rehash deals the live slots to new buckets.  This module says that it is stable, on every table
that operations lead to and under every consistent policy.  The first rehash leaves as many buckets
as it was asked for, with the live slots in them and no others.  A second one to the same bucket
count leaves everything where the first one put it, so that handles taken between the two go on
serving.  A rehash to the present bucket count of a table without tombstones changes no slot.  Keys
that share a bucket before a rehash and share one after keep their order.

All of these are facts about `Buckets.spread`, since a rehash that is granted memory does nothing
else (`Table.Shows.run_rehash`), whichever way the storage goes about it.
-/

namespace ByteTable

namespace Table

section

variable {β : Type} [Storage β] [LawfulStorage β] {policy : Policy} {bs : Buckets}
  {table table' : Table β} {bucketCount : Nat} {memory : Memory} {answer : Except Failure Unit}
  {log : List Event}

/-- A rehash that is granted memory deals the live slots to the new buckets. -/
theorem Shows.run_rehash (h : table.Shows policy bs) (hkeyed : bs.Keyed policy)
    (hfits : LawfulSlotStorage.Fits β policy.keySize policy.valueSize) (hpos : 0 < bucketCount)
    (hrun : (rehash memory bucketCount).run table = ⟨answer, table', log⟩)
    (hmemory : answer ≠ .error (.error .allocation)) :
    answer = .ok () ∧
      table'.Shows policy (Buckets.spread policy bucketCount bs.liveRecords) := by
  have hfault : (Operation.rehash bucketCount).fault? policy = none :=
    if_neg (Nat.not_lt.mpr hpos)
  have hroom : ((Operation.rehash bucketCount).after policy bs).liveCount < wordLimit := by
    show (Buckets.spread policy bucketCount bs.liveRecords).liveCount < wordLimit
    rw [Buckets.liveCount_spread_liveRecords hpos]
    exact LawfulSlotStorage.liveCount_lt h.storage
  have hends := (Operation.rehash bucketCount).run_perform h memory
  rw [Operation.perform, Action.run_bind, hrun] at hends
  have hgranted : (Outcome.andThen ⟨answer, table', log⟩ fun _ =>
      (pure Reply.done : Action (Table β) Reply)).answer ≠ .error (.error .allocation) := by
    rcases answer with cause | _
    · simpa [Outcome.andThen] using hmemory
    · simp [Outcome.andThen]
  have hsettled := hends.settled (hends.unhindered hfault hfits hroom hgranted)
    fun _ _ => hkeyed.distinct
  rw [Operation.settle_of_eq_none hfault] at hsettled
  rcases answer with cause | _
  · cases hsettled.1
  · exact ⟨rfl, hsettled.2⟩

end

/-- Whether a handle shows in one table what it shows in the other. -/
structure SameThrough {β : Type} [Storage β] (table table' : Table β) (handle : Handle) : Prop where
  keyOf?_eq : ∃ key?, table.keyOf? handle = .ok key? ∧ table'.keyOf? handle = .ok key?
  valueOf?_eq : ∃ value?, table.valueOf? handle = .ok value? ∧ table'.valueOf? handle = .ok value?
  isWritten_eq : ∃ written, table.isWritten handle = .ok written ∧
    table'.isWritten handle = .ok written

/-- Tables that show the same buckets show the same through every handle. -/
theorem Shows.sameThrough {β : Type} [Storage β] [LawfulStorage β] {policy : Policy} {bs : Buckets}
    {table table' : Table β} (h : table.Shows policy bs) (h' : table'.Shows policy bs)
    (handle : Handle) : table.SameThrough table' handle where
  keyOf?_eq := ⟨_, h.keyOf?_eq handle, h'.keyOf?_eq handle⟩
  valueOf?_eq := ⟨_, h.valueOf?_eq handle, h'.valueOf?_eq handle⟩
  isWritten_eq := ⟨_, h.isWritten_eq handle, h'.isWritten_eq handle⟩

variable {kind : StorageKind} {policy : Policy} {table first second : Table kind.Store}

/-- A rehash deals the live slots to the buckets that it was asked for, and leaves a table that
rehashing to the same bucket count does not change.  Rehashing a table without tombstones to the
bucket count it has changes nothing.  Two keys of the right length that share a bucket before the
rehash and share one after keep their order. -/
theorem Reachable.rehash_again (h : table.Reachable policy) (hconsistent : policy.Consistent)
    (hsizes : 8 + policy.keySize + policy.valueSize < wordLimit) {bucketCount : Nat}
    (hpos : 0 < bucketCount) {memory memory' : Memory} {answer answer' : Except Failure Unit}
    {log log' : List Event}
    (hfirst : (rehash memory bucketCount).run table = ⟨answer, first, log⟩)
    (hmemory : answer ≠ .error (.error .allocation))
    (hsecond : (rehash memory' bucketCount).run first = ⟨answer', second, log'⟩)
    (hmemory' : answer' ≠ .error (.error .allocation)) :
    answer = .ok () ∧ answer' = .ok () ∧
      first.bucketCount = bucketCount ∧ second.bucketCount = bucketCount ∧
      (∃ old buckets, kind.contents table.storage = .ok old ∧
        kind.contents first.storage = .ok buckets ∧ kind.contents second.storage = .ok buckets ∧
        buckets = Buckets.spread policy bucketCount old.liveRecords ∧
        buckets.length = bucketCount ∧ buckets.flatten.Perm old.liveRecords) ∧
      (∀ handle, first.SameThrough second handle) ∧
      (∀ buckets memory, kind.contents table.storage = .ok buckets →
        (∀ record ∈ buckets.flatten, record.isLive = true) →
        ((rehash memory table.bucketCount).run table).answer ≠ .error (.error .allocation) →
        ((rehash memory table.bucketCount).run table).answer = .ok () ∧
          ((rehash memory table.bucketCount).run table).state.bucketCount = table.bucketCount ∧
          kind.contents ((rehash memory table.bucketCount).run table).state.storage =
            .ok buckets) ∧
      ∀ key key' : Bytes, key.length = policy.keySize → key'.length = policy.keySize →
        ∀ bucket bucket' item item' place place',
          SlotStorage.locate table.storage policy key = .ok (some ⟨bucket, item⟩) →
          SlotStorage.locate table.storage policy key' = .ok (some ⟨bucket, item'⟩) →
          SlotStorage.locate first.storage policy key = .ok (some ⟨bucket', place⟩) →
          SlotStorage.locate first.storage policy key' = .ok (some ⟨bucket', place'⟩) →
          (item < item' ↔ place < place') := by
  obtain ⟨bs, hshows, hkeyed⟩ := h.exists_keyed hconsistent
  have hfits : LawfulSlotStorage.Fits kind.Store policy.keySize policy.valueSize :=
    LawfulSlotStorage.fits_of_lt hsizes
  obtain ⟨hanswer, hshows₁⟩ := hshows.run_rehash hkeyed hfits hpos hfirst hmemory
  obtain ⟨hanswer', hshows₂⟩ :=
    hshows₁.run_rehash (hkeyed.spread hpos) hfits hpos hsecond hmemory'
  rw [hkeyed.placed.spread_spread hpos] at hshows₂
  refine ⟨hanswer, hanswer', ?_, ?_, ?_, hshows₁.sameThrough hshows₂, ?_, ?_⟩
  · rw [hshows₁.bucketCount_eq, Buckets.length_spread]
  · rw [hshows₂.bucketCount_eq, Buckets.length_spread]
  · exact ⟨bs, _, StorageKind.contents_eq hshows.storage, StorageKind.contents_eq hshows₁.storage,
      StorageKind.contents_eq hshows₂.storage, rfl, Buckets.length_spread _ _ _,
      Buckets.perm_flatten_spread hpos⟩
  · intro buckets memory'' hcontents hlive hgranted
    obtain rfl : bs = buckets := by
      rw [StorageKind.contents_eq hshows.storage] at hcontents
      exact Except.ok.inj hcontents
    obtain ⟨hdone, hsame⟩ := hshows.run_rehash hkeyed hfits
      (hshows.bucketCount_eq ▸ hkeyed.length_pos) rfl hgranted
    rw [hshows.bucketCount_eq, hkeyed.placed.spread_length hkeyed.length_pos hlive,
      ← hshows.bucketCount_eq] at hsame
    exact ⟨hdone, hsame.bucketCount_eq.trans hshows.bucketCount_eq.symm,
      StorageKind.contents_eq hsame.storage⟩
  · intro key key' hkey hkey' bucket bucket' item item' place place' hitem hitem' hplace hplace'
    rw [LawfulSlotStorage.locate_eq hshows.storage, Except.ok.injEq] at hitem hitem'
    rw [LawfulSlotStorage.locate_eq hshows₁.storage, Except.ok.injEq] at hplace hplace'
    exact hkeyed.item_lt_iff_spread hpos hkey hkey' hitem hitem' hplace hplace'

/-- Two keys of one bucket and a tombstone, rehashed to four buckets and once more. -/
theorem rehash_again_of_two_keys :
    ∃ (table first second : Table (StorageKind.chains .interleaved).Store)
      (answer answer' : Except Failure Unit) (log log' : List Event),
      table.Reachable (.standard 1 1) ∧ table.size = 2 ∧
      (rehash Memory.full 4).run table = ⟨answer, first, log⟩ ∧
      (rehash Memory.full 4).run first = ⟨answer', second, log'⟩ ∧
      answer = .ok () ∧ answer' = .ok () ∧
      ∃ old buckets : Buckets, StorageKind.contents _ table.storage = .ok old ∧
        StorageKind.contents _ first.storage = .ok buckets ∧
        StorageKind.contents _ second.storage = .ok buckets ∧
        old.flatten.length = 3 ∧ buckets.length = 4 ∧ buckets.flatten.length = 2 := by
  have hcreate : (create Memory.full (.standard 1 1) 2 :
      Action Unit (Table (StorageKind.chains .interleaved).Store)).run () =
        ⟨.ok _, (), []⟩ := rfl
  have hnew := Reachable.created hcreate
  have hone := hnew.step (by decide +kernel) Memory.full (.insert [1] [7])
  have htwo := hone.step (by decide +kernel) Memory.full (.insert [3] [9])
  have hthree := htwo.step (by decide +kernel) Memory.full (.insert [5] [8])
  have hlast := hthree.step (by decide +kernel) Memory.full (.erase [3])
  obtain ⟨hanswer, hanswer', -, -, ⟨old, buckets, hold, hfirst, hsecond, -, hlength, hperm⟩, -⟩ :=
    hlast.rehash_again (Policy.consistent_of_bytewise rfl) (by decide) (by decide : 0 < 4)
      (rfl : (rehash Memory.full 4).run _ = _) (by decide +kernel)
      (rfl : (rehash Memory.full 4).run _ = _) (by decide +kernel)
  have hcounts : (.ok (old.flatten.length, old.liveRecords.length) : Except Crash (Nat × Nat)) =
      .ok (3, 2) :=
    (congrArg (Except.map fun old : Buckets => (old.flatten.length, old.liveRecords.length))
      hold).symm.trans (by decide +kernel)
  obtain ⟨hslots, hlive⟩ := Prod.mk.inj (Except.ok.inj hcounts)
  exact ⟨_, _, _, _, _, _, _, hlast, by decide +kernel, rfl, rfl, hanswer, hanswer', old, buckets,
    hold, hfirst, hsecond, hslots, hlength, hperm.length_eq.trans hlive⟩

end Table

end ByteTable
