import ByteTable.Proofs.Chains
import ByteTable.Proofs.Storage.Bare
import ByteTable.Proofs.Storage.Rebuild

/-!
# Storages that rehash

The last law of a storage: what a rehash does to the live slots, under the policy that they were
stored under.  Moving records in place and rebuilding keep them both, and each has an end that the
other has not.  A rebuild can fail its count check, if two stored keys are the same under the
policy; a move never compares keys, but it asks for the size of a record even when there is none.

All chains and all bare storages are lawful.
-/

namespace ByteTable

/-- How a rehash of a storage ends.  It spreads the live records, or else shows what it did
before. -/
inductive Outcome.Rehashes {σ : Type} (done unchanged : σ → Prop) (oversized merging : Prop) :
    Outcome σ Unit → Prop where
  /-- The live slots were redistributed. -/
  | done {s : σ} {log : List Event} (h : done s) :
    Rehashes done unchanged oversized merging ⟨.ok (), s, log⟩
  /-- Memory is refused. -/
  | refused {s : σ} {log : List Event} (h : unchanged s) :
    Rehashes done unchanged oversized merging ⟨.error (.error .allocation), s, log⟩
  /-- The size of a record does not fit a machine word. -/
  | oversized {s : σ} {log : List Event} (hsize : oversized) (h : unchanged s) :
    Rehashes done unchanged oversized merging ⟨.error (.crash .overflow), s, log⟩
  /-- Two keys were taken for the same. -/
  | merged {s : σ} {log : List Event} (hmerging : merging) (h : unchanged s) :
    Rehashes done unchanged oversized merging ⟨.error (.crash .liveCountChanged), s, log⟩

theorem Outcome.Rehashes.log {σ : Type} {done unchanged : σ → Prop} {oversized merging : Prop}
    {outcome : Outcome σ Unit} (h : outcome.Rehashes done unchanged oversized merging)
    (log : List Event) :
    (Outcome.mk outcome.answer outcome.state log).Rehashes done unchanged oversized merging := by
  cases h with
  | done h => exact .done h
  | refused h => exact .refused h
  | oversized hsize h => exact .oversized hsize h
  | merged hmerging h => exact .merged hmerging h

theorem Outcome.Rehashes.mono {σ : Type} {done done' unchanged unchanged' : σ → Prop}
    {oversized oversized' merging merging' : Prop} {outcome : Outcome σ Unit}
    (h : outcome.Rehashes done unchanged oversized merging) (hdone : ∀ s, done s → done' s)
    (hunchanged : ∀ s, unchanged s → unchanged' s) (hoversized : oversized → oversized')
    (hmerging : merging → merging') : outcome.Rehashes done' unchanged' oversized' merging' := by
  cases h with
  | done h => exact .done (hdone _ h)
  | refused h => exact .refused (hunchanged _ h)
  | oversized hsize h => exact .oversized (hoversized hsize) (hunchanged _ h)
  | merged hmerged h => exact .merged (hmerging hmerged) (hunchanged _ h)

/-- A storage that rehashes as a table expects. -/
class LawfulStorage (β : Type) [Storage β] extends LawfulKeyedStorage β where
  /-- Records that are as the policy makes them stay as they are. -/
  run_rehash {storage : β} {keySize valueSize bucketCount : Nat} {bs : Buckets} {policy : Policy} :
    Shows storage keySize valueSize bs → policy.keySize = keySize →
    policy.valueSize = valueSize → 0 < bucketCount →
    (∀ record ∈ bs.liveRecords, record.renewed policy = record) → ∀ memory,
    ((Storage.rehash memory policy bucketCount).run storage).Rehashes
      (Shows · keySize valueSize (Buckets.spread policy bucketCount bs.liveRecords))
      (Shows · keySize valueSize bs) (¬Fits keySize valueSize)
      (¬Buckets.Apart policy bucketCount (bs.liveRecords.map SlotRecord.key))

namespace KeyedStorage

open LawfulSlotStorage

variable {β : Type} [KeyedStorage β] [LawfulKeyedStorage β] {storage : β} {keySize valueSize : Nat}
  {bs : Buckets} {policy : Policy}

/-- The default: what was rebuilt takes the place of the storage.  No size is formed that records of
the old storage did not have already. -/
theorem run_rehashByRebuild (h : Shows storage keySize valueSize bs)
    (hkeySize : policy.keySize = keySize) (hvalueSize : policy.valueSize = valueSize)
    {bucketCount : Nat} (hpos : 0 < bucketCount)
    (hrenewed : ∀ record ∈ bs.liveRecords, record.renewed policy = record) (memory : Memory) :
    ((rehashByRebuild memory policy bucketCount).run storage).Rehashes
      (Shows · keySize valueSize (Buckets.spread policy bucketCount bs.liveRecords))
      (Shows · keySize valueSize bs) False
      (¬Buckets.Apart policy bucketCount (bs.liveRecords.map SlotRecord.key)) := by
  have hrebuild := run_rebuild h hkeySize hvalueSize hpos memory storage
  rw [run_rehashByRebuild_eq, Action.run_bind]
  generalize (rebuild memory storage policy bucketCount : Action β β).run storage = outcome
    at hrebuild
  cases hrebuild with
  | done _ hfresh =>
    rw [Outcome.andThen_ok, Action.run_replace]
    exact .done (SlotRecord.map_renewed hrenewed ▸ hfresh)
  | merged hmeets =>
    rw [Outcome.andThen_error]
    exact .merged hmeets h
  | refused =>
    rw [Outcome.andThen_error]
    exact .refused h

end KeyedStorage

instance {β : Type} [SlotStorage β] [LawfulSlotStorage β] : LawfulStorage (Bare β) where
  run_rehash h hkeySize hvalueSize hpos hrenewed memory :=
    (KeyedStorage.run_rehashByRebuild h hkeySize hvalueSize hpos hrenewed memory).mono
      (fun _ h => h) (fun _ h => h) False.elim id

namespace Chains

variable {L : Type} [Layout L] [LawfulLayout L] {chains : Chains L} {keySize valueSize : Nat}
  {bs : Buckets} {policy : Policy} {bucketCount : Nat}

/-- Moving the records in place spreads the live slots. -/
theorem run_onLayout_redistribute (h : chains.Shows keySize valueSize bs)
    {redistribute : Memory → Policy → Nat → Action L Unit}
    (hredistribute : Layout.redistribute? = some redistribute) (hpos : 0 < bucketCount)
    (memory : Memory) (merging : Prop) :
    ((onLayout (redistribute memory policy bucketCount)).run chains).Rehashes
      (·.Shows keySize valueSize (Buckets.spread policy bucketCount bs.liveRecords))
      (·.Shows keySize valueSize bs) (¬LawfulLayout.Fits L keySize valueSize) merging := by
  have hcount : (Buckets.spread policy bucketCount bs.liveRecords).liveCount = bs.liveCount :=
    Buckets.liveCount_spread_liveRecords hpos bs
  rw [run_onLayout]
  by_cases hfits : LawfulLayout.Fits L keySize valueSize
  · have hgrows := LawfulLayout.run_redistribute hredistribute h.layout hfits hpos memory policy
    generalize (redistribute memory policy bucketCount).run chains.layout = outcome at hgrows
    cases hgrows with
    | done hlayout =>
      exact .done ⟨hlayout, h.size_eq.trans hcount.symm, h.size_lt, by
        rwa [Buckets.length_spread]⟩
    | refused hsame => exact .refused (hsame ▸ h)
  · rw [LawfulLayout.run_redistribute_of_not_fits hredistribute h.layout hfits]
    exact .oversized hfits h

/-- Chains that cannot move their records are rebuilt. -/
theorem run_rehash_of_eq_none (h : chains.Shows keySize valueSize bs)
    (hnone : (Layout.redistribute? : Option (Memory → Policy → Nat → Action L Unit)) = none)
    (hkeySize : policy.keySize = keySize) (hvalueSize : policy.valueSize = valueSize)
    (hpos : 0 < bucketCount) (hrenewed : ∀ record ∈ bs.liveRecords, record.renewed policy = record)
    (memory : Memory) :
    ((rehash memory policy bucketCount).run chains).Rehashes
      (·.Shows keySize valueSize (Buckets.spread policy bucketCount bs.liveRecords))
      (·.Shows keySize valueSize bs) False
      (¬Buckets.Apart policy bucketCount (bs.liveRecords.map SlotRecord.key)) := by
  rw [rehash, if_neg (Nat.not_lt.mpr hpos), hnone]
  dsimp only
  rw [Action.run_bind, Action.run_note]
  exact (KeyedStorage.run_rehashByRebuild (β := Chains L) h hkeySize hvalueSize hpos hrenewed
    memory).log _

theorem run_rehash (h : chains.Shows keySize valueSize bs) (hkeySize : policy.keySize = keySize)
    (hvalueSize : policy.valueSize = valueSize) (hpos : 0 < bucketCount)
    (hrenewed : ∀ record ∈ bs.liveRecords, record.renewed policy = record) (memory : Memory) :
    ((rehash memory policy bucketCount).run chains).Rehashes
      (·.Shows keySize valueSize (Buckets.spread policy bucketCount bs.liveRecords))
      (·.Shows keySize valueSize bs) (¬LawfulLayout.Fits L keySize valueSize)
      (¬Buckets.Apart policy bucketCount (bs.liveRecords.map SlotRecord.key)) := by
  rcases hredistribute : (Layout.redistribute? : Option (Memory → Policy → Nat → Action L Unit))
    with _ | redistribute
  · exact (run_rehash_of_eq_none h hredistribute hkeySize hvalueSize hpos hrenewed memory).mono
      (fun _ h => h) (fun _ h => h) False.elim id
  · obtain ⟨log, hrun⟩ := Action.run_andNote (onLayout (redistribute memory policy bucketCount))
      (.movedInPlace bucketCount) chains
    rw [rehash, if_neg (Nat.not_lt.mpr hpos), hredistribute]
    dsimp only
    rw [hrun]
    exact (run_onLayout_redistribute h hredistribute hpos memory _).log log

instance : LawfulStorage (Chains L) where
  run_rehash h hkeySize hvalueSize hpos hrenewed memory :=
    run_rehash h hkeySize hvalueSize hpos hrenewed memory

end Chains

end ByteTable
