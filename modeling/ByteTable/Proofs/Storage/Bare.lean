import ByteTable.Proofs.Storage.Enumerator
import ByteTable.Storage.Bare

/-!
# The defaults are lawful

What a storage gets for free, the operations by key composed of those by slot, does to the buckets
what the operations by key should.  A bare storage has only these, so it is lawful when the storage
inside it is.
-/

namespace ByteTable

namespace SlotStorage

open LawfulSlotStorage

variable {β : Type} [SlotStorage β] [LawfulSlotStorage β] {storage : β} {keySize valueSize : Nat}
  {bs : Buckets}

theorem valueOfLocated_eq (h : Shows storage keySize valueSize bs) (policy : Policy)
    (key : Bytes) : valueOfLocated storage policy key = .ok (bs.get? policy key) := by
  rw [valueOfLocated, locate_eq h, ok_bind, Buckets.get?]
  rcases hlocate : bs.locate policy key with _ | slot
  · rfl
  · obtain ⟨-, record, hrecord, -⟩ := Buckets.of_locate_eq_some hlocate
    have hat := (Buckets.live?_eq_some_iff.mp hrecord).1
    dsimp only
    rw [isWritten_eq h, ok_bind, valueAt_eq h, hrecord, Option.bind_some, hat, Option.bind_some,
      SlotRecord.value?, Option.any_some, Option.map_some]
    by_cases hwritten : record.isWritten
    · rw [if_pos hwritten, if_pos hwritten]
    · rw [if_neg hwritten, if_neg hwritten]
      rfl

theorem run_assignReserved (h : Shows storage keySize valueSize bs) {policy : Policy}
    {key value : Bytes} (hkey : key.length = keySize) (hvalue : value.length = valueSize)
    (hvalueSize : policy.valueSize = valueSize) (memory : Memory) :
    ((assignReserved memory policy key value).run storage).Serves () []
      (Shows · keySize valueSize (bs.insert policy key value)) (Shows · keySize valueSize bs)
      (¬Fits β keySize valueSize) (wordLimit ≤ (bs.insert policy key value).liveCount) := by
  obtain ⟨-, record, hrecord⟩ := Buckets.live?_reserve (length_pos h) policy key
  have hcount : (bs.insert policy key value).liveCount = (bs.reserve policy key).2.liveCount :=
    Buckets.liveCount_write (Buckets.live?_eq_some_iff.mp hrecord).1 value
  rw [hcount, assignReserved, Action.run_bind]
  refine (run_reserve h hkey hvalueSize memory).andThen_of_ok ?_
  intro after hafter
  obtain ⟨after', hrun, hshows⟩ := run_assign hafter hvalue (bs.reserve policy key).1.slot
  refine ⟨after', ?_, ?_⟩
  · rw [hrun, hrecord]
    rfl
  · simpa only [Buckets.insert, Buckets.assign, hrecord] using hshows

theorem run_discardLocated (h : Shows storage keySize valueSize bs) (policy : Policy)
    (key : Bytes) :
    ∃ storage', (discardLocated policy key).run storage = ⟨.ok (), storage', []⟩ ∧
      Shows storage' keySize valueSize (bs.erase policy key) := by
  have hlocate := locate_eq h policy key
  rcases hfound : bs.locate policy key with _ | slot
  · rw [hfound] at hlocate
    refine ⟨storage, ?_, ?_⟩
    · rw [discardLocated, Action.run_read_bind, hlocate, Action.andThen_answer_ok]
      rfl
    · simpa only [Buckets.erase, hfound] using h
  · rw [hfound] at hlocate
    obtain ⟨-, record, hrecord, -⟩ := Buckets.of_locate_eq_some hfound
    obtain ⟨storage', hrun, hshows⟩ := run_discard h slot
    refine ⟨storage', ?_, ?_⟩
    · rw [discardLocated, Action.run_read_bind, hlocate, Action.andThen_answer_ok]
      dsimp only
      rw [hrun, hrecord]
      rfl
    · simpa only [Buckets.erase, Buckets.discard, hfound, hrecord] using hshows

end SlotStorage

namespace Bare

variable {β : Type}

theorem run_onInner {α : Type} (act : Action β α) (bare : Bare β) :
    (onInner act).run bare =
      ⟨(act.run bare.inner).answer, ⟨(act.run bare.inner).state⟩, (act.run bare.inner).log⟩ := rfl

/-- On the storage inside, an operation ends as it does by itself. -/
theorem serves_onInner {α : Type} {act : Action β α} {bare : Bare β} {answer : α}
    {log : List Event} {done unchanged : β → Prop} {oversized full : Prop}
    (h : (act.run bare.inner).Serves answer log done unchanged oversized full) :
    ((onInner act).run bare).Serves answer log (done ·.inner) (unchanged ·.inner) oversized
      full := by
  unfold onInner
  exact h.within Bare.mk rfl (fun _ hs => hs) fun _ hs => hs

variable [SlotStorage β] [LawfulSlotStorage β]

/-- A bare storage shows what the storage inside it shows. -/
def Shows (bare : Bare β) (keySize valueSize : Nat) (bs : Buckets) : Prop :=
  LawfulSlotStorage.Shows bare.inner keySize valueSize bs

instance : LawfulSlotStorage (Bare β) where
  Shows := Shows
  Fits := LawfulSlotStorage.Fits β
  fits_of_lt := LawfulSlotStorage.fits_of_lt
  sized := LawfulSlotStorage.sized (β := β)
  fits_of_at? := LawfulSlotStorage.fits_of_at? (β := β)
  length_pos := LawfulSlotStorage.length_pos (β := β)
  length_lt := LawfulSlotStorage.length_lt (β := β)
  length_row_lt := LawfulSlotStorage.length_row_lt (β := β)
  liveCount_lt := LawfulSlotStorage.liveCount_lt (β := β)
  create_eq_ok {memory keySize valueSize bucketCount bare} h := by
    obtain ⟨inner, hinner, h⟩ := exists_of_bind_eq_ok h
    cases h
    exact LawfulSlotStorage.create_eq_ok hinner
  create_eq_error {memory keySize valueSize bucketCount cause} h hpos := by
    rcases eq_error_or_of_bind_eq_error h with hinner | ⟨inner, -, h⟩
    · exact LawfulSlotStorage.create_eq_error hinner hpos
    · cases h
  size_eq := LawfulSlotStorage.size_eq (β := β)
  bucketCount_eq := LawfulSlotStorage.bucketCount_eq (β := β)
  isWritten_eq := LawfulSlotStorage.isWritten_eq (β := β)
  keyAt_eq := LawfulSlotStorage.keyAt_eq (β := β)
  valueAt_eq := LawfulSlotStorage.valueAt_eq (β := β)
  locate_eq := LawfulSlotStorage.locate_eq (β := β)
  run_reserve h hkey hvalueSize memory :=
    serves_onInner (LawfulSlotStorage.run_reserve (β := β) h hkey hvalueSize memory)
  run_assign h hvalue slot := by
    obtain ⟨inner, hrun, hshows⟩ := LawfulSlotStorage.run_assign (β := β) h hvalue slot
    refine ⟨⟨inner⟩, ?_, hshows⟩
    simp only [SlotStorage.assign, run_onInner, hrun]
  run_discard h slot := by
    obtain ⟨inner, hrun, hshows⟩ := LawfulSlotStorage.run_discard (β := β) h slot
    refine ⟨⟨inner⟩, ?_, hshows⟩
    simp only [SlotStorage.discard, run_onInner, hrun]
  step_eq h hstanding direction := LawfulSlotStorage.step_eq (β := β) h hstanding direction
  length_liveSlots_le := LawfulSlotStorage.length_liveSlots_le (β := β)

instance : LawfulKeyedStorage (Bare β) where
  get?_eq h policy key := SlotStorage.valueOfLocated_eq h policy key
  run_insert h hkey hvalue hvalueSize memory :=
    SlotStorage.run_assignReserved h hkey hvalue hvalueSize memory
  run_erase h policy key := SlotStorage.run_discardLocated h policy key
  keys_eq h := SlotStorage.enumerate_eq h .key
  values_eq h := SlotStorage.enumerate_eq h .value

end Bare

end ByteTable
