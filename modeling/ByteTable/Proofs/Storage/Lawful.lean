import ByteTable.Proofs.Action
import ByteTable.Proofs.Buckets.Invariant
import ByteTable.Storage.Keyed

/-!
# Lawful storages

What a table relies on in a storage, as laws about the buckets that the storage shows.  Each
operation on slots or keys is the operation of the same name on `Buckets`; a read answers what is
there, and a write leaves a storage that shows the changed buckets.

`Outcome.Serves` lists how an operation that may need memory can end.  It does its work, or memory
is refused and the same slots are shown as before.  Two more ends are crashes on the size of a
number: the record size does not fit a machine word, which happens before anything is changed, or
the count of live slots would not.  No law promises anything about what the second one leaves
behind.
-/

namespace ByteTable

/-- The ways in which an operation that may need memory ends. -/
inductive Outcome.Serves {σ α : Type} (answer : α) (log : List Event) (done unchanged : σ → Prop)
    (oversized full : Prop) : Outcome σ α → Prop where
  /-- The work is done. -/
  | done {s : σ} (h : done s) : Serves answer log done unchanged oversized full ⟨.ok answer, s, log⟩
  /-- Memory is refused. -/
  | refused {s : σ} {log' : List Event} (h : unchanged s) :
    Serves answer log done unchanged oversized full ⟨.error (.error .allocation), s, log'⟩
  /-- The size of a record does not fit a machine word. -/
  | oversized {s : σ} {log' : List Event} (hsize : oversized) (h : unchanged s) :
    Serves answer log done unchanged oversized full ⟨.error (.crash .overflow), s, log'⟩
  /-- The count of live slots does not fit a machine word. -/
  | full {s : σ} {log' : List Event} (hfull : full) :
    Serves answer log done unchanged oversized full ⟨.error (.crash .overflow), s, log'⟩

namespace Outcome.Serves

variable {σ τ α β : Type} {answer : α} {answer' : β} {log log' : List Event}
  {done done' unchanged unchanged' : σ → Prop} {oversized full : Prop} {outcome : Outcome σ α}

theorem of_grows (h : outcome.Grows answer done unchanged) (oversized full : Prop) :
    outcome.Serves answer [] done unchanged oversized full := by
  cases h with
  | done h => exact .done h
  | refused h => exact .refused h

theorem mono {oversized' full' : Prop}
    (h : outcome.Serves answer log done unchanged oversized full) (hdone : ∀ s, done s → done' s)
    (hunchanged : ∀ s, unchanged s → unchanged' s) (hoversized : oversized → oversized')
    (hfull : full → full') : outcome.Serves answer log done' unchanged' oversized' full' := by
  cases h with
  | done h => exact .done (hdone _ h)
  | refused h => exact .refused (hunchanged _ h)
  | oversized hsize h => exact .oversized (hoversized hsize) (hunchanged _ h)
  | full h => exact .full (hfull h)

/-- An answer says that the work is done. -/
theorem done_of_answer (h : outcome.Serves answer log done unchanged oversized full) {a : α}
    (hanswer : outcome.answer = .ok a) : done outcome.state := by
  cases h with
  | done h => exact h
  | refused _ => cases hanswer
  | oversized _ _ => cases hanswer
  | full _ => cases hanswer

theorem andThen_of_ok (h : outcome.Serves answer log done unchanged oversized full)
    {f : α → Action σ β} (hf : ∀ s, done s → ∃ s', (f answer).run s = ⟨.ok answer', s', log'⟩ ∧
      done' s') :
    (outcome.andThen f).Serves answer' (log ++ log') done' unchanged oversized full := by
  cases h with
  | done h =>
    obtain ⟨s', hrun, hdone⟩ := hf _ h
    simp only [Outcome.andThen, hrun]
    exact .done hdone
  | refused h => exact .refused h
  | oversized hsize h => exact .oversized hsize h
  | full hfull => exact .full hfull

theorem andThen {middle : σ → Prop}
    (h : outcome.Serves answer [] middle unchanged oversized full) {f : α → Action σ β}
    (hf : ∀ s, middle s →
      ((f answer).run s).Serves answer' log done unchanged oversized full) :
    (outcome.andThen f).Serves answer' log done unchanged oversized full := by
  cases h with
  | done h => exact hf _ h
  | refused h => exact .refused h
  | oversized hsize h => exact .oversized hsize h
  | full hfull => exact .full hfull

theorem within {act : Action σ α} {component : σ}
    (h : (act.run component).Serves answer log done unchanged oversized full)
    {split : τ → σ × (σ → τ)} {t : τ} (putBack : σ → τ) (hsplit : split t = (component, putBack))
    {done' unchanged' : τ → Prop} (hdone : ∀ s, done s → done' (putBack s))
    (hunchanged : ∀ s, unchanged s → unchanged' (putBack s)) :
    ((Action.within split act).run t).Serves answer log done' unchanged' oversized full := by
  rw [Action.run_within hsplit]
  generalize act.run component = outcome at h
  cases h with
  | done h => exact .done (hdone _ h)
  | refused h => exact .refused (hunchanged _ h)
  | oversized hsize h => exact .oversized hsize (hunchanged _ h)
  | full hfull => exact .full hfull

end Outcome.Serves

/-- A storage by slots that does to the buckets it shows what the operations on them say. -/
class LawfulSlotStorage (β : Type) [SlotStorage β] where
  /-- Whether the storage keeps exactly these slots, with keys and values of these lengths. -/
  Shows : β → (keySize valueSize : Nat) → Buckets → Prop
  /-- Whether the size of a record fits a machine word. -/
  Fits : (keySize valueSize : Nat) → Prop
  fits_of_lt {keySize valueSize : Nat} : 8 + keySize + valueSize < wordLimit →
    Fits keySize valueSize
  sized {storage : β} {keySize valueSize : Nat} {bs : Buckets} :
    Shows storage keySize valueSize bs → bs.Sized keySize valueSize
  fits_of_at? {storage : β} {keySize valueSize : Nat} {bs : Buckets} {slot : Slot}
    {record : SlotRecord} : Shows storage keySize valueSize bs → bs.at? slot = some record →
    Fits keySize valueSize
  length_pos {storage : β} {keySize valueSize : Nat} {bs : Buckets} :
    Shows storage keySize valueSize bs → 0 < bs.length
  /-- There are fewer buckets than a machine word can count. -/
  length_lt {storage : β} {keySize valueSize : Nat} {bs : Buckets} :
    Shows storage keySize valueSize bs → bs.length + 1 < wordLimit
  /-- The items of a bucket are fewer too. -/
  length_row_lt {storage : β} {keySize valueSize : Nat} {bs : Buckets} :
    Shows storage keySize valueSize bs → ∀ bucket, (bs.row bucket).length + 1 < wordLimit
  liveCount_lt {storage : β} {keySize valueSize : Nat} {bs : Buckets} :
    Shows storage keySize valueSize bs → bs.liveCount < wordLimit
  create_eq_ok {memory : Memory} {keySize valueSize bucketCount : Nat} {storage : β} :
    SlotStorage.create memory keySize valueSize bucketCount = .ok storage →
    Shows storage keySize valueSize (Buckets.empty bucketCount)
  create_eq_error {memory : Memory} {keySize valueSize bucketCount : Nat} {cause : TableError} :
    (SlotStorage.create memory keySize valueSize bucketCount : Except TableError β) =
      .error cause → 0 < bucketCount → cause = .allocation
  size_eq {storage : β} {keySize valueSize : Nat} {bs : Buckets} :
    Shows storage keySize valueSize bs → SlotStorage.size storage = bs.liveCount
  bucketCount_eq {storage : β} {keySize valueSize : Nat} {bs : Buckets} :
    Shows storage keySize valueSize bs → SlotStorage.bucketCount storage = bs.length
  isWritten_eq {storage : β} {keySize valueSize : Nat} {bs : Buckets} :
    Shows storage keySize valueSize bs → ∀ slot, SlotStorage.isWritten storage slot =
      .ok ((bs.live? slot).any SlotRecord.isWritten)
  keyAt_eq {storage : β} {keySize valueSize : Nat} {bs : Buckets} :
    Shows storage keySize valueSize bs → ∀ slot, SlotStorage.keyAt storage slot =
      .ok ((bs.live? slot).map SlotRecord.key)
  valueAt_eq {storage : β} {keySize valueSize : Nat} {bs : Buckets} :
    Shows storage keySize valueSize bs → ∀ slot, SlotStorage.valueAt storage slot =
      .ok ((bs.live? slot).map SlotRecord.value)
  locate_eq {storage : β} {keySize valueSize : Nat} {bs : Buckets} :
    Shows storage keySize valueSize bs → ∀ policy key,
    SlotStorage.locate storage policy key = .ok (bs.locate policy key)
  run_reserve {storage : β} {keySize valueSize : Nat} {bs : Buckets} {policy : Policy}
    {key : Bytes} : Shows storage keySize valueSize bs → key.length = keySize →
    policy.valueSize = valueSize → ∀ memory,
    ((SlotStorage.reserve memory policy key).run storage).Serves (bs.reserve policy key).1 []
      (Shows · keySize valueSize (bs.reserve policy key).2) (Shows · keySize valueSize bs)
      (¬Fits keySize valueSize) (wordLimit ≤ (bs.reserve policy key).2.liveCount)
  run_assign {storage : β} {keySize valueSize : Nat} {bs : Buckets} {value : Bytes} :
    Shows storage keySize valueSize bs → value.length = valueSize → ∀ slot,
    ∃ storage', (SlotStorage.assign slot value).run storage =
        ⟨.ok (), storage', if (bs.live? slot).isSome then [] else [.nothingToWrite slot]⟩ ∧
      Shows storage' keySize valueSize (bs.assign slot value)
  run_discard {storage : β} {keySize valueSize : Nat} {bs : Buckets} :
    Shows storage keySize valueSize bs → ∀ slot,
    ∃ storage', (SlotStorage.discard slot).run storage =
        ⟨.ok (), storage', if (bs.live? slot).isSome then [] else [.nothingToRemove slot]⟩ ∧
      Shows storage' keySize valueSize (bs.discard slot)
  step_eq {storage : β} {keySize valueSize : Nat} {bs : Buckets} {cursor : Cursor} :
    Shows storage keySize valueSize bs → bs.Standing cursor → ∀ direction,
    SlotStorage.step storage cursor direction = .ok (bs.step cursor direction)
  length_liveSlots_le {storage : β} {keySize valueSize : Nat} {bs : Buckets} :
    Shows storage keySize valueSize bs → bs.liveSlots.length ≤ SlotStorage.extent storage

/-- A storage whose operations by key are those on the buckets it shows. -/
class LawfulKeyedStorage (β : Type) [KeyedStorage β] extends LawfulSlotStorage β where
  get?_eq {storage : β} {keySize valueSize : Nat} {bs : Buckets} :
    Shows storage keySize valueSize bs → ∀ policy key,
    KeyedStorage.get? storage policy key = .ok (bs.get? policy key)
  run_insert {storage : β} {keySize valueSize : Nat} {bs : Buckets} {policy : Policy}
    {key value : Bytes} : Shows storage keySize valueSize bs → key.length = keySize →
    value.length = valueSize → policy.valueSize = valueSize → ∀ memory,
    ((KeyedStorage.insert memory policy key value).run storage).Serves () []
      (Shows · keySize valueSize (bs.insert policy key value)) (Shows · keySize valueSize bs)
      (¬Fits keySize valueSize) (wordLimit ≤ (bs.insert policy key value).liveCount)
  run_erase {storage : β} {keySize valueSize : Nat} {bs : Buckets} :
    Shows storage keySize valueSize bs → ∀ policy key,
    ∃ storage', (KeyedStorage.erase policy key).run storage = ⟨.ok (), storage', []⟩ ∧
      Shows storage' keySize valueSize (bs.erase policy key)
  keys_eq {storage : β} {keySize valueSize : Nat} {bs : Buckets} :
    Shows storage keySize valueSize bs →
    KeyedStorage.keys storage = .ok (bs.liveRecords.map SlotRecord.key)
  values_eq {storage : β} {keySize valueSize : Nat} {bs : Buckets} :
    Shows storage keySize valueSize bs →
    KeyedStorage.values storage = .ok (bs.liveRecords.map SlotRecord.value)

end ByteTable
