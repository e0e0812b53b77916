import ByteTable.Proofs.Action.Relations
import ByteTable.Proofs.Storage

/-!
# Chains against their defaults

Chains work on the slot of a key directly.  The defaults go through the operations by slot, which
look again whether the slot exists and is live.  On the same chains both give the same answer and
leave the same chains behind, layout and all, because the slot in question was just found live or
just made (`run_insert_eq`, `run_erase_eq`).

A bare storage forwards its operations by slot, so that its operations by key are the defaults of
the storage inside (`assignReserved_eq`, `discardLocated_eq`).  Chains and bare chains can then be
kept in step: `Bare.Wraps` relates the two, and every operation by key keeps it, as does a rebuild.
-/

namespace ByteTable

/-! ## On the same chains -/

namespace Chains.Shows

variable {L : Type} [Layout L] [LawfulLayout L] {chains : Chains L} {keySize valueSize : Nat}
  {bs : Buckets} {policy : Policy} {key : Bytes}

theorem run_insert_eq (h : chains.Shows keySize valueSize bs) (hkey : key.length = keySize)
    (hvalueSize : policy.valueSize = valueSize) (memory : Memory) (value : Bytes) :
    (insert memory policy key value).run chains =
      (SlotStorage.assignReserved memory policy key value).run chains := by
  obtain ⟨-, record, hrecord⟩ := Buckets.live?_reserve h.length_pos policy key
  have hreserve := h.run_reserve hkey hvalueSize memory
  have hdefault : (SlotStorage.assignReserved memory policy key value).run chains =
      ((reserve memory policy key).run chains).andThen fun reservation =>
        assign reservation.slot value :=
    Action.run_bind _ _ chains
  rw [insert_eq, Action.run_bind, hdefault]
  generalize (reserve memory policy key).run chains = outcome at hreserve
  cases hreserve with
  | done hafter =>
    rw [Outcome.andThen_ok, Outcome.andThen_ok]
    exact hafter.run_writeSlot hrecord value
  | refused _ => rfl
  | oversized _ _ => rfl
  | full _ => rfl

theorem run_erase_eq (h : chains.Shows keySize valueSize bs) (policy : Policy) (key : Bytes) :
    (erase policy key).run chains = (SlotStorage.discardLocated policy key).run chains := by
  have hlocate := h.locate_eq policy key
  have hlocate' : SlotStorage.locate chains policy key = .ok (bs.locate policy key) := hlocate
  rw [erase, SlotStorage.discardLocated, Action.run_read_bind, Action.run_read_bind, hlocate,
    hlocate', Action.andThen_answer_ok, Action.andThen_answer_ok]
  rcases hfound : bs.locate policy key with _ | slot
  · rfl
  · obtain ⟨-, record, hrecord, -⟩ := Buckets.of_locate_eq_some hfound
    have hword := h.liveWord?_eq slot
    rw [hrecord, Option.map_some] at hword
    dsimp only
    rw [Action.run_read_bind,
      LawfulLayout.wordAt_eq h.layout (Buckets.live?_eq_some_iff.mp hrecord).1]
    show _ = (discard slot).run chains
    rw [discard, Action.run_read_bind, hword]
    rfl

end Chains.Shows

/-! ## On bare storage -/

namespace Bare

variable {β α γ : Type}

/-- Whether a bare storage has this storage inside. -/
def Wraps (storage : β) (bare : Bare β) : Prop :=
  bare.inner = storage

theorem onInner_bind (act : Action β α) (f : α → Action β γ) :
    onInner (act >>= f) = onInner act >>= fun a => onInner (f a) := by
  ext bare
  rw [run_onInner, Action.run_bind, Action.run_bind, run_onInner]
  rcases act.run bare.inner with ⟨cause | a, inner, log⟩
  · rfl
  · rfl

theorem agrees_onInner (act : Action β α) (storage : β) :
    (act.run storage).Agrees Wraps Wraps ((onInner act).run ⟨storage⟩) := by
  rw [run_onInner]
  rcases act.run storage with ⟨cause | a, inner, log⟩
  · exact .failed rfl
  · exact .answered rfl

variable [SlotStorage β]

theorem create_eq (memory : Memory) (keySize valueSize bucketCount : Nat) :
    (SlotStorage.create memory keySize valueSize bucketCount : Except TableError (Bare β)) =
      (SlotStorage.create memory keySize valueSize bucketCount).map Bare.mk := by
  show ((SlotStorage.create memory keySize valueSize bucketCount : Except TableError β) >>=
    fun inner => pure (Bare.mk inner)) = _
  rcases (SlotStorage.create memory keySize valueSize bucketCount : Except TableError β) with
    cause | inner
  · rfl
  · rfl

theorem assignReserved_eq (memory : Memory) (policy : Policy) (key value : Bytes) :
    (SlotStorage.assignReserved memory policy key value : Action (Bare β) Unit) =
      onInner (SlotStorage.assignReserved memory policy key value) := by
  rw [SlotStorage.assignReserved, SlotStorage.assignReserved, onInner_bind]
  rfl

theorem discardLocated_eq (policy : Policy) (key : Bytes) :
    (SlotStorage.discardLocated policy key : Action (Bare β) Unit) =
      onInner (SlotStorage.discardLocated policy key) := by
  ext bare
  rw [run_onInner, SlotStorage.discardLocated, SlotStorage.discardLocated, Action.run_read_bind,
    Action.run_read_bind]
  show Outcome.andThen ⟨Action.answer (SlotStorage.locate bare.inner policy key), bare, []⟩ _ = _
  rcases SlotStorage.locate bare.inner policy key with cause | _ | slot
  · rfl
  · rfl
  · rfl

end Bare

/-! ## Chains and bare chains in step -/

namespace Chains

open Bare (Wraps)

variable {L : Type} [Layout L] [LawfulLayout L] {chains : Chains L} {keySize valueSize : Nat}
  {bs : Buckets} {policy : Policy}

theorem Shows.agrees_insert (h : chains.Shows keySize valueSize bs) {key : Bytes}
    (hkey : key.length = keySize) (hvalueSize : policy.valueSize = valueSize) (memory : Memory)
    (value : Bytes) :
    ((KeyedStorage.insert memory policy key value).run chains).Agrees Wraps Wraps
      ((KeyedStorage.insert memory policy key value).run (⟨chains⟩ : Bare (Chains L))) := by
  have hfast : (KeyedStorage.insert memory policy key value).run chains =
      (SlotStorage.assignReserved memory policy key value).run chains :=
    h.run_insert_eq hkey hvalueSize memory value
  have hbare : (KeyedStorage.insert memory policy key value : Action (Bare (Chains L)) Unit) =
      Bare.onInner (SlotStorage.assignReserved memory policy key value) :=
    Bare.assignReserved_eq memory policy key value
  rw [hfast, hbare]
  exact Bare.agrees_onInner _ chains

theorem Shows.agrees_erase (h : chains.Shows keySize valueSize bs) (policy : Policy) (key : Bytes) :
    ((KeyedStorage.erase policy key).run chains).Agrees Wraps Wraps
      ((KeyedStorage.erase policy key).run (⟨chains⟩ : Bare (Chains L))) := by
  have hfast : (KeyedStorage.erase policy key).run chains =
      (SlotStorage.discardLocated policy key).run chains :=
    h.run_erase_eq policy key
  have hbare : (KeyedStorage.erase policy key : Action (Bare (Chains L)) Unit) =
      Bare.onInner (SlotStorage.discardLocated policy key) :=
    Bare.discardLocated_eq policy key
  rw [hfast, hbare]
  exact Bare.agrees_onInner _ chains

theorem Shows.agrees_readd (h : chains.Shows keySize valueSize bs) {record : SlotRecord}
    (hkey : record.key.length = keySize) (hvalueSize : policy.valueSize = valueSize)
    (memory : Memory) :
    ((KeyedStorage.readd memory policy record).run chains).Agrees Wraps Wraps
      ((KeyedStorage.readd memory policy record).run (⟨chains⟩ : Bare (Chains L))) := by
  rw [KeyedStorage.readd, KeyedStorage.readd]
  by_cases hwritten : record.isWritten
  · rw [if_pos hwritten, if_pos hwritten]
    exact h.agrees_insert hkey hvalueSize memory record.value
  · rw [if_neg hwritten, if_neg hwritten, Action.run_bind, Action.run_bind]
    refine (Bare.agrees_onInner (reserve memory policy record.key) chains).andThen ?_
    exact fun _ _ _ hwraps => .answered hwraps

theorem Shows.agrees_forM_readd (h : chains.Shows keySize valueSize bs) {records : List SlotRecord}
    (hrecords : ∀ record ∈ records, record.key.length = keySize ∧ record.value.length = valueSize)
    (hfits : records ≠ [] → LawfulLayout.Fits L keySize valueSize)
    (hroom : bs.liveCount + records.length < wordLimit) (hvalueSize : policy.valueSize = valueSize)
    (memory : Memory) :
    ((records.forM (KeyedStorage.readd memory policy)).run chains).Agrees Wraps Wraps
      ((records.forM (KeyedStorage.readd memory policy)).run (⟨chains⟩ : Bare (Chains L))) := by
  induction records generalizing bs chains with
  | nil => exact .answered rfl
  | cons record records ih =>
    have hfits' := hfits (List.cons_ne_nil record records)
    have hcount := Buckets.liveCount_readd h.length_pos policy record
    obtain ⟨hkey, hvalue⟩ := hrecords record List.mem_cons_self
    rw [List.length_cons] at hroom
    have hserves := KeyedStorage.serves_readd (β := Chains L) h hfits' (by omega) hvalueSize hkey
      hvalue memory
    rw [List.forM_eq_forM, List.forM_eq_forM, List.forM_cons, List.forM_cons, Action.run_bind,
      Action.run_bind]
    refine ((h.agrees_readd hkey hvalueSize memory).and_left
      (·.Shows keySize valueSize (bs.readd policy record))
      fun _ => hserves.done_of_answer).andThen ?_
    rintro _ after bare ⟨rfl, hafter⟩
    refine ih hafter (fun other hother => hrecords other (List.mem_cons_of_mem _ hother))
      (fun _ => hfits') ?_
    rw [hcount]
    split <;> omega

/-- A rebuild of chains comes to the same by their own operations and by the defaults. -/
theorem Shows.agrees_rehashByRebuild (h : chains.Shows keySize valueSize bs)
    (hkeySize : policy.keySize = keySize) (hvalueSize : policy.valueSize = valueSize)
    (memory : Memory) (bucketCount : Nat) :
    ((KeyedStorage.rehashByRebuild memory policy bucketCount).run chains).Agrees Wraps Wraps
      ((KeyedStorage.rehashByRebuild memory policy bucketCount).run
        (⟨chains⟩ : Bare (Chains L))) := by
  have hchains : LawfulSlotStorage.Shows chains keySize valueSize bs := h
  have hbare : LawfulSlotStorage.Shows (⟨chains⟩ : Bare (Chains L)) keySize valueSize bs := h
  rw [KeyedStorage.rehashByRebuild, KeyedStorage.rehashByRebuild, Action.run_bind, Action.run_bind,
    Action.run_current, Action.run_current, Outcome.andThen_ok, Outcome.andThen_ok,
    KeyedStorage.rebuild_eq hchains, KeyedStorage.rebuild_eq hbare, Bare.create_eq, hkeySize,
    hvalueSize]
  simp only [bind_assoc]
  rcases hcreate : (SlotStorage.create memory keySize valueSize bucketCount :
    Except TableError (Chains L)) with cause | fresh
  · exact .failed rfl
  have hfresh : fresh.Shows keySize valueSize (Buckets.empty bucketCount) := .of_create hcreate
  obtain ⟨hfits, hroom⟩ := KeyedStorage.room_of_shows hchains bucketCount
  have hfilled := hfresh.agrees_forM_readd
    (fun _ => (LawfulLayout.sized h.layout).of_mem_liveRecords) hfits hroom hvalueSize memory
  rw [Except.map, Action.run_bind, Action.run_bind, Action.run_liftM_ok, Action.run_liftM_ok,
    Outcome.andThen_ok, Outcome.andThen_ok, Action.run_bind, Action.run_bind]
  rcases hfilled.apart chains (⟨chains⟩ : Bare (Chains L)) with
    ⟨_, filled, bare, log, log', hwraps, hrun, hrun'⟩ | ⟨cause, log, log', hrun, hrun'⟩
  · obtain rfl := hwraps
    have hsize : SlotStorage.size bare = SlotStorage.size bare.inner := rfl
    rw [hrun, hrun', Outcome.andThen, Outcome.andThen, hsize]
    dsimp only
    by_cases hcount : SlotStorage.size bare.inner = bs.liveCount
    · rw [if_pos hcount, if_pos hcount, pure_bind, pure_bind]
      exact .answered rfl
    · rw [if_neg hcount, if_neg hcount]
      exact .failed rfl
  · rw [hrun, hrun']
    exact .failed rfl

end Chains

end ByteTable
