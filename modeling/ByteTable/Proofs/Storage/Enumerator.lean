import ByteTable.Proofs.Storage.Lawful
import ByteTable.Storage.Enumerator

/-!
# Enumerators walk the list of the live slots

An enumerator over a lawful storage is a cursor in the list of the live slots, and shows what the
slot it stands on holds.  Its moves are those of the cursor (`Buckets.target`), and `collect`
gathers what is left of the list.

The fuel of `collect` is never what ends it: the list is no longer than the storage's `extent`.
-/

namespace ByteTable

/-- The part of a record that an enumerator shows. -/
def SlotRecord.element : ElementKind → SlotRecord → Bytes
  | .key, record => record.key
  | .value, record => record.value

namespace Buckets

/-- Where a move leads from a cursor. -/
def target (bs : Buckets) (cursor : Cursor) : Move → Cursor
  | .head => bs.step .head .next
  | .tail => bs.step .tail .previous
  | .next => bs.step cursor .next
  | .previous => bs.step cursor .previous
  | .stay => cursor

/-- What an enumerator shows at a cursor. -/
def shown (bs : Buckets) (kind : ElementKind) (cursor : Cursor) : Option Bytes :=
  cursor.slot?.bind fun slot => (bs.live? slot).map (SlotRecord.element kind)

theorem standing_target {bs : Buckets} {cursor : Cursor} (h : bs.Standing cursor) (move : Move) :
    bs.Standing (bs.target cursor move) := by
  cases move with
  | stay => exact h
  | head => exact standing_step bs .head .next
  | tail => exact standing_step bs .tail .previous
  | next => exact standing_step bs cursor .next
  | previous => exact standing_step bs cursor .previous

theorem standing_cursorOf_head? {bs : Buckets} {before rest : List Slot}
    (h : bs.liveSlots = before ++ rest) : bs.Standing (cursorOf rest.head?) := by
  refine standing_cursorOf ?_
  intro slot hslot
  rw [h]
  exact List.mem_append_right _ (List.mem_of_mem_head? hslot)

end Buckets

namespace Enumerator

open LawfulSlotStorage

variable {β : Type} [SlotStorage β] [LawfulSlotStorage β] {storage : β} {keySize valueSize : Nat}
  {bs : Buckets} {cursor : Cursor}

theorem start_eq (h : Shows storage keySize valueSize bs) (kind : ElementKind) :
    start storage kind = .ok ⟨storage, kind, bs.step .head .next⟩ := by
  have hstanding : bs.Standing .head := fun slot hslot => by cases hslot
  rw [start, step_eq h hstanding]
  rfl

omit [LawfulSlotStorage β] in
theorem handle_eq {σ : Type} {e : Enumerator β} {slot : Slot} (hstorage : e.storage = storage)
    (hslot : e.slot? = some slot) :
    (e.handle : Action σ (Option Handle)) =
      Handle.pack (SlotStorage.bucketCount storage) slot := by
  rw [handle, hslot, hstorage]

theorem current_eq (h : Shows storage keySize valueSize bs) (kind : ElementKind)
    (cursor : Cursor) : current ⟨storage, kind, cursor⟩ = .ok (bs.shown kind cursor) := by
  rw [current, slot?, Buckets.shown]
  rcases cursor.slot? with _ | slot
  · rfl
  · cases kind with
    | key => exact keyAt_eq h slot
    | value => exact valueAt_eq h slot

theorem target_eq (h : Shows storage keySize valueSize bs) (hstanding : bs.Standing cursor)
    (move : Move) : target storage cursor move = .ok (bs.target cursor move) := by
  have hhead : bs.Standing .head := fun slot hslot => by cases hslot
  have htail : bs.Standing .tail := fun slot hslot => by cases hslot
  cases move with
  | head => exact step_eq h hhead .next
  | tail => exact step_eq h htail .previous
  | next => exact step_eq h hstanding .next
  | previous => exact step_eq h hstanding .previous
  | stay => rfl

theorem perform_eq (h : Shows storage keySize valueSize bs) (kind : ElementKind)
    (hstanding : bs.Standing cursor) (move : Move) :
    perform ⟨storage, kind, cursor⟩ move =
      .ok (⟨storage, kind, bs.target cursor move⟩, bs.shown kind (bs.target cursor move)) := by
  rw [perform, target_eq h hstanding, ok_bind]
  dsimp only
  rw [current_eq h]
  rfl

/-- Moving forward, an enumerator shows what is left of the list. -/
theorem collectUpTo_eq (h : Shows storage keySize valueSize bs) (kind : ElementKind)
    {before rest : List Slot} (hrest : bs.liveSlots = before ++ rest) {fuel : Nat}
    (hfuel : rest.length ≤ fuel) :
    collectUpTo ⟨storage, kind, Buckets.cursorOf rest.head?⟩ fuel
        (bs.shown kind (Buckets.cursorOf rest.head?)) =
      .ok ((rest.filterMap bs.live?).map (SlotRecord.element kind)) := by
  induction rest generalizing before fuel with
  | nil => cases fuel <;> rfl
  | cons slot rest ih =>
    have hne : fuel ≠ 0 := by
      rw [List.length_cons] at hfuel
      omega
    obtain ⟨fuel, rfl⟩ := Nat.exists_eq_add_one_of_ne_zero hne
    obtain ⟨record, hrecord⟩ := Buckets.mem_liveSlots_iff.mp
      (hrest ▸ List.mem_append_right before List.mem_cons_self)
    have hshown : bs.shown kind (.on slot) = some (record.element kind) := by
      rw [Buckets.shown, Cursor.slot?, Option.bind_some, hrecord, Option.map_some]
    have hnext : bs.target (.on slot) .next = Buckets.cursorOf rest.head? :=
      Buckets.step_next_of_eq hrest
    have hstanding : bs.Standing (.on slot) := Buckets.standing_cursorOf_head? hrest
    rw [List.head?_cons, Buckets.cursorOf, hshown, collectUpTo, perform_eq h kind hstanding,
      ok_bind, hnext]
    dsimp only
    have hrest' : bs.liveSlots = (before ++ [slot]) ++ rest := by
      rw [hrest, List.append_assoc, List.singleton_append]
    rw [ih hrest' (Nat.le_of_succ_le_succ hfuel), ok_bind, List.filterMap_cons_some hrecord]
    rfl

end Enumerator

/-- An enumerator lists all keys, or all values, in the order of the live slots. -/
theorem SlotStorage.enumerate_eq {β : Type} [SlotStorage β] [LawfulSlotStorage β] {storage : β}
    {keySize valueSize : Nat} {bs : Buckets}
    (h : LawfulSlotStorage.Shows storage keySize valueSize bs) (kind : ElementKind) :
    enumerate storage kind = .ok (bs.liveRecords.map (SlotRecord.element kind)) := by
  have hextent := LawfulSlotStorage.length_liveSlots_le h
  have hall : bs.liveSlots = [] ++ bs.liveSlots := (List.nil_append _).symm
  have hcollect := Enumerator.collectUpTo_eq h kind hall (Nat.le_succ_of_le hextent)
  rw [enumerate, Enumerator.start_eq h, ok_bind, Enumerator.collect, Enumerator.current_eq h,
    ok_bind, ← Buckets.filterMap_liveSlots]
  exact hcollect

end ByteTable
