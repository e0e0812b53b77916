import ByteTable.Proofs.Storage.Enumerator
import ByteTable.Table.Pairs

/-!
# Iterating over the pairs

The calls of an iterator over a lawful storage show the pairs of the written live slots, in the
order of the walk, and then nothing any more.

`Pairs.Left` is the invariant: what is left of the pairs is what is left of the list of live slots,
and the budget exceeds the length of that rest.  A call takes one unit of the budget for every slot
that it passes, so the budget runs out only after the list has.
-/

namespace ByteTable

/-- The key and the value of a record, if its value was written. -/
def SlotRecord.pair? (record : SlotRecord) : Option (Bytes × Bytes) :=
  record.value?.map fun value => (record.key, value)

namespace Buckets

/-- The pairs of the slots of a list. -/
def pairsOf (bs : Buckets) (slots : List Slot) : List (Bytes × Bytes) :=
  (slots.filterMap bs.live?).filterMap SlotRecord.pair?

/-- Whether a cursor stands just before a rest of the list of the live slots. -/
def Ahead (bs : Buckets) (cursor : Cursor) (rest : List Slot) : Prop :=
  bs.Standing cursor ∧ bs.step cursor .next = cursorOf rest.head? ∧
    ∃ before, bs.liveSlots = before ++ rest

theorem ahead_head (bs : Buckets) : bs.Ahead .head bs.liveSlots := by
  have hstanding : bs.Standing .head := by
    intro slot hslot
    cases hslot
  exact ⟨hstanding, rfl, [], rfl⟩

theorem Ahead.tail {bs : Buckets} {cursor : Cursor} {slot : Slot} {rest : List Slot}
    (h : bs.Ahead cursor (slot :: rest)) : bs.Ahead (.on slot) rest := by
  obtain ⟨-, -, before, hsplit⟩ := h
  refine ⟨standing_cursorOf_head? hsplit, step_next_of_eq hsplit, before ++ [slot], ?_⟩
  rw [hsplit, List.append_assoc, List.singleton_append]

end Buckets

namespace Pairs

open LawfulSlotStorage

variable {β : Type} [SlotStorage β] [LawfulSlotStorage β] {storage : β} {keySize valueSize : Nat}
  {bs : Buckets}

/-- Whether an iterator at this cursor, with this budget, has exactly these pairs left. -/
def Left (bs : Buckets) (cursor : Cursor) (budget : Nat) (pairs : List (Bytes × Bytes)) : Prop :=
  (cursor = .exhausted ∧ pairs = []) ∨
    ∃ rest, bs.Ahead cursor rest ∧ rest.length < budget ∧ pairs = bs.pairsOf rest

theorem pairAt?_eq (h : Shows storage keySize valueSize bs) {slot : Slot} {record : SlotRecord}
    (hslot : bs.live? slot = some record) : pairAt? storage slot = .ok record.pair? := by
  rw [pairAt?, isWritten_eq h, keyAt_eq h, valueAt_eq h, hslot, ok_bind, Option.any_some,
    SlotRecord.pair?, SlotRecord.value?]
  by_cases hwritten : record.isWritten
  · rw [if_pos hwritten, if_pos hwritten]
    rfl
  · rw [if_neg hwritten, if_neg hwritten]
    rfl

/-- Going on from a cursor shows the first pair of the rest and leaves the others. -/
theorem advance_eq (h : Shows storage keySize valueSize bs) {cursor : Cursor} {rest : List Slot}
    (hahead : bs.Ahead cursor rest) {budget : Nat} (hbudget : rest.length < budget) :
    ∃ cursor' budget', advance storage cursor budget =
        .ok (cursor', budget', (bs.pairsOf rest).head?) ∧
      Left bs cursor' budget' (bs.pairsOf rest).tail := by
  induction rest generalizing cursor budget with
  | nil =>
    have hne : budget ≠ 0 := Nat.ne_of_gt hbudget
    obtain ⟨budget, rfl⟩ := Nat.exists_eq_add_one_of_ne_zero hne
    refine ⟨.exhausted, budget, ?_, .inl ⟨rfl, rfl⟩⟩
    rw [advance, step_eq h hahead.1, ok_bind, hahead.2.1]
    rfl
  | cons slot rest ih =>
    have hne : budget ≠ 0 := by omega
    obtain ⟨budget, rfl⟩ := Nat.exists_eq_add_one_of_ne_zero hne
    have hnext := hahead.tail
    obtain ⟨record, hslot⟩ := Buckets.mem_liveSlots_iff.mp (hnext.1 slot rfl)
    have hrest : rest.length < budget := Nat.lt_of_succ_lt_succ hbudget
    have hadvance : advance storage cursor (budget + 1) =
        record.pair?.elim (advance storage (.on slot) budget)
          fun pair => .ok (.on slot, budget, some pair) := by
      rw [advance, step_eq h hahead.1, ok_bind, hahead.2.1, List.head?_cons, Buckets.cursorOf]
      dsimp only
      rw [pairAt?_eq h hslot, ok_bind]
      cases record.pair? with
      | none => rfl
      | some pair => rfl
    rw [hadvance, Buckets.pairsOf, List.filterMap_cons_some hslot]
    rcases hpair : record.pair? with _ | pair
    · rw [List.filterMap_cons_none hpair]
      exact ih hnext hrest
    · rw [List.filterMap_cons_some hpair]
      exact ⟨.on slot, budget, rfl, .inr ⟨rest, hnext, hrest, rfl⟩⟩

/-- Each call shows the next of the pairs that are left. -/
theorem next?_eq (h : Shows storage keySize valueSize bs) {cursor : Cursor} {budget : Nat}
    {pairs : List (Bytes × Bytes)} (hleft : Left bs cursor budget pairs) :
    ∃ cursor' budget', next? ⟨storage, cursor, budget⟩ =
        .ok (pairs.head?, ⟨storage, cursor', budget'⟩) ∧ Left bs cursor' budget' pairs.tail := by
  obtain ⟨rfl, rfl⟩ | ⟨rest, hahead, hbudget, rfl⟩ := hleft
  · have hstanding : bs.Standing .exhausted := fun slot hslot => by cases hslot
    cases budget with
    | zero => exact ⟨.exhausted, 0, rfl, .inl ⟨rfl, rfl⟩⟩
    | succ budget =>
      refine ⟨.exhausted, budget, ?_, .inl ⟨rfl, rfl⟩⟩
      rw [next?, advance, step_eq h hstanding]
      rfl
  · obtain ⟨cursor', budget', hadvance, hleft⟩ := advance_eq h hahead hbudget
    refine ⟨cursor', budget', ?_, hleft⟩
    rw [next?, hadvance]
    rfl

theorem take_eq (h : Shows storage keySize valueSize bs) {cursor : Cursor} {budget : Nat}
    {pairs : List (Bytes × Bytes)} (hleft : Left bs cursor budget pairs) (calls : Nat) :
    take ⟨storage, cursor, budget⟩ calls = .ok ((List.range calls).map fun i => pairs[i]?) := by
  induction calls generalizing cursor budget pairs with
  | zero => rfl
  | succ calls ih =>
    obtain ⟨cursor', budget', hnext, hleft'⟩ := next?_eq h hleft
    rw [take, hnext, ok_bind]
    dsimp only
    rw [ih hleft', ok_bind, List.range_succ_eq_map, List.map_cons, List.map_map,
      List.head?_eq_getElem?]
    simp only [Function.comp_def, Nat.succ_eq_add_one, List.getElem?_tail]
    rfl

/-- Enough calls show all the pairs that were left. -/
theorem filterMap_id_shown {pairs : List (Bytes × Bytes)} {calls : Nat}
    (h : pairs.length ≤ calls) :
    ((List.range calls).map fun i => pairs[i]?).filterMap id = pairs := by
  induction calls generalizing pairs with
  | zero =>
    rw [List.length_eq_zero_iff.mp (Nat.le_zero.mp h)]
    rfl
  | succ calls ih =>
    have hrest : ((List.range calls).map fun i => pairs.tail[i]?).filterMap id = pairs.tail :=
      ih (by rw [List.length_tail]; exact Nat.sub_le_of_le_add h)
    rw [List.range_succ_eq_map, List.map_cons, List.map_map]
    cases pairs with
    | nil => exact hrest
    | cons pair pairs => exact congrArg (List.cons pair) hrest

end Pairs

end ByteTable
