import ByteTable.Proofs.Storage.Cursor
import ByteTable.Proofs.Table.Invariant

/-!
# All views list the same slots

A table shows its live slots in five ways: as keys, as values, to an enumerator over either, and to
an iterator over pairs.  Each goes over the slots in a manner of its own, one by nested loops, one
by steps of a cursor, one by skipping what was never written.  `Table.Views` says that there is one
list of slots behind all of them, sorted by bucket and item, and as long as the counter says.
-/

namespace ByteTable

/-- The pairs of some records are those of the written ones. -/
theorem SlotRecord.filterMap_pair? (records : List SlotRecord) :
    records.filterMap pair? =
      (records.filter (·.word.isWritten)).map fun record => (record.key, record.value) := by
  rw [← List.filterMap_eq_map, List.filterMap_filter]
  refine List.filterMap_congr fun record _ => ?_
  rw [pair?, value?, isWritten]
  cases record.word.isWritten with
  | false => rfl
  | true => rfl

namespace Buckets

/-- From slot to slot, an enumerator shows what the live records hold. -/
theorem map_elementAt_liveSlots (bs : Buckets) (kind : ElementKind) :
    bs.liveSlots.map (bs.elementAt kind) =
      (bs.liveRecords.map (SlotRecord.element kind)).map some := by
  have hslots := congrArg (List.map (Option.map (SlotRecord.element kind))) bs.map_at?_liveSlots
  rw [List.map_map, List.map_map] at hslots
  rw [List.map_map]
  exact hslots

theorem getElem?_map_liveRecords {α : Type} (bs : Buckets) (f : SlotRecord → α) (i : Nat) :
    (bs.liveRecords.map f)[i]? = (bs.liveSlots[i]?.bind bs.at?).map f := by
  have hslots := congrArg (·[i]?) bs.map_at?_liveSlots
  simp only [List.getElem?_map] at hslots
  rw [List.getElem?_map]
  rcases hslot : bs.liveSlots[i]? with _ | slot
  · rw [hslot, Option.map_none, eq_comm, Option.map_eq_none_iff] at hslots
    rw [hslots]
    rfl
  · rw [hslot, Option.map_some, eq_comm, Option.map_eq_some_iff] at hslots
    obtain ⟨record, hrecord, hat⟩ := hslots
    rw [hrecord, Option.bind_some, ← hat]

end Buckets

/-- Whether the views of a table list the same slots, with what they hold: `slots` are all that are
no tombstones, in their order, and `records` is what they hold. -/
structure Table.Views {kind : StorageKind} (table : Table kind.Store) (buckets : Buckets)
    (slots : List Slot) (records : List SlotRecord) : Prop where
  contents_eq : kind.contents table.storage = .ok buckets
  pairwise : slots.Pairwise Slot.Before
  mem_iff {slot : Slot} : slot ∈ slots ↔
    ∃ record, buckets.at? slot = some record ∧ record.word.isTombstone = false
  length_eq : slots.length = table.size
  map_at?_eq : slots.map buckets.at? = records.map some
  keys_eq : table.keys = .ok (records.map SlotRecord.key)
  values_eq : table.values = .ok (records.map SlotRecord.value)
  /-- The key and the value at a place in their lists are those of the slot at that place. -/
  same_slot {keys values : List Bytes} : table.keys = .ok keys → table.values = .ok values →
    ∀ i : Nat, keys[i]? = (slots[i]?.bind buckets.at?).map SlotRecord.key ∧
      values[i]? = (slots[i]?.bind buckets.at?).map SlotRecord.value
  /-- An enumerator shows the first element, and all others as it moves forward, and then
  nothing. -/
  walk (element : ElementKind) : ∃ e e' first rest, table.enumerator element = .ok e ∧
    e.current = .ok first ∧
    e.performAll (List.replicate table.size .next) = .ok (e', rest) ∧
    first :: rest = (records.map (SlotRecord.element element)).map some ++ [none]
  /-- An iterator shows the pairs of those that were written, and nothing in any call after them. -/
  take_pairs (calls : Nat) : table.pairs.take calls = .ok ((List.range calls).map fun i =>
    ((records.filter (·.word.isWritten)).map fun record => (record.key, record.value))[i]?)

/-- On its way to the end, an enumerator over a table shows all live slots. -/
theorem Table.Shows.exists_walk {β : Type} [Storage β] [LawfulStorage β] {policy : Policy}
    {bs : Buckets} {table : Table β} (h : table.Shows policy bs) (element : ElementKind) :
    ∃ e e' first rest, table.enumerator element = .ok e ∧ e.current = .ok first ∧
      e.performAll (List.replicate bs.liveSlots.length .next) = .ok (e', rest) ∧
      first :: rest = (bs.liveRecords.map (SlotRecord.element element)).map some ++ [none] := by
  have hcurrent := Enumerator.current_eq h.storage element (bs.cursorAt (Move.head.lead none))
  rw [Enumerator.shown_cursorAt] at hcurrent
  have hrun := Enumerator.performAll_cursorAt h.storage element (Move.head.lead none)
    (List.replicate bs.liveSlots.length .next)
  refine ⟨_, _, _, _, Enumerator.start_eq_cursorAt h.storage element, hcurrent, hrun, ?_⟩
  -- The first position and those of the run are the positions of one walk from the head.
  rw [← List.map_cons, ← Move.leads, Buckets.map_shownAt, Move.map_leads_head,
    Buckets.map_bind_elementAt, Buckets.map_elementAt_liveSlots]

/-- All views of a table that operations led to list the same slots. -/
theorem Table.Reachable.exists_views {kind : StorageKind} {policy : Policy}
    {table : Table kind.Store} (h : table.Reachable policy) :
    ∃ buckets slots records, table.Views buckets slots records := by
  obtain ⟨bs, hshows⟩ := h.exists_shows
  have hsize : bs.liveSlots.length = table.size := by
    rw [bs.length_liveSlots]
    exact (LawfulSlotStorage.size_eq hshows.storage).symm
  have hkeys : table.keys = .ok (bs.liveRecords.map SlotRecord.key) :=
    LawfulKeyedStorage.keys_eq hshows.storage
  have hvalues : table.values = .ok (bs.liveRecords.map SlotRecord.value) :=
    LawfulKeyedStorage.values_eq hshows.storage
  refine ⟨bs, bs.liveSlots, bs.liveRecords, ?_⟩
  exact {
    contents_eq := StorageKind.contents_eq hshows.storage
    pairwise := bs.pairwise_before_liveSlots
    mem_iff := Buckets.mem_liveSlots_iff_isTombstone
    length_eq := hsize
    map_at?_eq := bs.map_at?_liveSlots
    keys_eq := hkeys
    values_eq := hvalues
    same_slot := by
      intro keys values hkeys' hvalues' i
      rw [hkeys, Except.ok.injEq] at hkeys'
      rw [hvalues, Except.ok.injEq] at hvalues'
      rw [← hkeys', ← hvalues']
      exact ⟨bs.getElem?_map_liveRecords _ i, bs.getElem?_map_liveRecords _ i⟩
    walk := by
      intro element
      rw [← hsize]
      exact hshows.exists_walk element
    take_pairs := by
      intro calls
      rw [← SlotRecord.filterMap_pair?]
      exact Operation.take_pairs_eq hshows calls }

/-- Of three keys one was removed again, and one is only reserved. -/
theorem Table.views_of_reserved_and_removed :
    ∃ (table : Table (StorageKind.Store (.chains .fullySeparated))) (buckets : Buckets)
      (slots : List Slot) (records : List SlotRecord), table.Reachable (.standard 1 1) ∧
        table.Views buckets slots records ∧ slots.length = 2 ∧
        (table.pairs.take 3).toOption = some [some ([2], [8]), none, none] := by
  have hcreate : (create Memory.full (.standard 1 1) 2 : Action Unit
      (Table (StorageKind.Store (.chains .fullySeparated)))).run () = ⟨.ok _, (), []⟩ := rfl
  have hnew := Reachable.created hcreate
  have hone := hnew.step (by decide) Memory.full (.insert [1] [7])
  have htwo := hone.step (by decide +kernel) Memory.full (.insert [2] [8])
  have hthree := htwo.step (by decide +kernel) Memory.full (.reserve [3])
  have hfinal := hthree.step (by decide +kernel) Memory.full (.erase [1])
  obtain ⟨buckets, slots, records, hviews⟩ := hfinal.exists_views
  have hsize : slots.length = 2 := by
    rw [hviews.length_eq]
    decide +kernel
  exact ⟨_, buckets, slots, records, hfinal, hviews, hsize, by decide +kernel⟩

end ByteTable
