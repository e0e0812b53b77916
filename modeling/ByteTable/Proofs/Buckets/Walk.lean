import ByteTable.Proofs.Buckets.Basic
import Mathlib.Data.List.Induction
import Mathlib.Data.List.Nodup

/-!
# Walking over buckets

The live slots in the order in which a table shows them, bucket by bucket (`Buckets.liveSlots`), and
the walk from one to the next, `Buckets.step`.  The walk is defined by the list alone, as the
neighbour of a slot in it.  How a layout finds the neighbour, by scanning upward or downward from
the slot, uses that the slots below and above a slot make up all others (`slots_eq_append`).

No slot occurs twice, so a way to write the live slots as a beginning, a slot and a rest is the only
one with that slot, and fixes both its neighbours (`step_next_of_eq`, `step_previous_of_eq`).
-/

namespace ByteTable

namespace Buckets

/-- The slots of a bucket. -/
def rowSlots (bs : Buckets) (bucket : Nat) : List Slot :=
  (List.range (bs.row bucket).length).map (Slot.mk bucket)

/-- All slots, tombstones included. -/
def slots (bs : Buckets) : List Slot :=
  (List.range bs.length).flatMap bs.rowSlots

/-- The slots below an item of a bucket, those of the buckets below included. -/
def slotsBelow (bs : Buckets) (bucket item : Nat) : List Slot :=
  (List.range bucket).flatMap bs.rowSlots ++ (List.range item).map (Slot.mk bucket)

/-- The slots from an item of a bucket on, those of the buckets above included. -/
def slotsFrom (bs : Buckets) (bucket item : Nat) : List Slot :=
  (List.range' item ((bs.row bucket).length - item)).map (Slot.mk bucket) ++
    (List.range' (bucket + 1) (bs.length - (bucket + 1))).flatMap bs.rowSlots

/-- Whether a slot is live. -/
def isLiveAt (bs : Buckets) (slot : Slot) : Bool :=
  (bs.live? slot).isSome

/-- The live slots, bucket by bucket. -/
def liveSlots (bs : Buckets) : List Slot :=
  bs.slots.filter bs.isLiveAt

/-- The cursor on a slot, or the exhausted one. -/
def cursorOf : Option Slot → Cursor
  | some slot => .on slot
  | none => .exhausted

/-- The neighbour of a cursor in the list of the live slots. -/
def step (bs : Buckets) : Cursor → Direction → Cursor
  | .head, .next => cursorOf bs.liveSlots.head?
  | .tail, .previous => cursorOf bs.liveSlots.getLast?
  | .on slot, .next => cursorOf (bs.liveSlots.dropWhile (· != slot)).tail.head?
  | .on slot, .previous => cursorOf (bs.liveSlots.takeWhile (· != slot)).getLast?
  | _, _ => .exhausted

/-- Whether a cursor that stands on a slot stands on a live one. -/
def Standing (bs : Buckets) (cursor : Cursor) : Prop :=
  ∀ slot, cursor = .on slot → slot ∈ bs.liveSlots

/-! ## The slots of all buckets -/

theorem mem_rowSlots_iff {bs : Buckets} {bucket : Nat} {slot : Slot} :
    slot ∈ bs.rowSlots bucket ↔ slot.bucket = bucket ∧ slot.item < (bs.row bucket).length := by
  rw [rowSlots, List.mem_map]
  constructor
  · rintro ⟨item, hitem, rfl⟩
    exact ⟨rfl, List.mem_range.mp hitem⟩
  · rintro ⟨rfl, hitem⟩
    exact ⟨slot.item, List.mem_range.mpr hitem, rfl⟩

theorem mem_slots_iff {bs : Buckets} {slot : Slot} :
    slot ∈ bs.slots ↔ ∃ record, bs.at? slot = some record := by
  rw [slots, List.mem_flatMap]
  constructor
  · rintro ⟨bucket, -, hslot⟩
    obtain ⟨rfl, hitem⟩ := mem_rowSlots_iff.mp hslot
    exact Grid.exists_at?_of_item_lt hitem
  · rintro ⟨record, hslot⟩
    exact ⟨slot.bucket, List.mem_range.mpr (Grid.bucket_lt_of_at? hslot),
      mem_rowSlots_iff.mpr ⟨rfl, Grid.item_lt_of_at? hslot⟩⟩

theorem mem_liveSlots_iff {bs : Buckets} {slot : Slot} :
    slot ∈ bs.liveSlots ↔ ∃ record, bs.live? slot = some record := by
  rw [liveSlots, List.mem_filter, mem_slots_iff, isLiveAt, Option.isSome_iff_exists]
  constructor
  · exact And.right
  · rintro ⟨record, h⟩
    exact ⟨⟨record, (live?_eq_some_iff.mp h).1⟩, record, h⟩

theorem nodup_slots (bs : Buckets) : bs.slots.Nodup := by
  rw [slots, List.nodup_flatMap]
  refine ⟨fun bucket _ => ?_,
    List.nodup_range.pairwise_of_forall_ne fun bucket _ bucket' _ hne => ?_⟩
  · exact List.nodup_range.map fun item item' h => (Slot.mk.inj h).2
  · intro slot hslot hslot'
    exact hne ((mem_rowSlots_iff.mp hslot).1.symm.trans (mem_rowSlots_iff.mp hslot').1)

theorem nodup_liveSlots (bs : Buckets) : bs.liveSlots.Nodup :=
  bs.nodup_slots.filter _

theorem slotsFrom_zero {bs : Buckets} {bucket : Nat} (h : bucket < bs.length) :
    bs.slotsFrom bucket 0 = (List.range' bucket (bs.length - bucket)).flatMap bs.rowSlots := by
  obtain ⟨count, hcount⟩ := Nat.exists_eq_add_of_lt h
  have hrange : bs.length - bucket = bs.length - (bucket + 1) + 1 := by omega
  rw [hrange, List.range'_succ, List.flatMap_cons, slotsFrom, rowSlots, List.range_eq_range',
    Nat.sub_zero]

theorem slotsBelow_length (bs : Buckets) (bucket : Nat) :
    bs.slotsBelow bucket (bs.row bucket).length =
      (List.range (bucket + 1)).flatMap bs.rowSlots := by
  rw [slotsBelow, List.range_succ, List.flatMap_append, List.flatMap_singleton, rowSlots]

/-- The slots below an item and those from it on are all slots. -/
theorem slots_eq_append {bs : Buckets} {bucket item : Nat} (hbucket : bucket < bs.length)
    (hitem : item ≤ (bs.row bucket).length) :
    bs.slots = bs.slotsBelow bucket item ++ bs.slotsFrom bucket item := by
  have hrow : bs.rowSlots bucket = (List.range item).map (Slot.mk bucket) ++
      (List.range' item ((bs.row bucket).length - item)).map (Slot.mk bucket) := by
    have hsplit := List.range'_append_1 (s := 0) (m := item) (n := (bs.row bucket).length - item)
    rw [Nat.zero_add, Nat.add_sub_cancel' hitem] at hsplit
    rw [rowSlots, List.range_eq_range', ← hsplit, List.map_append, List.range_eq_range']
  have hall : List.range bs.length = List.range bucket ++
      bucket :: List.range' (bucket + 1) (bs.length - (bucket + 1)) := by
    have hsplit := List.range'_append_1 (s := 0) (m := bucket) (n := bs.length - bucket)
    have hcons : bs.length - bucket = bs.length - (bucket + 1) + 1 := by omega
    rw [Nat.zero_add, Nat.add_sub_cancel' (Nat.le_of_lt hbucket), hcons, List.range'_succ] at hsplit
    rw [List.range_eq_range', ← hsplit, List.range_eq_range']
  rw [slots, hall, List.flatMap_append, List.flatMap_cons, hrow, slotsBelow, slotsFrom]
  simp only [List.append_assoc]

theorem slotsFrom_eq_cons {bs : Buckets} {slot : Slot} {record : SlotRecord}
    (h : bs.at? slot = some record) :
    bs.slotsFrom slot.bucket slot.item = slot :: bs.slotsFrom slot.bucket (slot.item + 1) := by
  have hitem := Grid.item_lt_of_at? h
  have hlength : (bs.row slot.bucket).length - slot.item =
      (bs.row slot.bucket).length - (slot.item + 1) + 1 := by omega
  rw [slotsFrom, hlength, List.range'_succ, List.map_cons, List.cons_append, slotsFrom]

theorem liveSlots_eq_append {bs : Buckets} {slot : Slot} (h : slot ∈ bs.liveSlots) :
    bs.liveSlots = (bs.slotsBelow slot.bucket slot.item).filter bs.isLiveAt ++
      slot :: (bs.slotsFrom slot.bucket (slot.item + 1)).filter bs.isLiveAt := by
  obtain ⟨record, hrecord⟩ := mem_liveSlots_iff.mp h
  have hat := (live?_eq_some_iff.mp hrecord).1
  have hlive : bs.isLiveAt slot = true := by rw [isLiveAt, hrecord, Option.isSome_some]
  have hitem := Nat.le_of_lt (Grid.item_lt_of_at? hat)
  rw [liveSlots, slots_eq_append (Grid.bucket_lt_of_at? hat) hitem, slotsFrom_eq_cons hat,
    List.filter_append, List.filter_cons_of_pos hlive]

/-! ## Neighbours -/

theorem notMem_of_liveSlots_eq {bs : Buckets} {before after : List Slot} {slot : Slot}
    (h : bs.liveSlots = before ++ slot :: after) : slot ∉ before := by
  have hnodup := bs.nodup_liveSlots
  rw [h, List.nodup_append] at hnodup
  intro hslot
  exact hnodup.2.2 slot hslot slot List.mem_cons_self rfl

theorem step_next_of_eq {bs : Buckets} {before after : List Slot} {slot : Slot}
    (h : bs.liveSlots = before ++ slot :: after) :
    bs.step (.on slot) .next = cursorOf after.head? := by
  have hbefore : ∀ place ∈ before, (place != slot) = true := by
    intro place hplace
    rw [bne_iff_ne]
    exact fun heq => notMem_of_liveSlots_eq h (heq ▸ hplace)
  rw [step, h, List.dropWhile_append_of_pos hbefore, List.dropWhile_cons_of_neg (by simp),
    List.tail_cons]

theorem step_previous_of_eq {bs : Buckets} {before after : List Slot} {slot : Slot}
    (h : bs.liveSlots = before ++ slot :: after) :
    bs.step (.on slot) .previous = cursorOf before.getLast? := by
  have hbefore : ∀ place ∈ before, (place != slot) = true := by
    intro place hplace
    rw [bne_iff_ne]
    exact fun heq => notMem_of_liveSlots_eq h (heq ▸ hplace)
  rw [step, h, List.takeWhile_append_of_pos hbefore, List.takeWhile_cons_of_neg (by simp),
    List.append_nil]

theorem standing_cursorOf {bs : Buckets} {slot? : Option Slot}
    (h : ∀ slot, slot? = some slot → slot ∈ bs.liveSlots) : bs.Standing (cursorOf slot?) := by
  intro slot hslot
  cases slot? with
  | none => cases hslot
  | some slot' =>
    cases hslot
    exact h slot rfl

/-- A step ends on a live slot, if on any. -/
theorem standing_step (bs : Buckets) (cursor : Cursor) (direction : Direction) :
    bs.Standing (bs.step cursor direction) := by
  have hexhausted : bs.Standing .exhausted := fun slot hslot => by cases hslot
  cases cursor with
  | head =>
    cases direction with
    | next => exact standing_cursorOf fun slot hslot => List.mem_of_mem_head? hslot
    | previous => exact hexhausted
  | tail =>
    cases direction with
    | next => exact hexhausted
    | previous => exact standing_cursorOf fun slot hslot => List.mem_of_getLast? hslot
  | on place =>
    cases direction with
    | next =>
      refine standing_cursorOf ?_
      intro slot hslot
      exact (List.dropWhile_sublist _).mem (List.mem_of_mem_tail (List.mem_of_mem_head? hslot))
    | previous =>
      refine standing_cursorOf ?_
      intro slot hslot
      exact (List.takeWhile_sublist _).mem (List.mem_of_getLast? hslot)
  | exhausted => exact hexhausted

/-! ## What the live slots hold -/

theorem filterMap_rowSlots (bs : Buckets) (bucket : Nat) :
    (bs.rowSlots bucket).filterMap bs.at? = bs.row bucket := by
  have hat : bs.at? ∘ Slot.mk bucket = fun item => (bs.row bucket)[item]? := rfl
  rw [rowSlots, List.filterMap_map, hat]
  induction bs.row bucket using List.reverseRecOn with
  | nil => rfl
  | append_singleton row record ih =>
    have hrow : ∀ item ∈ List.range row.length, (row ++ [record])[item]? = row[item]? :=
      fun item hitem => List.getElem?_append_left (List.mem_range.mp hitem)
    rw [List.length_append, List.length_singleton, List.range_succ, List.filterMap_append,
      List.filterMap_congr hrow, ih]
    simp

theorem filterMap_slots (bs : Buckets) : bs.slots.filterMap bs.at? = bs.flatten := by
  have hrows : (List.range bs.length).map bs.row = bs := by
    apply List.ext_getElem (by simp)
    intro bucket _ hlt
    simp [Grid.row, List.getElem?_eq_getElem hlt]
  rw [slots, List.filterMap_flatMap]
  simp only [filterMap_rowSlots]
  rw [List.flatMap_def, hrows]

/-- The live slots hold the live records, in order. -/
theorem filterMap_liveSlots (bs : Buckets) : bs.liveSlots.filterMap bs.live? = bs.liveRecords := by
  have hdead : ∀ slot, (if bs.isLiveAt slot then bs.live? slot else none) = bs.live? slot := by
    intro slot
    unfold isLiveAt
    cases bs.live? slot with
    | none => rfl
    | some record => rfl
  rw [liveSlots, List.filterMap_filter, liveRecords, ← filterMap_slots, List.filter_filterMap]
  simp only [hdead]
  rfl

theorem map_at?_liveSlots (bs : Buckets) : bs.liveSlots.map bs.at? = bs.liveRecords.map some := by
  have hlive : ∀ slot ∈ bs.liveSlots, bs.at? slot = bs.live? slot ∧ (bs.live? slot).isSome := by
    intro slot hslot
    obtain ⟨record, hrecord⟩ := mem_liveSlots_iff.mp hslot
    rw [hrecord, (live?_eq_some_iff.mp hrecord).1]
    exact ⟨rfl, rfl⟩
  rw [← filterMap_liveSlots, List.map_filterMap_some_eq_filter_map_isSome,
    List.map_congr_left fun slot hslot => (hlive slot hslot).1, List.filter_eq_self.mpr]
  intro record? hrecord?
  obtain ⟨slot, hslot, rfl⟩ := List.mem_map.mp hrecord?
  exact (hlive slot hslot).2

theorem length_liveSlots_le (bs : Buckets) : bs.liveSlots.length ≤ bs.slots.length :=
  List.length_filter_le _ _

end Buckets

end ByteTable
