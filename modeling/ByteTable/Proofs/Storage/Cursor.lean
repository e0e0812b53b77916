import ByteTable.Proofs.Storage.Exact
import ByteTable.Proofs.Table.Operation

/-!
# An enumerator is a position in one list

Whatever moves an enumerator makes, it stands where counting says that it stands: a position in the
list of the live slots, sorted by bucket and item, or past an end of it.  `Move.lead` is what a move
does to a position, and speaks of the length of the list only.  `Enumerator.StandsAt` says what an
enumerator at a position shows.

A layout finds the neighbour of a slot by one of two scans, each with its own way to pass over
tombstones and buckets without slots.  Both are steps in the list (`Buckets.step`), so what is left
is that a step in a list without repetitions is a step by one in its positions (`target_cursorAt`).
-/

namespace ByteTable

/-! ## The order of the slots -/

/-- The order of a walk: by bucket, and by item within a bucket. -/
def Slot.Before (slot slot' : Slot) : Prop :=
  slot.bucket < slot'.bucket ∨ slot.bucket = slot'.bucket ∧ slot.item < slot'.item

namespace Buckets

theorem pairwise_before_slots (bs : Buckets) : bs.slots.Pairwise Slot.Before := by
  rw [slots, List.pairwise_flatMap]
  constructor
  · intro bucket _
    rw [rowSlots, List.pairwise_map]
    refine List.pairwise_lt_range.imp ?_
    intro item item' hlt
    exact .inr ⟨rfl, hlt⟩
  · refine List.pairwise_lt_range.imp ?_
    intro bucket bucket' hlt slot hslot slot' hslot'
    left
    rw [(mem_rowSlots_iff.mp hslot).1, (mem_rowSlots_iff.mp hslot').1]
    exact hlt

theorem pairwise_before_liveSlots (bs : Buckets) : bs.liveSlots.Pairwise Slot.Before :=
  bs.pairwise_before_slots.filter _

/-- A slot is live unless it is a tombstone. -/
theorem mem_liveSlots_iff_isTombstone {bs : Buckets} {slot : Slot} : slot ∈ bs.liveSlots ↔
    ∃ record, bs.at? slot = some record ∧ record.word.isTombstone = false := by
  rw [mem_liveSlots_iff]
  exact exists_congr fun record => live?_eq_some_iff_isTombstone

theorem length_liveSlots (bs : Buckets) : bs.liveSlots.length = bs.liveCount := by
  have hlength := congrArg List.length bs.map_at?_liveSlots
  rw [List.length_map, List.length_map] at hlength
  rw [hlength, liveCount_eq_length]

end Buckets

/-! ## Positions -/

theorem Move.last_lt {count : Nat} (h : 0 < count) : count - 1 < count := by
  omega

theorem Move.pred_lt {count : Nat} (i : Fin count) : i.val - 1 < count := by
  omega

/-- Where a move leads from a position in a list of `count` elements; nowhere past an end. -/
def Move.lead {count : Nat} (position : Option (Fin count)) : Move → Option (Fin count)
  | .head => if h : 0 < count then some ⟨0, h⟩ else none
  | .tail => if h : 0 < count then some ⟨count - 1, Move.last_lt h⟩ else none
  | .next => position.bind fun i => if h : i + 1 < count then some ⟨i + 1, h⟩ else none
  | .previous => position.bind fun i => if 0 < i.val then some ⟨i - 1, Move.pred_lt i⟩ else none
  | .stay => position

namespace Move

variable {count : Nat}

/-- The positions after each of some moves. -/
def leads (position : Option (Fin count)) : List Move → List (Option (Fin count))
  | [] => []
  | move :: moves => move.lead position :: leads (move.lead position) moves

theorem lead_next_of_lt {i : Fin count} (h : i + 1 < count) :
    next.lead (some i) = some ⟨i + 1, h⟩ :=
  dif_pos h

theorem lead_next_of_eq {i : Fin count} (h : i + 1 = count) : next.lead (some i) = none :=
  dif_neg (by omega)

theorem lead_previous_of_pos {i : Fin count} (h : 0 < i.val) :
    previous.lead (some i) = some ⟨i - 1, pred_lt i⟩ :=
  if_pos h

theorem lead_previous_of_eq_zero {i : Fin count} (h : i.val = 0) :
    previous.lead (some i) = none :=
  if_neg (by omega)

theorem lead_previous_lead_next {i : Fin count} (h : i + 1 < count) :
    previous.lead (next.lead (some i)) = some i := by
  rw [lead_next_of_lt h, lead_previous_of_pos (Nat.succ_pos _)]
  rfl

theorem lead_next_lead_previous {i : Fin count} (h : 0 < i.val) :
    next.lead (previous.lead (some i)) = some i := by
  have hlt : i.val - 1 + 1 < count := by omega
  rw [lead_previous_of_pos h, lead_next_of_lt hlt, Option.some.injEq, Fin.mk.injEq]
  exact Nat.sub_add_cancel h

variable {α : Type} {xs : List α}

/-- Forward from a position, all that comes after it is met, and then the end. -/
theorem map_leads_next (i : Fin xs.length) :
    (leads (some i) (List.replicate (xs.length - i) next)).map (Option.map xs.get) =
      (xs.drop (i + 1)).map some ++ [none] := by
  obtain ⟨rest, hrest⟩ : ∃ rest, xs.length - i = rest + 1 := ⟨xs.length - i - 1, by omega⟩
  induction rest generalizing i with
  | zero =>
    have hend : i + 1 = xs.length := by omega
    rw [hrest, List.replicate_one, leads, leads, lead_next_of_eq hend, hend, List.drop_length]
    rfl
  | succ rest ih =>
    have hlt : i + 1 < xs.length := by omega
    have hlength : xs.length - (i + 1) = rest + 1 := by omega
    have hmet := ih ⟨i + 1, hlt⟩ hlength
    rw [hlength] at hmet
    rw [hrest, List.replicate_succ, leads, lead_next_of_lt hlt, List.map_cons, hmet,
      List.drop_eq_getElem_cons hlt]
    rfl

/-- Backward from a position, all that comes before it is met in reverse, and then the end. -/
theorem map_leads_previous (i : Fin xs.length) :
    (leads (some i) (List.replicate (i + 1) previous)).map (Option.map xs.get) =
      (xs.take i).reverse.map some ++ [none] := by
  obtain ⟨i, hi⟩ := i
  induction i with
  | zero => rfl
  | succ i ih =>
    have hlt : i < xs.length := by omega
    have hback : previous.lead (some ⟨i + 1, hi⟩) = some ⟨i, hlt⟩ := rfl
    have hmet := ih hlt
    have htake : xs.take (i + 1) = xs.take i ++ [xs[i]] := List.take_succ_eq_append_getElem hlt
    rw [List.replicate_succ, leads, hback, List.map_cons, hmet, htake, List.reverse_append]
    rfl

/-- From the head, the list is met, and then its end. -/
theorem map_leads_head (position : Option (Fin xs.length)) :
    (leads position (head :: List.replicate xs.length next)).map (Option.map xs.get) =
      xs.map some ++ [none] := by
  cases xs with
  | nil => rfl
  | cons x xs => exact congrArg (some x :: ·) (map_leads_next (0 : Fin (x :: xs).length))

/-- From the tail, the list is met in reverse, and then its end. -/
theorem map_leads_tail (position : Option (Fin xs.length)) :
    (leads position (tail :: List.replicate xs.length previous)).map (Option.map xs.get) =
      xs.reverse.map some ++ [none] := by
  by_cases hpos : 0 < xs.length
  · have hlast : xs.length - 1 < xs.length := Nat.sub_one_lt_of_lt hpos
    have hcount : xs.length - 1 + 1 = xs.length := Nat.sub_add_cancel hpos
    have hlead : tail.lead position = some ⟨xs.length - 1, hlast⟩ := dif_pos hpos
    have hmet := map_leads_previous (⟨xs.length - 1, hlast⟩ : Fin xs.length)
    dsimp only at hmet
    rw [hcount] at hmet
    have hxs : xs = xs.take (xs.length - 1) ++ [xs[xs.length - 1]] := by
      rw [← List.take_succ_eq_append_getElem hlast, hcount, List.take_length]
    have hreverse : xs.reverse = xs[xs.length - 1] :: (xs.take (xs.length - 1)).reverse := by
      conv => lhs; rw [hxs]
      rw [List.reverse_append]
      rfl
    rw [leads, hlead, List.map_cons, hmet, hreverse]
    rfl
  · obtain rfl : xs = [] := List.length_eq_zero_iff.mp (Nat.eq_zero_of_not_pos hpos)
    rfl

end Move

/-! ## Enumerators at a position -/

namespace Buckets

/-- The slot at a position, as a cursor. -/
def cursorAt (bs : Buckets) (position : Option (Fin bs.liveSlots.length)) : Cursor :=
  cursorOf (position.map bs.liveSlots.get)

theorem standing_cursorAt (bs : Buckets) (position : Option (Fin bs.liveSlots.length)) :
    bs.Standing (bs.cursorAt position) := by
  refine standing_cursorOf ?_
  intro slot hslot
  obtain ⟨i, -, rfl⟩ := Option.map_eq_some_iff.mp hslot
  exact List.getElem_mem i.isLt

theorem liveSlots_eq_take_append (bs : Buckets) (i : Fin bs.liveSlots.length) :
    bs.liveSlots =
      bs.liveSlots.take i ++ bs.liveSlots.get i :: bs.liveSlots.drop (i + 1) := by
  rw [List.get_eq_getElem, ← List.drop_eq_getElem_cons i.isLt, List.take_append_drop]

theorem step_head (bs : Buckets) (position : Option (Fin bs.liveSlots.length)) :
    bs.step .head .next = bs.cursorAt (Move.head.lead position) := by
  rw [step, cursorAt, Move.lead, List.head?_eq_getElem?]
  by_cases h : 0 < bs.liveSlots.length
  · rw [dif_pos h, List.getElem?_eq_getElem h]
    rfl
  · rw [dif_neg h, List.getElem?_eq_none (Nat.le_of_not_lt h)]
    rfl

theorem step_tail (bs : Buckets) (position : Option (Fin bs.liveSlots.length)) :
    bs.step .tail .previous = bs.cursorAt (Move.tail.lead position) := by
  rw [step, cursorAt, Move.lead, List.getLast?_eq_getElem?]
  by_cases h : 0 < bs.liveSlots.length
  · rw [dif_pos h, List.getElem?_eq_getElem (Nat.sub_one_lt_of_lt h)]
    rfl
  · rw [dif_neg h, List.getElem?_eq_none (by omega)]
    rfl

/-- A move in the list is a move of the position. -/
theorem target_cursorAt (bs : Buckets) (position : Option (Fin bs.liveSlots.length))
    (move : Move) : bs.target (bs.cursorAt position) move = bs.cursorAt (move.lead position) := by
  cases move with
  | head => exact bs.step_head position
  | tail => exact bs.step_tail position
  | stay => rfl
  | next =>
    rcases position with _ | i
    · rfl
    have hstep : bs.target (bs.cursorAt (some i)) .next = _ :=
      step_next_of_eq (bs.liveSlots_eq_take_append i)
    rw [hstep, List.head?_drop, cursorAt]
    by_cases h : i + 1 < bs.liveSlots.length
    · rw [Move.lead_next_of_lt h, List.getElem?_eq_getElem h]
      rfl
    · rw [Move.lead_next_of_eq (by omega), List.getElem?_eq_none (Nat.le_of_not_lt h)]
      rfl
  | previous =>
    rcases position with _ | i
    · rfl
    have hstep : bs.target (bs.cursorAt (some i)) .previous = _ :=
      step_previous_of_eq (bs.liveSlots_eq_take_append i)
    rw [hstep, List.getLast?_take, cursorAt]
    by_cases h : 0 < i.val
    · have hlt : i.val - 1 < bs.liveSlots.length := by omega
      rw [Move.lead_previous_of_pos h, if_neg (by omega), List.getElem?_eq_getElem hlt]
      rfl
    · have hzero : i.val = 0 := by omega
      rw [Move.lead_previous_of_eq_zero hzero, if_pos hzero]
      rfl

/-- What a slot holds, as an enumerator shows it. -/
def elementAt (bs : Buckets) (kind : ElementKind) (slot : Slot) : Option Bytes :=
  (bs.at? slot).map (SlotRecord.element kind)

theorem elementAt_of_live {bs : Buckets} {slot : Slot} (h : slot ∈ bs.liveSlots)
    (kind : ElementKind) :
    bs.elementAt kind slot = (bs.live? slot).map (SlotRecord.element kind) := by
  obtain ⟨record, hrecord⟩ := mem_liveSlots_iff.mp h
  rw [elementAt, hrecord, (live?_eq_some_iff.mp hrecord).1]

/-- What an enumerator shows at a position of a list of slots. -/
def shownAt (bs : Buckets) (kind : ElementKind) (slots : List Slot)
    (position : Option (Fin slots.length)) : Option Bytes :=
  (position.map slots.get).bind (bs.elementAt kind)

/-- Showing what is met needs nothing but the slots that are met. -/
theorem map_shownAt (bs : Buckets) (kind : ElementKind) (slots : List Slot)
    (positions : List (Option (Fin slots.length))) :
    positions.map (bs.shownAt kind slots) =
      (positions.map (Option.map slots.get)).map (Option.bind · (bs.elementAt kind)) := by
  rw [List.map_map]
  rfl

/-- A walk that meets some slots and then the end shows what they hold and then nothing. -/
theorem map_bind_elementAt (bs : Buckets) (kind : ElementKind) (slots : List Slot) :
    (slots.map some ++ [none]).map (Option.bind · (bs.elementAt kind)) =
      slots.map (bs.elementAt kind) ++ [none] := by
  rw [List.map_append, List.map_map]
  rfl

end Buckets

namespace Enumerator

variable {β : Type}

/-- Whether an enumerator over a storage stands at a position of a list of slots: its cursor, what
it shows and its handle are those of the slot there, and past an end there is nothing. -/
structure StandsAt [SlotStorage β] (storage : β) (kind : ElementKind) (bs : Buckets)
    (slots : List Slot) (position : Option (Fin slots.length)) (e : Enumerator β) : Prop where
  storage_eq : e.storage = storage
  kind_eq : e.kind = kind
  cursor_eq : e.cursor = Buckets.cursorOf (position.map slots.get)
  current_eq : e.current = .ok (bs.shownAt kind slots position)
  eq_none_iff {element? : Option Bytes} : e.current = .ok element? →
    (element? = none ↔ e.cursor = .exhausted)
  answer_handle {σ : Type} (s : σ) : (e.handle.run s).answer =
    .ok ((position.map slots.get).bind (Handle.packed? (SlotStorage.bucketCount storage)))

/-- Nothing but the position tells enumerators over a storage apart. -/
theorem StandsAt.eq_mk [SlotStorage β] {storage : β} {kind : ElementKind} {bs : Buckets}
    {position : Option (Fin bs.liveSlots.length)} {e : Enumerator β}
    (h : e.StandsAt storage kind bs bs.liveSlots position) :
    e = ⟨storage, kind, bs.cursorAt position⟩ := by
  rw [← h.storage_eq, ← h.kind_eq, Buckets.cursorAt, ← h.cursor_eq]

/-- Make some moves one after the other, and answer with what is shown after each. -/
def performAll [SlotStorage β] (e : Enumerator β) :
    List Move → Except Crash (Enumerator β × List (Option Bytes))
  | [] => return (e, [])
  | move :: moves => do
    let (moved, element?) ← e.perform move
    let (moved, elements) ← moved.performAll moves
    return (moved, element? :: elements)

open LawfulSlotStorage

variable [SlotStorage β] [LawfulSlotStorage β] {storage : β} {keySize valueSize : Nat}
  {bs : Buckets}

theorem shown_cursorAt (bs : Buckets) (kind : ElementKind)
    (position : Option (Fin bs.liveSlots.length)) :
    bs.shown kind (bs.cursorAt position) = bs.shownAt kind bs.liveSlots position := by
  cases position with
  | none => rfl
  | some i => exact (Buckets.elementAt_of_live (List.get_mem _ i) kind).symm

/-- A new enumerator stands at the head. -/
theorem start_eq_cursorAt (h : Shows storage keySize valueSize bs) (kind : ElementKind) :
    start storage kind = .ok ⟨storage, kind, bs.cursorAt (Move.head.lead none)⟩ := by
  rw [start_eq h, bs.step_head none]

theorem standsAt_cursorAt (h : Shows storage keySize valueSize bs) (kind : ElementKind)
    (position : Option (Fin bs.liveSlots.length)) :
    StandsAt storage kind bs bs.liveSlots position ⟨storage, kind, bs.cursorAt position⟩ := by
  have hcurrent := current_eq h kind (bs.cursorAt position)
  rw [shown_cursorAt] at hcurrent
  refine ⟨rfl, rfl, rfl, hcurrent, fun {element?} helement => ?_, fun s => ?_⟩
  · rw [hcurrent, Except.ok.injEq] at helement
    rw [← helement]
    cases position with
    | none => exact ⟨fun _ => rfl, fun _ => rfl⟩
    | some i =>
      obtain ⟨record, hrecord⟩ := Buckets.mem_liveSlots_iff.mp (List.get_mem bs.liveSlots i)
      rw [Buckets.shownAt, Option.map_some, Option.bind_some, Buckets.elementAt,
        (Buckets.live?_eq_some_iff.mp hrecord).1]
      constructor
      · intro hnone
        cases hnone
      · intro hexhausted
        cases hexhausted
  · obtain ⟨log, hrun⟩ := run_handle h kind (bs.standing_cursorAt position) s
    rw [hrun, bucketCount_eq h]
    cases position with
    | none => rfl
    | some i => rfl

theorem performAll_cursorAt (h : Shows storage keySize valueSize bs) (kind : ElementKind)
    (position : Option (Fin bs.liveSlots.length)) (moves : List Move) :
    performAll ⟨storage, kind, bs.cursorAt position⟩ moves =
      .ok (⟨storage, kind, bs.cursorAt (moves.foldl Move.lead position)⟩,
        (Move.leads position moves).map (bs.shownAt kind bs.liveSlots)) := by
  induction moves generalizing position with
  | nil => rfl
  | cons move moves ih =>
    rw [performAll, perform_eq h kind (bs.standing_cursorAt position), ok_bind,
      bs.target_cursorAt]
    dsimp only
    rw [ih, ok_bind, shown_cursorAt]
    rfl

end Enumerator

/-! ## Every run of an enumerator -/

/-- Whether the enumerators over a storage are cursors over a list: it is the list of all slots that
are no tombstones, in their order, a new enumerator stands at its head, and any run of moves leads
from a position to where counting leads. -/
structure StorageKind.Walks {kind : StorageKind} (storage : kind.Store) (element : ElementKind)
    (buckets : Buckets) (slots : List Slot) : Prop where
  contents_eq : kind.contents storage = .ok buckets
  pairwise : slots.Pairwise Slot.Before
  mem_iff {slot : Slot} : slot ∈ slots ↔
    ∃ record, buckets.at? slot = some record ∧ record.word.isTombstone = false
  length_eq : slots.length = SlotStorage.size storage
  start : ∃ e, Enumerator.start storage element = .ok e ∧
    e.StandsAt storage element buckets slots (Move.head.lead none)
  performAll {position : Option (Fin slots.length)} {e : Enumerator kind.Store} :
    e.StandsAt storage element buckets slots position → ∀ moves, ∃ e',
      e.performAll moves =
        .ok (e', (Move.leads position moves).map (buckets.shownAt element slots)) ∧
      e'.StandsAt storage element buckets slots (moves.foldl Move.lead position)
  /-- Inside the list, a step forward and one backward cancel. -/
  next_previous {i : Fin slots.length} {e : Enumerator kind.Store} :
    e.StandsAt storage element buckets slots (some i) → i + 1 < slots.length →
      ∃ shown, e.performAll [.next, .previous] = .ok (e, shown)
  previous_next {i : Fin slots.length} {e : Enumerator kind.Store} :
    e.StandsAt storage element buckets slots (some i) → 0 < i.val →
      ∃ shown, e.performAll [.previous, .next] = .ok (e, shown)
  /-- From the head, the whole list is met, and then its end. -/
  forward {position : Option (Fin slots.length)} {e : Enumerator kind.Store} :
    e.StandsAt storage element buckets slots position →
      ∃ e', e.performAll (.head :: List.replicate (SlotStorage.size storage) .next) =
        .ok (e', slots.map (buckets.elementAt element) ++ [none])
  /-- From the tail, the same is met in reverse. -/
  backward {position : Option (Fin slots.length)} {e : Enumerator kind.Store} :
    e.StandsAt storage element buckets slots position →
      ∃ e', e.performAll (.tail :: List.replicate (SlotStorage.size storage) .previous) =
        .ok (e', (slots.map (buckets.elementAt element)).reverse ++ [none])

/-- The enumerators over a storage that operations led to are cursors over the list of its live
slots. -/
theorem Storage.Reachable.walks {kind : StorageKind} {policy : Policy} {storage : kind.Store}
    (h : Storage.Reachable policy storage) (element : ElementKind) :
    ∃ buckets slots, StorageKind.Walks storage element buckets slots := by
  obtain ⟨bs, hkeeps⟩ := h.exists_keeps
  have hshows := hkeeps.shows
  have hsize : SlotStorage.size storage = bs.liveSlots.length := by
    rw [LawfulSlotStorage.size_eq hshows, bs.length_liveSlots]
  have hperform : ∀ {position : Option (Fin bs.liveSlots.length)} {e : Enumerator kind.Store},
      e.StandsAt storage element bs bs.liveSlots position → ∀ moves,
        e.performAll moves =
          .ok (⟨storage, element, bs.cursorAt (moves.foldl Move.lead position)⟩,
            (Move.leads position moves).map (bs.shownAt element bs.liveSlots)) := by
    intro position e he moves
    rw [he.eq_mk]
    exact Enumerator.performAll_cursorAt hshows element position moves
  refine ⟨bs, bs.liveSlots, ?_⟩
  exact {
    contents_eq := StorageKind.contents_eq hshows
    pairwise := bs.pairwise_before_liveSlots
    mem_iff := Buckets.mem_liveSlots_iff_isTombstone
    length_eq := hsize.symm
    start := ⟨_, Enumerator.start_eq_cursorAt hshows element,
      Enumerator.standsAt_cursorAt hshows element _⟩
    performAll := fun he moves =>
      ⟨_, hperform he moves, Enumerator.standsAt_cursorAt hshows element _⟩
    next_previous := by
      intro i e he hlt
      have hback : Move.previous.lead (Move.next.lead (some i)) = some i :=
        Move.lead_previous_lead_next hlt
      have hrun := hperform he [.next, .previous]
      rw [List.foldl_cons, List.foldl_cons, List.foldl_nil, hback, ← he.eq_mk] at hrun
      exact ⟨_, hrun⟩
    previous_next := by
      intro i e he hpos
      have hback : Move.next.lead (Move.previous.lead (some i)) = some i :=
        Move.lead_next_lead_previous hpos
      have hrun := hperform he [.previous, .next]
      rw [List.foldl_cons, List.foldl_cons, List.foldl_nil, hback, ← he.eq_mk] at hrun
      exact ⟨_, hrun⟩
    forward := by
      intro position e he
      have hrun := hperform he (.head :: List.replicate bs.liveSlots.length .next)
      rw [Buckets.map_shownAt, Move.map_leads_head, Buckets.map_bind_elementAt] at hrun
      exact ⟨_, by rw [hsize]; exact hrun⟩
    backward := by
      intro position e he
      have hrun := hperform he (.tail :: List.replicate bs.liveSlots.length .previous)
      rw [Buckets.map_shownAt, Move.map_leads_tail, Buckets.map_bind_elementAt,
        List.map_reverse] at hrun
      exact ⟨_, by rw [hsize]; exact hrun⟩ }

/-- Three keys, of which the second was removed again. -/
theorem Storage.walks_two_of_three :
    ∃ (storage : StorageKind.Store (.chains .hashSeparated)) (buckets : Buckets)
      (slots : List Slot), Storage.Reachable (.standard 1 1) storage ∧ slots.length = 2 ∧
        StorageKind.Walks storage .value buckets slots := by
  have hcreate : (SlotStorage.create Memory.full 1 1 2 :
      Except TableError (StorageKind.Store (.chains .hashSeparated))) = .ok _ := rfl
  have hnew : Storage.Reachable (.standard 1 1) _ := .created (by decide) hcreate
  have hkey : ∀ byte : UInt8, List.length [byte] = (Policy.standard 1 1).keySize := fun _ => rfl
  have hvalue : ∀ byte : UInt8, List.length [byte] = (Policy.standard 1 1).valueSize := fun _ => rfl
  have hone := hnew.insert (by decide +kernel) Memory.full (hkey 1) (hvalue 7)
  have htwo := hone.insert (by decide +kernel) Memory.full (hkey 2) (hvalue 8)
  have hthree := htwo.insert (by decide +kernel) Memory.full (hkey 3) (hvalue 9)
  have hfinal := hthree.erase [2]
  obtain ⟨buckets, slots, hwalks⟩ := Storage.Reachable.walks hfinal .value
  have hsize : slots.length = 2 := by
    rw [hwalks.length_eq]
    decide +kernel
  exact ⟨_, buckets, slots, hfinal, hsize, hwalks⟩

end ByteTable
