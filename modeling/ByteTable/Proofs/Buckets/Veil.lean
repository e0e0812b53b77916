import ByteTable.Proofs.Buckets.Rebuild
import Mathlib.Data.List.Forall2

/-!
# Buckets and their values

`Buckets.veil f` shows buckets through a function on values: of a live slot its word, its key and
what `f` leaves of its value, and of a tombstone no value at all.  If `f` forgets everything, words
and keys are what is left.  If it is the identity, nothing is lost but what nobody can read.

Buckets are `Alike` if they look the same through `f`.  Searching, walking and counting look at
words and keys, so that a veil makes no difference to them, and all that is done to alike buckets
leaves alike buckets, if the values that are written look the same too.
-/

namespace ByteTable

/-- Changing the entries at one place of two grids that have the same image. -/
theorem Grid.image_update_congr {α β : Type} {f : α → β} {g g' : Grid α}
    (h : g.image f = g'.image f) {u u' : α → α} (hu : ∀ a a', f a = f a' → f (u a) = f (u' a'))
    (slot : Slot) : (g.update slot u).image f = (g'.update slot u').image f := by
  apply ext_at?
  · rw [length_image, length_update, length_image, length_update, ← length_image f g, h,
      length_image]
  · intro place
    have hplace : (g.at? place).map f = (g'.at? place).map f := by
      rw [← at?_image, h, at?_image]
    rw [at?_image, at?_image, at?_update, at?_update]
    by_cases hslot : place = slot
    · rw [if_pos hslot, if_pos hslot]
      rcases hentry : g.at? place with _ | a
      · rw [hentry, Option.map_none, eq_comm, Option.map_eq_none_iff] at hplace
        rw [hplace]
        rfl
      · rw [hentry, Option.map_some, eq_comm, Option.map_eq_some_iff] at hplace
        obtain ⟨a', ha', hsame⟩ := hplace
        rw [ha', Option.map_some, Option.map_some, Option.map_some, Option.map_some,
          hu a a' hsame.symm]
    · rw [if_neg hslot, if_neg hslot]
      exact hplace

namespace SlotRecord

variable {f : Bytes → Bytes} {record record' : SlotRecord}

/-- What is seen of a slot through a function on values. -/
def veil (f : Bytes → Bytes) (record : SlotRecord) : SlotRecord :=
  { record with value := if record.isLive then f record.value else [] }

@[simp] theorem word_veil (f : Bytes → Bytes) (record : SlotRecord) :
    (record.veil f).word = record.word := rfl

@[simp] theorem key_veil (f : Bytes → Bytes) (record : SlotRecord) :
    (record.veil f).key = record.key := rfl

@[simp] theorem isLive_veil (f : Bytes → Bytes) (record : SlotRecord) :
    (record.veil f).isLive = record.isLive := rfl

@[simp] theorem isWritten_veil (f : Bytes → Bytes) (record : SlotRecord) :
    (record.veil f).isWritten = record.isWritten := rfl

@[simp] theorem holds_veil (f : Bytes → Bytes) (policy : Policy) (key : Bytes)
    (record : SlotRecord) : (record.veil f).holds policy key = record.holds policy key := rfl

theorem value_veil (hlive : record.isLive = true) : (record.veil f).value = f record.value :=
  if_pos hlive

theorem value?_veil (hlive : record.isLive = true) :
    (record.veil f).value? = record.value?.map f := by
  rw [value?, value?, isWritten_veil, value_veil hlive]
  by_cases hwritten : record.isWritten
  · rw [if_pos hwritten, if_pos hwritten, Option.map_some]
  · rw [if_neg hwritten, if_neg hwritten, Option.map_none]

theorem veil_veil (f g : Bytes → Bytes) (record : SlotRecord) :
    (record.veil f).veil g = record.veil (g ∘ f) := by
  have hvalue : (if record.isLive then g (record.veil f).value else []) =
      if record.isLive then (g ∘ f) record.value else [] := by
    by_cases hlive : record.isLive
    · rw [if_pos hlive, if_pos hlive, value_veil hlive, Function.comp_apply]
    · rw [if_neg hlive, if_neg hlive]
  exact congrArg (SlotRecord.mk record.word record.key) hvalue

/-- Slots of one word and key are told apart by the value only, if they are live. -/
theorem veil_eq_iff : record.veil f = record'.veil f ↔ record.word = record'.word ∧
    record.key = record'.key ∧ (record.isLive = true → f record.value = f record'.value) := by
  constructor
  · intro h
    have hword : record.word = record'.word := by
      rw [← word_veil f record, h, word_veil]
    have hkey : record.key = record'.key := by
      rw [← key_veil f record, h, key_veil]
    refine ⟨hword, hkey, fun hlive => ?_⟩
    have hlive' : record'.isLive = true := by
      rw [← hlive, isLive, isLive, hword]
    have hvalue : (record.veil f).value = f record.value := value_veil hlive
    rw [← hvalue, h, value_veil hlive']
  · rintro ⟨hword, hkey, hvalue⟩
    have hsame : record'.isLive = record.isLive := by
      rw [isLive, isLive, hword]
    rw [veil, veil, hword, hkey, hsame]
    by_cases hlive : record.isLive
    · rw [if_pos hlive, if_pos hlive, hvalue hlive]
    · rw [if_neg hlive, if_neg hlive]

theorem veil_written (h : record.veil f = record'.veil f) {value value' : Bytes}
    (hvalue : f value = f value') :
    (record.written value).veil f = (record'.written value').veil f := by
  obtain ⟨hword, hkey, -⟩ := veil_eq_iff.mp h
  refine veil_eq_iff.mpr ⟨?_, hkey, fun _ => hvalue⟩
  show record.word.markWritten = record'.word.markWritten
  rw [hword]

theorem veil_removed (h : record.veil f = record'.veil f) :
    record.removed.veil f = record'.removed.veil f := by
  obtain ⟨hword, hkey, -⟩ := veil_eq_iff.mp h
  refine veil_eq_iff.mpr ⟨?_, hkey, fun hlive => ?_⟩
  · show record.word.tombstoned = record'.word.tombstoned
    rw [hword]
  · rw [isLive_removed] at hlive
    cases hlive

end SlotRecord

namespace Buckets

/-- What is seen of buckets through a function on values. -/
def veil (f : Bytes → Bytes) (bs : Buckets) : Buckets :=
  Grid.image (.veil f) bs

/-! ## What a veil does not hide -/

section

variable (f : Bytes → Bytes) (bs : Buckets)

@[simp] theorem length_veil : (bs.veil f).length = bs.length :=
  Grid.length_image _ bs

theorem row_veil (bucket : Nat) : (bs.veil f).row bucket = (bs.row bucket).map (.veil f) :=
  Grid.row_image _ bs bucket

theorem at?_veil (slot : Slot) : (bs.veil f).at? slot = (bs.at? slot).map (.veil f) :=
  Grid.at?_image _ bs slot

theorem live?_veil (slot : Slot) : (bs.veil f).live? slot = (bs.live? slot).map (.veil f) := by
  rw [live?, live?, at?_veil]
  rcases bs.at? slot with _ | record
  · rfl
  · by_cases hlive : record.isLive <;> simp [Option.filter_some, hlive]

theorem liveRecords_veil : (bs.veil f).liveRecords = bs.liveRecords.map (.veil f) := by
  rw [liveRecords, veil, Grid.image, ← List.map_flatten, List.filter_map]
  rfl

@[simp] theorem liveCount_veil : (bs.veil f).liveCount = bs.liveCount := by
  rw [liveCount_eq_length, liveRecords_veil, List.length_map, liveCount_eq_length]

theorem findIdx?_veil {p : SlotRecord → Bool} (hp : ∀ record, p (record.veil f) = p record)
    (bucket : Nat) : ((bs.veil f).row bucket).findIdx? p = (bs.row bucket).findIdx? p := by
  rw [row_veil, List.findIdx?_map]
  exact congrArg (List.findIdx? · _) (funext hp)

@[simp] theorem locate_veil (policy : Policy) (key : Bytes) :
    (bs.veil f).locate policy key = bs.locate policy key := by
  rw [locate, locate, length_veil, findIdx?_veil f bs fun _ => rfl]

@[simp] theorem liveSlots_veil : (bs.veil f).liveSlots = bs.liveSlots := by
  have hrows : (bs.veil f).rowSlots = bs.rowSlots := by
    funext bucket
    rw [rowSlots, row_veil, List.length_map, rowSlots]
  have hlive : (bs.veil f).isLiveAt = bs.isLiveAt := by
    funext slot
    rw [isLiveAt, live?_veil, Option.isSome_map, isLiveAt]
  rw [liveSlots, liveSlots, slots, slots, length_veil, hrows, hlive]

@[simp] theorem step_veil (cursor : Cursor) (direction : Direction) :
    (bs.veil f).step cursor direction = bs.step cursor direction := by
  rcases cursor with _ | _ | slot | _ <;> cases direction <;> simp only [step, liveSlots_veil]

theorem veil_spread (policy : Policy) (bucketCount : Nat) (records : List SlotRecord) :
    (spread policy bucketCount records).veil f =
      spread policy bucketCount (records.map (.veil f)) := by
  rw [veil, Grid.image, spread, List.map_map, spread]
  refine List.map_congr_left fun bucket _ => ?_
  rw [Function.comp_apply, List.filter_map]
  rfl

end

/-! ## Buckets that look the same -/

/-- Whether buckets look the same through a function on values. -/
def Alike (f : Bytes → Bytes) (bs bs' : Buckets) : Prop :=
  bs.veil f = bs'.veil f

theorem alike_veil (f : Bytes → Bytes) (bs : Buckets) : Alike (fun _ => []) (bs.veil f) bs := by
  rw [Alike, veil, veil, veil, Grid.image, Grid.image, Grid.image, List.map_map]
  refine List.map_congr_left fun row _ => ?_
  rw [Function.comp_apply, List.map_map]
  exact List.map_congr_left fun record _ => record.veil_veil f fun _ => []

namespace Alike

variable {f : Bytes → Bytes} {bs bs' : Buckets}

theorem length_eq (h : Alike f bs bs') : bs.length = bs'.length := by
  rw [← length_veil f bs, h, length_veil]

theorem length_row_eq (h : Alike f bs bs') (bucket : Nat) :
    (bs.row bucket).length = (bs'.row bucket).length := by
  have hrow := congrArg (fun bs => (Grid.row bs bucket).length) h
  simpa only [row_veil, List.length_map] using hrow

theorem liveCount_eq (h : Alike f bs bs') : bs.liveCount = bs'.liveCount := by
  rw [← liveCount_veil f bs, h, liveCount_veil]

theorem locate_eq (h : Alike f bs bs') (policy : Policy) (key : Bytes) :
    bs.locate policy key = bs'.locate policy key := by
  rw [← locate_veil f bs, h, locate_veil]

theorem findIdx?_eq (h : Alike f bs bs') {p : SlotRecord → Bool}
    (hp : ∀ record, p (record.veil f) = p record) (bucket : Nat) :
    (bs.row bucket).findIdx? p = (bs'.row bucket).findIdx? p := by
  rw [← findIdx?_veil f bs hp, h, findIdx?_veil f bs' hp]

theorem findIdx?_tombstone_eq (h : Alike f bs bs') (bucket : Nat) :
    ((bs.row bucket).findIdx? fun old => !old.isLive) =
      (bs'.row bucket).findIdx? fun old => !old.isLive :=
  h.findIdx?_eq (fun _ => rfl) bucket

theorem map_live?_eq (h : Alike f bs bs') (slot : Slot) :
    (bs.live? slot).map (SlotRecord.veil f) = (bs'.live? slot).map (SlotRecord.veil f) := by
  rw [← live?_veil, h, live?_veil]

theorem isSome_live?_eq (h : Alike f bs bs') (slot : Slot) :
    (bs.live? slot).isSome = (bs'.live? slot).isSome := by
  have hslot := congrArg Option.isSome (h.map_live?_eq slot)
  rwa [Option.isSome_map, Option.isSome_map] at hslot

theorem isWritten_eq (h : Alike f bs bs') {slot : Slot} {record record' : SlotRecord}
    (hlive : bs.live? slot = some record) (hlive' : bs'.live? slot = some record') :
    record.isWritten = record'.isWritten := by
  have hslot := h.map_live?_eq slot
  rw [hlive, hlive', Option.map_some, Option.map_some, Option.some.injEq] at hslot
  rw [← SlotRecord.isWritten_veil f, hslot, SlotRecord.isWritten_veil]

theorem forall₂_liveRecords (h : Alike f bs bs') :
    List.Forall₂ (fun record record' => record.veil f = record'.veil f) bs.liveRecords
      bs'.liveRecords := by
  have hsame : bs.liveRecords.map (SlotRecord.veil f) =
      bs'.liveRecords.map (SlotRecord.veil f) := by
    rw [← liveRecords_veil, h, liveRecords_veil]
  rw [← List.forall₂_eq_eq_eq, List.forall₂_map_left_iff, List.forall₂_map_right_iff] at hsame
  exact hsame

/-- Buckets look the same through another function if their live values do. -/
theorem of_values (h : Alike f bs bs') {g : Bytes → Bytes}
    (hvalues : ∀ slot record record', bs.live? slot = some record → bs'.live? slot = some record' →
      g record.value = g record'.value) : Alike g bs bs' := by
  apply Grid.ext_at?
  · rw [length_veil, length_veil, h.length_eq]
  · intro slot
    have hslot := congrArg (fun bs => Grid.at? bs slot) h
    simp only [at?_veil] at hslot ⊢
    rcases hrecord : bs.at? slot with _ | record
    · rw [hrecord, Option.map_none, eq_comm, Option.map_eq_none_iff] at hslot
      rw [hslot]
    · rw [hrecord, Option.map_some, eq_comm, Option.map_eq_some_iff] at hslot
      obtain ⟨record', hrecord', hsame⟩ := hslot
      obtain ⟨hword, hkey, -⟩ := SlotRecord.veil_eq_iff.mp hsame
      rw [hrecord', Option.map_some, Option.map_some, Option.some.injEq, SlotRecord.veil_eq_iff]
      refine ⟨hword.symm, hkey.symm, fun hlive => ?_⟩
      have hlive' : record'.isLive = true := by
        rw [← hlive, SlotRecord.isLive, SlotRecord.isLive, hword]
      exact hvalues slot record record' (live?_eq_some_iff.mpr ⟨hrecord, hlive⟩)
        (live?_eq_some_iff.mpr ⟨hrecord', hlive'⟩)

/-! ### What is done to them -/

variable {record record' : SlotRecord} {value value' : Bytes}

theorem claim (h : Alike f bs bs') (bucket : Nat) (hrecord : record.veil f = record'.veil f) :
    (bs.claim bucket record).1 = (bs'.claim bucket record').1 ∧
      Alike f (bs.claim bucket record).2 (bs'.claim bucket record').2 := by
  have htombstone := h.findIdx?_tombstone_eq bucket
  rcases hfind : (bs'.row bucket).findIdx? (fun old => !old.isLive) with _ | item
  · rw [hfind] at htombstone
    rw [claim_of_eq_none htombstone, claim_of_eq_none hfind]
    refine ⟨?_, ?_⟩
    · rw [h.length_row_eq]
    · show Grid.image _ _ = Grid.image _ _
      rw [Grid.image_push, Grid.image_push, hrecord]
      exact congrArg (Grid.push · bucket _) h
  · rw [hfind] at htombstone
    rw [claim_of_eq_some htombstone, claim_of_eq_some hfind]
    exact ⟨rfl, Grid.image_update_congr h (fun _ _ _ => hrecord) _⟩

theorem reserve (h : Alike f bs bs') (policy : Policy) (key : Bytes) :
    (bs.reserve policy key).1 = (bs'.reserve policy key).1 ∧
      Alike f (bs.reserve policy key).2 (bs'.reserve policy key).2 := by
  have hlocate := h.locate_eq policy key
  rcases hfind : bs'.locate policy key with _ | slot
  · rw [hfind] at hlocate
    obtain ⟨hslot, hclaimed⟩ :=
      h.claim (home policy bs'.length key) (rfl : (SlotRecord.reserved policy key).veil f = _)
    simp only [Buckets.reserve, hlocate, hfind, h.length_eq, hslot, true_and]
    exact hclaimed
  · rw [hfind] at hlocate
    simp only [Buckets.reserve, hlocate, hfind, true_and]
    exact h

theorem write (h : Alike f bs bs') (slot : Slot) (hvalue : f value = f value') :
    Alike f (bs.write slot value) (bs'.write slot value') :=
  Grid.image_update_congr h (fun _ _ hsame => SlotRecord.veil_written hsame hvalue) slot

theorem bury (h : Alike f bs bs') (slot : Slot) : Alike f (bs.bury slot) (bs'.bury slot) :=
  Grid.image_update_congr h (fun _ _ => SlotRecord.veil_removed) slot

theorem insert (h : Alike f bs bs') (policy : Policy) (key : Bytes) (hvalue : f value = f value') :
    Alike f (bs.insert policy key value) (bs'.insert policy key value') := by
  obtain ⟨hslot, hreserved⟩ := h.reserve policy key
  rw [Buckets.insert, Buckets.insert, hslot]
  exact hreserved.write _ hvalue

theorem erase (h : Alike f bs bs') (policy : Policy) (key : Bytes) :
    Alike f (bs.erase policy key) (bs'.erase policy key) := by
  have hlocate := h.locate_eq policy key
  rcases hfind : bs'.locate policy key with _ | slot
  · rw [hfind] at hlocate
    simpa only [Buckets.erase, hlocate, hfind] using h
  · rw [hfind] at hlocate
    simpa only [Buckets.erase, hlocate, hfind] using h.bury slot

theorem assign (h : Alike f bs bs') (slot : Slot) (hvalue : f value = f value') :
    Alike f (bs.assign slot value) (bs'.assign slot value') := by
  have hlive := h.map_live?_eq slot
  rcases hslot : bs.live? slot with _ | record
  · rw [hslot, Option.map_none, eq_comm, Option.map_eq_none_iff] at hlive
    simpa only [Buckets.assign, hslot, hlive] using h
  · rw [hslot, Option.map_some, eq_comm, Option.map_eq_some_iff] at hlive
    obtain ⟨record', hlive, -⟩ := hlive
    simpa only [Buckets.assign, hslot, hlive] using h.write slot hvalue

theorem discard (h : Alike f bs bs') (slot : Slot) :
    Alike f (bs.discard slot) (bs'.discard slot) := by
  have hlive := h.map_live?_eq slot
  rcases hslot : bs.live? slot with _ | record
  · rw [hslot, Option.map_none, eq_comm, Option.map_eq_none_iff] at hlive
    simpa only [Buckets.discard, hslot, hlive] using h
  · rw [hslot, Option.map_some, eq_comm, Option.map_eq_some_iff] at hlive
    obtain ⟨record', hlive, -⟩ := hlive
    simpa only [Buckets.discard, hslot, hlive] using h.bury slot

theorem readd (h : Alike f bs bs') (policy : Policy) (hrecord : record.veil f = record'.veil f)
    (hlive : record.isLive = true) :
    Alike f (bs.readd policy record) (bs'.readd policy record') := by
  obtain ⟨hword, hkey, hvalue⟩ := SlotRecord.veil_eq_iff.mp hrecord
  have hwritten : record.isWritten = record'.isWritten := congrArg SlotWord.isWritten hword
  rw [Buckets.readd, Buckets.readd, ← hwritten, ← hkey]
  by_cases hset : record.isWritten
  · rw [if_pos hset, if_pos hset]
    exact h.insert policy record.key (hvalue hlive)
  · rw [if_neg hset, if_neg hset]
    exact (h.reserve policy record.key).2

theorem spread {records records' : List SlotRecord}
    (h : records.map (SlotRecord.veil f) = records'.map (SlotRecord.veil f)) (policy : Policy)
    (bucketCount : Nat) :
    Alike f (spread policy bucketCount records) (spread policy bucketCount records') := by
  rw [Alike, veil_spread, veil_spread, h]

theorem spread_liveRecords (h : Alike f bs bs') (policy : Policy) (bucketCount : Nat) :
    Alike f (Buckets.spread policy bucketCount bs.liveRecords)
      (Buckets.spread policy bucketCount bs'.liveRecords) := by
  refine .spread ?_ policy bucketCount
  rw [← liveRecords_veil, h, liveRecords_veil]

end Alike

end Buckets

end ByteTable
