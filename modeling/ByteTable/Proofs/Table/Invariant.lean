import ByteTable.Policy.Stock
import ByteTable.Proofs.Storage.Kind
import ByteTable.Proofs.Table.Step

/-!
# What every reachable table looks like

`Table.Reachable` covers every table that operations can lead to, under any policy: operations that
fail are steps like any other, with whatever they leave behind, and so is a rehash stopped by its
count check.  `Table.Intact` lists what is true of the stored slots of such a table.

The proof needs no more than `Operation.run_perform`.  Each end of an operation leaves a table that
shows some well-placed buckets, except the crash of the counter, which a table of fewer than
`2 ^ 64 - 1` live slots does not come to.
-/

namespace ByteTable

/-! ## Reachable tables -/

section

variable {β : Type} [Storage β]

/-- The tables that operations lead to.  Each step starts where the counter has room for one more
live slot. -/
inductive Table.Reachable (policy : Policy) : Table β → Prop where
  /-- A new table. -/
  | created {memory : Memory} {bucketCount : Nat} {table : Table β} {log : List Event}
    (h : (create memory policy bucketCount : Action Unit (Table β)).run () =
      ⟨.ok table, (), log⟩) : Reachable policy table
  /-- What an operation leaves, whether it answered or not. -/
  | step {table : Table β} (h : Reachable policy table) (hroom : table.size + 1 < wordLimit)
    (memory : Memory) (op : Operation) : Reachable policy ((op.perform memory).run table).state

variable [LawfulStorage β] {policy : Policy} {bs : Buckets} {table : Table β}

/-- An operation that answers has done its work. -/
theorem Operation.Ends.shows_after {op : Operation} {outcome : Outcome (Table β) Reply}
    (h : op.Ends policy bs outcome) (hok : outcome.answer.isOk = true) :
    op.fault? policy = none ∧ outcome.state.Shows policy (op.after policy bs) := by
  cases h with
  | answered hfault h => exact ⟨hfault, h⟩
  | _ => cases hok

/-- An operation that fails leaves what was there, if there was room for one more live slot. -/
theorem Operation.Ends.shows_before {op : Operation} {outcome : Outcome (Table β) Reply}
    (h : op.Ends policy bs outcome) (hpos : 0 < bs.length) (hroom : bs.liveCount + 1 < wordLimit)
    (hfailed : outcome.answer.isOk = false) : outcome.state.Shows policy bs := by
  cases h with
  | answered _ _ => cases hfailed
  | faulted _ h => exact h
  | refused h => exact h
  | oversized _ h => exact h
  | full hfault hfull =>
    have hcount := op.liveCount_after_le hpos hfault
    omega
  | merged _ _ h => exact h

/-- What an operation leaves shows well-placed buckets again. -/
theorem Operation.Ends.exists_shows {op : Operation} {outcome : Outcome (Table β) Reply}
    (h : op.Ends policy bs outcome) (hpos : 0 < bs.length) (hroom : bs.liveCount + 1 < wordLimit) :
    ∃ bs', outcome.state.Shows policy bs' := by
  cases hanswer : outcome.answer.isOk with
  | true => exact ⟨_, (h.shows_after hanswer).2⟩
  | false => exact ⟨_, h.shows_before hpos hroom hanswer⟩

theorem Table.Reachable.exists_shows (h : table.Reachable policy) :
    ∃ bs, table.Shows policy bs := by
  induction h with
  | created h => exact ⟨_, shows_of_run_create h⟩
  | @step table _ hroom memory op ih =>
    obtain ⟨bs, hshows⟩ := ih
    have hsize : table.size = bs.liveCount := LawfulSlotStorage.size_eq hshows.storage
    exact (op.run_perform hshows memory).exists_shows
      (LawfulSlotStorage.length_pos hshows.storage) (hsize ▸ hroom)

end

/-! ## What is true of them -/

/-- What is true of the slots of a table, bucket by bucket.  A tombstone is a record whose word says
so; every other record is live. -/
structure Table.Intact {kind : LayoutKind} (policy : Policy) (table : Table (Chains kind.Store))
    (buckets : List (List SlotRecord)) : Prop where
  /-- The counter counts the live slots. -/
  size_eq : table.size = buckets.flatten.countP fun record => !record.word.isTombstone
  bucketCount_eq : table.bucketCount = SlotStorage.bucketCount table.storage
  one_le_bucketCount : 1 ≤ table.bucketCount
  length_eq : buckets.length = table.bucketCount
  /-- A live slot lies in the bucket of its key. -/
  bucket_eq {bucket : Nat} {row : List SlotRecord} {record : SlotRecord} :
    buckets[bucket]? = some row → record ∈ row → record.word.isTombstone = false →
    bucket = (policy.hash record.key).toNat % table.bucketCount
  /-- Its word is that of a new slot, at most with the mark that its value was written. -/
  word_eq {record : SlotRecord} : record ∈ buckets.flatten → record.word.isTombstone = false →
    record.word = SlotWord.live (policy.hash record.key) ∨
      record.word = (SlotWord.live (policy.hash record.key)).markWritten
  /-- A tombstone is not written. -/
  isWritten_eq_false {record : SlotRecord} : record ∈ buckets.flatten →
    record.word.isTombstone = true → record.word.isWritten = false
  /-- A live slot that was not written has a zeroed value. -/
  value_eq_zeroes {record : SlotRecord} : record ∈ buckets.flatten →
    record.word.isTombstone = false → record.word.isWritten = false →
    record.value = Bytes.zeroes policy.valueSize
  /-- Keys and values have the lengths of the policy, also those of tombstones. -/
  length_key {record : SlotRecord} : record ∈ buckets.flatten →
    record.key.length = policy.keySize
  length_value {record : SlotRecord} : record ∈ buckets.flatten →
    record.value.length = policy.valueSize
  /-- The chains of a bucket are in step. -/
  chainLengths_eq {bucket : Nat} {row : List SlotRecord} {length : Nat} :
    buckets[bucket]? = some row → length ∈ kind.chainLengths table.storage.layout bucket →
    length = row.length

theorem SlotRecord.word_and_value_of_renewed_eq {policy : Policy} {record : SlotRecord}
    (h : record.renewed policy = record) :
    (record.word = SlotWord.live (policy.hash record.key) ∨
        record.word = (SlotWord.live (policy.hash record.key)).markWritten) ∧
      (record.isWritten = false → record.value = Bytes.zeroes policy.valueSize) := by
  by_cases hwritten : record.isWritten
  · rw [renewed, if_pos hwritten] at h
    have hword := congrArg SlotRecord.word h
    refine ⟨.inr hword.symm, fun hunwritten => ?_⟩
    rw [hwritten] at hunwritten
    cases hunwritten
  · rw [renewed, if_neg hwritten] at h
    have hword := congrArg SlotRecord.word h
    have hvalue := congrArg SlotRecord.value h
    exact ⟨.inl hword.symm, fun _ => hvalue.symm⟩

theorem Table.Shows.intact {kind : LayoutKind} {policy : Policy} {bs : Buckets}
    {table : Table (Chains kind.Store)} (h : table.Shows policy bs) : table.Intact policy bs := by
  have hsized := LawfulLayout.sized h.chains.layout
  have hat : ∀ {bucket : Nat} {row : List SlotRecord}, bs[bucket]? = some row →
      bs.row bucket = row := by
    intro bucket row hrow
    rw [Grid.row, hrow, Option.getD_some]
  constructor
  · exact h.chains.size_eq
  · exact h.bucketCount_eq.trans (LawfulSlotStorage.bucketCount_eq h.storage).symm
  · exact h.bucketCount_eq ▸ h.chains.length_pos
  · exact h.bucketCount_eq.symm
  · intro bucket row record hrow hrecord htombstone
    obtain ⟨item, hitem⟩ := List.mem_iff_getElem?.mp hrecord
    have hslot : bs.at? ⟨bucket, item⟩ = some record := by rw [Grid.at?, hat hrow, hitem]
    have hlive := Buckets.live?_eq_some_iff_isTombstone.mpr ⟨hslot, htombstone⟩
    rw [h.bucketCount_eq]
    exact h.placed.home ⟨bucket, item⟩ record hlive
  · intro record hrecord htombstone
    obtain ⟨slot, hslot⟩ := Grid.mem_flatten_iff.mp hrecord
    have hlive := Buckets.live?_eq_some_iff_isTombstone.mpr ⟨hslot, htombstone⟩
    exact (SlotRecord.word_and_value_of_renewed_eq (h.placed.renewed slot record hlive)).1
  · intro record hrecord htombstone
    obtain ⟨slot, hslot⟩ := Grid.mem_flatten_iff.mp hrecord
    refine h.placed.buried slot record hslot ?_
    rw [SlotRecord.isLive, htombstone, Bool.not_true]
  · intro record hrecord htombstone
    obtain ⟨slot, hslot⟩ := Grid.mem_flatten_iff.mp hrecord
    have hlive := Buckets.live?_eq_some_iff_isTombstone.mpr ⟨hslot, htombstone⟩
    exact (SlotRecord.word_and_value_of_renewed_eq (h.placed.renewed slot record hlive)).2
  · intro record hrecord
    obtain ⟨slot, hslot⟩ := Grid.mem_flatten_iff.mp hrecord
    exact (hsized slot record hslot).1
  · intro record hrecord
    obtain ⟨slot, hslot⟩ := Grid.mem_flatten_iff.mp hrecord
    exact (hsized slot record hslot).2
  · intro bucket row length hrow hlength
    rw [← hat hrow]
    exact LayoutKind.eq_of_mem_chainLengths h.chains.layout hlength

/-- Every table that operations lead to is intact, whatever its policy. -/
theorem Table.Reachable.exists_intact {kind : LayoutKind} {policy : Policy}
    {table : Table (Chains kind.Store)} (h : table.Reachable policy) :
    ∃ buckets, table.storage.contents = .ok buckets ∧ table.Intact policy buckets := by
  obtain ⟨bs, hshows⟩ := h.exists_shows
  have hstorage : Chains.Shows table.storage policy.keySize policy.valueSize bs := hshows.storage
  exact ⟨bs, LawfulLayout.contents_eq hstorage.layout, hshows.intact⟩

/-- All keys hash alike here, and a key is taken for every stored one that it does not come after.
An insertion is refused memory on the way, a rebuild is stopped by its count check because it takes
7 for 11, and a key is too long.  In the end the slot of 11 has been removed by way of 8, that of 7
is reserved only, and that of 9 has been written. -/
theorem Table.exists_intact_of_stopped_rebuild :
    ∃ (refusing merging table : Table (Chains LayoutKind.hashSeparated.Store)) (buckets : Buckets),
      refusing.Reachable ⟨1, 1, .constant 5, .notAbove⟩ ∧
      (((Operation.insert [9] [2]).perform ⟨fun _ => 0, fun _ => Nat.zero_le _⟩).run
        refusing).answer = .error (.error .allocation) ∧
      merging.Reachable ⟨1, 1, .constant 5, .notAbove⟩ ∧
      (((Operation.rehash 3).perform Memory.full).run merging).answer =
        .error (.crash .liveCountChanged) ∧
      table.Reachable ⟨1, 1, .constant 5, .notAbove⟩ ∧
      table.storage.contents = .ok buckets ∧
      buckets = [[], [⟨(SlotWord.live 5).markWritten.tombstoned, [11], [4]⟩,
        ⟨SlotWord.live 5, [7], [0]⟩, ⟨(SlotWord.live 5).markWritten, [9], [3]⟩]] ∧
      table.Intact ⟨1, 1, .constant 5, .notAbove⟩ buckets := by
  have hcreate : (create Memory.full ⟨1, 1, .constant 5, .notAbove⟩ 2 :
      Action Unit (Table (Chains LayoutKind.hashSeparated.Store))).run () = ⟨.ok _, (), []⟩ := rfl
  have hnew := Reachable.created hcreate
  have hone := hnew.step (by decide +kernel) Memory.full (.insert [5] [1])
  have htwo := hone.step (by decide +kernel) Memory.full (.reserve [7])
  have hrefused := htwo.step (by decide +kernel) ⟨fun _ => 0, fun _ => Nat.zero_le _⟩
    (.insert [9] [2])
  have hthree := hrefused.step (by decide +kernel) Memory.full (.insert [9] [3])
  have hremoved := hthree.step (by decide +kernel) Memory.full (.erase [5])
  have hreused := hremoved.step (by decide +kernel) Memory.full (.insert [11] [4])
  have hstopped := hreused.step (by decide +kernel) Memory.full (.rehash 3)
  have hburied := hstopped.step (by decide +kernel) Memory.full (.erase [8])
  have hlast := hburied.step (by decide +kernel) Memory.full (.insert [1, 2] [3])
  obtain ⟨buckets, hcontents, hintact⟩ := hlast.exists_intact
  refine ⟨_, _, _, buckets, htwo, ?refused, hreused, ?stopped, hlast, hcontents, ?slots, hintact⟩
  case refused => decide +kernel
  case stopped => decide +kernel
  case slots => exact Except.ok.inj (hcontents.symm.trans (by decide +kernel))

end ByteTable
