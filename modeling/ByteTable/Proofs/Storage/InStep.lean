import ByteTable.Proofs.Chains.Touches
import ByteTable.Proofs.Storage.Defaults
import ByteTable.Proofs.Storage.InPlace

/-!
# Moving and rebuilding in step

A move and a rebuild take the live records in the same order.  The move adds each as it is to a new
directory; the rebuild reserves a slot for its key in new chains and writes its value.  If the keys
are apart, the two do the same to the bucket of the record: its row is made longer by one, and
memory is refused to both or to neither.  The records of the new chains are then exactly the new
directory, after every record (`Interleaved.InStep`), down to which buckets have been used at all.

On the same chains and with the same memory a move and a rebuild therefore end alike and leave the
same chains (`Chains.Shows.agrees_redistribute`).
-/

namespace ByteTable

/-! ## Putting a record whose key is new -/

/-- Putting a record fails if its slot cannot be had, and not otherwise. -/
theorem Chains.Shows.answer_readd {L : Type} [Layout L] [LawfulLayout L] {chains : Chains L}
    {keySize valueSize : Nat} {bs : Buckets} {policy : Policy}
    (h : chains.Shows keySize valueSize bs) {record : SlotRecord}
    (hkey : record.key.length = keySize) (hvalue : record.value.length = valueSize)
    (hvalueSize : policy.valueSize = valueSize) (memory : Memory) :
    ((KeyedStorage.readd memory policy record).run chains).answer =
      ((reserve memory policy record.key).run chains).answer.map fun _ => () := by
  rw [KeyedStorage.readd]
  by_cases hwritten : record.isWritten
  · rw [if_pos hwritten]
    exact h.answer_insert hkey hvalue hvalueSize memory
  · rw [if_neg hwritten, Action.run_bind_pure]
    rfl

/-! ## A directory and chains under construction -/

namespace Interleaved

open Chains

variable {policy : Policy} {keySize valueSize bucketCount : Nat} {done : List SlotRecord}
  {record : SlotRecord} {d : Directory Column} {fresh : Chains Interleaved} {memory : Memory}

/-- Whether new chains hold the records put so far in just this directory. -/
structure InStep (policy : Policy) (keySize valueSize bucketCount : Nat) (done : List SlotRecord)
    (d : Directory Column) (fresh : Chains Interleaved) : Prop where
  shows : fresh.Shows keySize valueSize (Buckets.spread policy bucketCount done)
  records_eq : fresh.layout.records = d

namespace InStep

theorem isLive_of_renewed (hrenewed : ∀ before ∈ done, before.renewed policy = before) :
    ∀ before ∈ done, before.isLive = true := by
  intro before hbefore
  rw [← hrenewed before hbefore]
  exact SlotRecord.isLive_renewed policy before

theorem locate_eq_none (hpos : 0 < bucketCount)
    (hrenewed : ∀ before ∈ done, before.renewed policy = before)
    (hapart : ∀ before ∈ done, ¬policy.Meets bucketCount record.key before.key) :
    (Buckets.spread policy bucketCount done).locate policy record.key = none := by
  rw [← SlotRecord.map_renewed hrenewed]
  exact (Buckets.locate_spread_eq_none_iff hpos record.key).mpr hapart

/-- The slot of the next record can be had if its column may become longer by one record. -/
theorem answer_reserve (h : InStep policy keySize valueSize bucketCount done d fresh)
    (hfits : keyOffset + keySize + valueSize < wordLimit) (hpos : 0 < bucketCount)
    (hrenewed : ∀ before ∈ done, before.renewed policy = before)
    (hapart : ∀ before ∈ done, ¬policy.Meets bucketCount record.key before.key)
    (hkey : record.key.length = keySize) (hcount : done.length + 1 < wordLimit) (memory : Memory) :
    ((reserve memory policy record.key).run fresh).answer.map (fun _ => ()) =
      if (((Buckets.spread policy bucketCount done).row
          (Buckets.home policy bucketCount record.key)).length + 1) * rawSize keySize valueSize ≤
        memory.limit (.chain .records (Buckets.home policy bucketCount record.key)) then .ok ()
      else .error (.error .allocation) := by
  have hlive := isLive_of_renewed hrenewed
  have hlength := Buckets.length_spread policy bucketCount done
  have hlocate := locate_eq_none hpos hrenewed hapart
  have htombstone : ((Buckets.spread policy bucketCount done).row
      (Buckets.home policy bucketCount record.key)).findIdx? (fun old => !old.isLive) = none :=
    Buckets.findIdx?_tombstone_spread hpos hlive _
  have hrun := h.shows.run_reserve_of_eq_none hlocate (by rwa [hlength]) memory
  have hhome := Buckets.home_lt policy h.shows.length_pos record.key
  have hsize : fresh.size + 1 < wordLimit := by
    rwa [h.shows.size_eq, Buckets.liveCount_spread hpos hlive]
  rw [hlength] at hrun hhome
  rw [hrun, run_onLayout]
  by_cases hroom : (((Buckets.spread policy bucketCount done).row
        (Buckets.home policy bucketCount record.key)).length + 1) * rawSize keySize valueSize ≤
      memory.limit (.chain .records (Buckets.home policy bucketCount record.key))
  · obtain ⟨store, happend, -⟩ := Interleaved.Shows.run_append_of_le h.shows.layout hfits
      (by rwa [hlength]) hkey hroom (.live (policy.hash record.key))
    have happend : (Layout.append memory (Buckets.home policy bucketCount record.key)
        (.live (policy.hash record.key)) record.key).run fresh.layout = _ := happend
    rw [happend, if_pos hroom, Outcome.andThen_ok, Action.run_bind, run_countUp_of_lt hsize]
    rfl
  · obtain ⟨store, happend, -⟩ := Interleaved.Shows.run_append_of_lt h.shows.layout hfits
      (by rwa [hlength]) (Nat.not_le.mp hroom) (.live (policy.hash record.key)) record.key
    have happend : (Layout.append memory (Buckets.home policy bucketCount record.key)
        (.live (policy.hash record.key)) record.key).run fresh.layout = _ := happend
    rw [happend, if_neg hroom]
    rfl

/-- A placed record changes its own bucket. -/
theorem moves_placeRecord (hpos : 0 < bucketCount) (hkey : record.key.length = keySize)
    (memory : Memory) (policy : Policy) (width : Nat) :
    (placeRecord memory policy keySize width bucketCount (rawRecord record)).Moves
      (Directory.Touches (Buckets.home policy bucketCount record.key)) := by
  rw [placeRecord_eq hpos hkey]
  exact ((Directory.moves_openChain _ _).bind fun _ => Directory.moves_onChain _ _).bind
    fun _ => .pure ()

theorem touches_readd (h : InStep policy keySize valueSize bucketCount done d fresh)
    (record : SlotRecord) (memory : Memory) :
    d.Touches (Buckets.home policy bucketCount record.key)
      ((KeyedStorage.readd memory policy record).run fresh).state.layout.records := by
  have hmoves : ∀ bucket item?, fresh.search policy record.key = .ok (bucket, item?) →
      Layout.MovesAt bucket (Touches (Buckets.home policy bucketCount record.key)) := by
    intro bucket item? hsearch
    rw [h.shows.search_eq, Buckets.length_spread, Except.ok.injEq, Prod.mk.injEq] at hsearch
    exact hsearch.1 ▸ movesAt _
  rw [← h.records_eq]
  exact (over_readd hmoves memory).records

/-- Placing one more record in a directory and putting it into chains that are in step end alike. -/
theorem agrees (h : InStep policy keySize valueSize bucketCount done d fresh)
    (hfits : keyOffset + keySize + valueSize < wordLimit) (hpos : 0 < bucketCount)
    (hvalueSize : policy.valueSize = valueSize)
    (hrenewed : ∀ before ∈ done ++ [record], before.renewed policy = before)
    (hapart : ∀ before ∈ done, ¬policy.Meets bucketCount record.key before.key)
    (hkey : record.key.length = keySize) (hvalue : record.value.length = valueSize)
    (hcount : done.length + 1 < wordLimit) (memory : Memory) :
    ((placeRecord memory policy keySize (rawSize keySize valueSize) bucketCount
        (rawRecord record)).run d).Agrees
      (InStep policy keySize valueSize bucketCount (done ++ [record])) (fun _ _ => True)
      ((KeyedStorage.readd memory policy record).run fresh) := by
  have hbefore : ∀ before ∈ done, before.renewed policy = before :=
    fun before hmem => hrenewed before (List.mem_append_left [record] hmem)
  have hkeeps : d.Keeps (rawSize keySize valueSize)
      (Grid.image rawRecord (Buckets.spread policy bucketCount done)) :=
    h.records_eq ▸ h.shows.layout.records
  have hanswer := (h.shows.answer_readd hkey hvalue hvalueSize memory).trans
    (h.answer_reserve hfits hpos hbefore hapart hkey hcount memory)
  have hroom : (Buckets.spread policy bucketCount done).liveCount + 1 < wordLimit := by
    rwa [Buckets.liveCount_spread hpos (isLive_of_renewed hbefore)]
  have hserves := KeyedStorage.serves_readd (β := Chains Interleaved) h.shows hfits hroom hvalueSize
    hkey hvalue memory
  have htouches := h.touches_readd record memory
  have htouches' := moves_placeRecord hpos hkey memory policy (rawSize keySize valueSize) d
  generalize (KeyedStorage.readd memory policy record).run fresh = outcome
    at hanswer hserves htouches ⊢
  by_cases hlimit : (((Buckets.spread policy bucketCount done).row
        (Buckets.home policy bucketCount record.key)).length + 1) * rawSize keySize valueSize ≤
      memory.limit (.chain .records (Buckets.home policy bucketCount record.key))
  · rw [if_pos hlimit] at hanswer
    obtain ⟨d', hrun, hkeeps'⟩ := run_placeRecord_of_le hpos hkey hvalue hkeeps hlimit
    have hshows : outcome.state.Shows keySize valueSize _ := hserves.done_of_answer hanswer
    rw [Buckets.readd_spread_of_renewed hpos hrenewed hapart] at hshows
    rw [hrun] at htouches' ⊢
    obtain ⟨answer, fresh', log⟩ := outcome
    obtain rfl := hanswer
    refine .answered ⟨hshows, ?_⟩
    refine Directory.Keeps.eq_of_touches hshows.layout.records hkeeps' htouches htouches' ?_
    have hhome := Buckets.home_lt policy hpos record.key
    rw [Buckets.spread_append_singleton hpos, Grid.image_push, Grid.row_push (by simpa using hhome),
      if_pos rfl]
    exact List.append_ne_nil_of_right_ne_nil _ (List.cons_ne_nil _ _)
  · rw [if_neg hlimit] at hanswer
    obtain ⟨d', hrun⟩ := run_placeRecord_of_lt hpos hkey hkeeps (Nat.not_le.mp hlimit)
    rw [hrun]
    obtain ⟨answer, fresh', log⟩ := outcome
    obtain rfl := hanswer
    exact .failed trivial

theorem eq_mk (h : InStep policy keySize valueSize bucketCount done d fresh) :
    fresh = ⟨⟨keySize, valueSize, d⟩, (Buckets.spread policy bucketCount done).liveCount⟩ := by
  obtain ⟨⟨keySize', valueSize', records⟩, size⟩ := fresh
  obtain rfl : keySize' = keySize := h.shows.layout.keySize_eq
  obtain rfl : valueSize' = valueSize := h.shows.layout.valueSize_eq
  obtain rfl : records = d := h.records_eq
  obtain rfl : size = _ := h.shows.size_eq
  rfl

/-- Placing all records in a directory and putting them into chains end alike. -/
theorem agrees_forM {records : List SlotRecord}
    (h : InStep policy keySize valueSize bucketCount [] d fresh)
    (hfits : keyOffset + keySize + valueSize < wordLimit) (hpos : 0 < bucketCount)
    (hvalueSize : policy.valueSize = valueSize)
    (hrenewed : ∀ record ∈ records, record.renewed policy = record)
    (hapart : Buckets.Apart policy bucketCount (records.map SlotRecord.key))
    (hsized : ∀ record ∈ records, record.key.length = keySize ∧ record.value.length = valueSize)
    (hcount : records.length < wordLimit) (memory : Memory) :
    ((records.forM fun record => placeRecord memory policy keySize (rawSize keySize valueSize)
        bucketCount (rawRecord record)).run d).Agrees
      (InStep policy keySize valueSize bucketCount records) (fun _ _ => True)
      ((records.forM (KeyedStorage.readd memory policy)).run fresh) := by
  refine Action.agrees_forM (InStep policy keySize valueSize bucketCount) ?_
    (List.nil_append records) h
  rintro done record rest rfl d fresh h
  obtain ⟨hkey, hvalue⟩ := hsized record (List.mem_append_right done List.mem_cons_self)
  refine h.agrees hfits hpos hvalueSize (fun before hbefore => hrenewed before ?_)
    (fun before hbefore => ?_) hkey hvalue ?_ memory
  · rw [List.append_cons]
    exact List.mem_append_left rest hbefore
  · rw [Buckets.Apart, List.map_append, List.pairwise_append] at hapart
    exact hapart.2.2 before.key (List.mem_map_of_mem hbefore) record.key List.mem_cons_self
  · rw [List.length_append, List.length_cons] at hcount
    omega

end InStep

end Interleaved

/-! ## The whole rehash -/

namespace Chains

open Interleaved (InStep keyOffset rawSize rawRecord placeRecord)

variable {chains : Chains Interleaved} {keySize valueSize bucketCount : Nat} {bs : Buckets}
  {policy : Policy}

/-- Creating interleaved chains is creating their directory. -/
theorem create_interleaved_eq (hpos : 0 < bucketCount) (memory : Memory) (keySize valueSize : Nat) :
    (SlotStorage.create memory keySize valueSize bucketCount :
        Except TableError (Chains Interleaved)) =
      (Directory.create (memory.limit (.directory .records)) Interleaved.entryBytes
        bucketCount).map fun records => ⟨⟨keySize, valueSize, records⟩, 0⟩ := by
  show create memory keySize valueSize bucketCount = _
  rw [create, if_neg (Nat.not_lt.mpr hpos)]
  simp only [Layout.create]
  rcases (Directory.create (memory.limit (.directory .records)) Interleaved.entryBytes
    bucketCount : Except TableError (Directory Column)) with cause | records
  · rfl
  · rfl

/-- Interleaved chains are the same after a move and after a rebuild, and if the one is refused
memory so is the other. -/
theorem Shows.agrees_redistribute (h : chains.Shows keySize valueSize bs)
    (hfits : keyOffset + keySize + valueSize < wordLimit) (hpos : 0 < bucketCount)
    (hkeySize : policy.keySize = keySize) (hvalueSize : policy.valueSize = valueSize)
    (hrenewed : ∀ record ∈ bs.liveRecords, record.renewed policy = record)
    (hapart : Buckets.Apart policy bucketCount (bs.liveRecords.map SlotRecord.key))
    (memory : Memory) :
    ((onLayout (Interleaved.redistribute memory policy bucketCount)).run chains).Agrees Eq Eq
      ((KeyedStorage.rehashByRebuild memory policy bucketCount).run chains) := by
  have hchains : LawfulSlotStorage.Shows chains keySize valueSize bs := h
  rw [KeyedStorage.run_rehashByRebuild_eq, KeyedStorage.rebuild_eq hchains, run_onLayout,
    Interleaved.Shows.run_redistribute_eq h.layout hfits, hkeySize, hvalueSize]
  simp only [bind_assoc]
  rw [create_interleaved_eq hpos]
  rcases hdirectory : (Directory.create (memory.limit (.directory .records)) Interleaved.entryBytes
    bucketCount : Except TableError (Directory Column)) with cause | d
  · exact .failed rfl
  have hcreate : (SlotStorage.create memory keySize valueSize bucketCount :
      Except TableError (Chains Interleaved)) = .ok ⟨⟨keySize, valueSize, d⟩, 0⟩ := by
    rw [create_interleaved_eq hpos, hdirectory]
    rfl
  have hfresh : InStep policy keySize valueSize bucketCount [] d ⟨⟨keySize, valueSize, d⟩, 0⟩ := by
    refine ⟨?_, rfl⟩
    rw [Buckets.spread_nil]
    exact .of_create hcreate
  have hcount : bs.liveRecords.length < wordLimit := by
    rw [← Buckets.liveCount_eq_length, ← h.size_eq]
    exact h.size_lt
  have hfilled := hfresh.agrees_forM hfits hpos hvalueSize hrenewed hapart
    (fun _ => (LawfulLayout.sized h.layout).of_mem_liveRecords) hcount memory
  rw [Except.map, Action.run_bind, Action.run_bind, Action.run_liftM_ok, Action.run_liftM_ok,
    Outcome.andThen_ok, Outcome.andThen_ok, Action.run_bind, Action.run_bind]
  rcases hfilled.apart chains.layout chains with
    ⟨_, moved, filled, log, log', hstep, hrun, hrun'⟩ | ⟨cause, log, log', hrun, hrun'⟩
  · have hfilled := hstep.eq_mk
    rw [Buckets.liveCount_spread_liveRecords hpos, ← h.size_eq, ← h.layout.keySize_eq,
      ← h.layout.valueSize_eq] at hfilled
    have hsize : SlotStorage.size filled = bs.liveCount := by
      rw [hfilled]
      exact h.size_eq
    rw [hrun, hrun', Outcome.andThen, Outcome.andThen]
    dsimp only
    rw [if_pos hsize, pure_bind]
    exact .answered hfilled.symm
  · rw [hrun, hrun']
    exact .failed rfl

end Chains

/-! ## Rehashing chains and bare chains -/

/-- Chains that cannot move their records are rebuilt, by their own operations. -/
theorem Chains.Shows.agrees_rehash_of_eq_none {L : Type} [Layout L] [LawfulLayout L]
    {chains : Chains L} {keySize valueSize bucketCount : Nat} {bs : Buckets} {policy : Policy}
    (h : chains.Shows keySize valueSize bs)
    (hnone : (Layout.redistribute? : Option (Memory → Policy → Nat → Action L Unit)) = none)
    (hpos : 0 < bucketCount) (hkeySize : policy.keySize = keySize)
    (hvalueSize : policy.valueSize = valueSize) (memory : Memory) :
    ((rehash memory policy bucketCount).run chains).Agrees Bare.Wraps Bare.Wraps
      ((Storage.rehash memory policy bucketCount).run (⟨chains⟩ : Bare (Chains L))) := by
  rw [rehash, if_neg (Nat.not_lt.mpr hpos), hnone]
  dsimp only
  rw [Action.run_bind, Action.run_note]
  exact (h.agrees_rehashByRebuild hkeySize hvalueSize memory bucketCount).log _ _

/-- Interleaved chains move their records, which a rebuild cannot be told from if the keys are
apart. -/
theorem Chains.Shows.agrees_rehash_interleaved {chains : Chains Interleaved}
    {keySize valueSize bucketCount : Nat} {bs : Buckets} {policy : Policy}
    (h : chains.Shows keySize valueSize bs)
    (hfits : Interleaved.keyOffset + keySize + valueSize < wordLimit) (hpos : 0 < bucketCount)
    (hkeySize : policy.keySize = keySize) (hvalueSize : policy.valueSize = valueSize)
    (hrenewed : ∀ record ∈ bs.liveRecords, record.renewed policy = record)
    (hapart : Buckets.Apart policy bucketCount (bs.liveRecords.map SlotRecord.key))
    (memory : Memory) :
    ((rehash memory policy bucketCount).run chains).Agrees Bare.Wraps Bare.Wraps
      ((Storage.rehash memory policy bucketCount).run (⟨chains⟩ : Bare (Chains Interleaved))) := by
  have hmove := (h.agrees_redistribute hfits hpos hkeySize hvalueSize hrenewed hapart memory).trans
    (h.agrees_rehashByRebuild hkeySize hvalueSize memory bucketCount)
    (fun _ _ _ hsame hwraps => hsame ▸ hwraps) fun _ _ _ hsame hwraps => hsame ▸ hwraps
  obtain ⟨log, hrun⟩ := Action.run_andNote
    (onLayout (Interleaved.redistribute memory policy bucketCount)) (.movedInPlace bucketCount)
    chains
  rw [rehash_interleaved_eq hpos, hrun]
  exact hmove.log log _

/-- Chains rehash as bare chains do, whose only way is to be rebuilt, if the keys are apart. -/
theorem LayoutKind.agrees_rehash {kind : LayoutKind} {chains : Chains kind.Store}
    {keySize valueSize bucketCount : Nat} {bs : Buckets} {policy : Policy}
    (h : chains.Shows keySize valueSize bs) (hfits : 8 + keySize + valueSize < wordLimit)
    (hpos : 0 < bucketCount) (hkeySize : policy.keySize = keySize)
    (hvalueSize : policy.valueSize = valueSize)
    (hrenewed : ∀ record ∈ bs.liveRecords, record.renewed policy = record)
    (hapart : Buckets.Apart policy bucketCount (bs.liveRecords.map SlotRecord.key))
    (memory : Memory) :
    ((Storage.rehash memory policy bucketCount).run chains).Agrees Bare.Wraps Bare.Wraps
      ((Storage.rehash memory policy bucketCount).run (⟨chains⟩ : Bare (Chains kind.Store))) := by
  cases kind with
  | interleaved =>
    exact Chains.Shows.agrees_rehash_interleaved h hfits hpos hkeySize hvalueSize hrenewed hapart
      memory
  | hashSeparated => exact h.agrees_rehash_of_eq_none rfl hpos hkeySize hvalueSize memory
  | fullySeparated => exact h.agrees_rehash_of_eq_none rfl hpos hkeySize hvalueSize memory

end ByteTable
