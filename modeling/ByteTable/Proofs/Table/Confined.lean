import ByteTable.Proofs.Table.Alike

/-!
# Values are confined

Two runs from one table that differ in the bytes of the values that they write are told apart by
nothing but reads of values, and by these only as long as some live slot was last written
differently.  What was stored under removed keys shows nowhere, although its bytes stay in the
tombstones and go with them until the slot is used again.

Two runs are followed together.  Their tables look alike as long as nothing is seen of a value but
its length, and beside each table goes what the run wrote last to each slot (`Table.lastWrites`),
which is no part of the table.  Slots keep their places but for a rehash, which deals the live ones
to new buckets in their order (`Buckets.origin?`).  `Table.ShowTraced.perform` is the step and
`Table.ShowTraced.run` the induction.

The value of a live slot is one that was written, or zeroes.  So where the last writes to the slots
that are live and written are the same, the two tables show the same values
(`Table.ShowTraced.id_of_eq`).  From there on they are followed again, with nothing hidden.
-/

namespace ByteTable

/-! ## Where slots come from -/

theorem getElem?_filterMap_of_isSome {α β : Type} {f : α → Option β} {as : List α}
    (h : ∀ a ∈ as, (f a).isSome = true) (i : Nat) : (as.filterMap f)[i]? = as[i]?.bind f := by
  induction as generalizing i with
  | nil => rfl
  | cons a as ih =>
    obtain ⟨b, hb⟩ := Option.isSome_iff_exists.mp (h a List.mem_cons_self)
    rw [List.filterMap_cons_some hb]
    cases i with
    | zero => simp [hb]
    | succ i => simpa using ih (fun a' ha' => h a' (List.mem_cons_of_mem a ha')) i

namespace Buckets

variable {policy : Policy} {bs bs' : Buckets} {f : Bytes → Bytes} {slot : Slot}
  {record : SlotRecord}

/-- The slot whose record a slot gets when the live ones are dealt to so many buckets. -/
def origin? (policy : Policy) (bucketCount : Nat) (bs : Buckets) (slot : Slot) : Option Slot :=
  (bs.liveSlots.filter fun old =>
    (bs.live? old).any fun record => home policy bucketCount record.key == slot.bucket)[slot.item]?

/-- A rehash gives every slot the record of its origin. -/
theorem live?_spread_liveRecords {bucketCount : Nat} (hpos : 0 < bucketCount) (bs : Buckets)
    (slot : Slot) :
    (spread policy bucketCount bs.liveRecords).live? slot =
      (origin? policy bucketCount bs slot).bind bs.live? := by
  have hrecords : bs.liveRecords.filter (home policy bucketCount ·.key == slot.bucket) =
      (bs.liveSlots.filter fun old => (bs.live? old).any fun record =>
        home policy bucketCount record.key == slot.bucket).filterMap bs.live? := by
    rw [← filterMap_liveSlots, List.filter_filterMap, List.filterMap_filter]
    refine List.filterMap_congr fun old _ => ?_
    rcases bs.live? old with _ | record
    · rfl
    · simp [Option.filter_some]
  have hat : (spread policy bucketCount bs.liveRecords).at? slot =
      (origin? policy bucketCount bs slot).bind bs.live? := by
    rw [Grid.at?, row_spread hpos, hrecords, origin?]
    refine getElem?_filterMap_of_isSome (fun old hold => ?_) slot.item
    obtain ⟨record, hrecord⟩ := mem_liveSlots_iff.mp (List.mem_filter.mp hold).1
    rw [hrecord, Option.isSome_some]
  rw [live?, ← hat]
  rcases hslot : (spread policy bucketCount bs.liveRecords).at? slot with _ | record
  · rfl
  · have hlive : record.isLive = true := (List.mem_filter.mp (mem_of_at?_spread hpos hslot).1).2
    rw [Option.filter_some, if_pos hlive]

/-- What is live after a reservation was live before, or it is the slot that was made. -/
theorem live?_reserve_cases (hpos : 0 < bs.length) {key : Bytes}
    (h : (bs.reserve policy key).2.live? slot = some record) :
    (slot = (bs.reserve policy key).1.slot ∧ record = .reserved policy key) ∨
      bs.live? slot = some record := by
  rcases hlocate : bs.locate policy key with _ | found
  · simp only [reserve, hlocate] at h ⊢
    exact live?_claim_cases (home_lt policy hpos key) h
  · simp only [reserve, hlocate] at h
    exact .inr h

/-- Alike buckets have their slots from the same places. -/
theorem Alike.origin?_eq (h : Alike f bs bs') (policy : Policy) (bucketCount : Nat) :
    origin? policy bucketCount bs = origin? policy bucketCount bs' := by
  have hveil : ∀ bs : Buckets, origin? policy bucketCount (bs.veil f) =
      origin? policy bucketCount bs := by
    intro bs
    funext slot
    simp only [origin?, liveSlots_veil, live?_veil, Option.any_map]
    rfl
  rw [← hveil bs, h, hveil]

end Buckets

/-! ## What an operation writes and moves -/

namespace Operation

variable {policy : Policy} {bs bs' : Buckets} {f : Bytes → Bytes} {op op' : Operation} {slot : Slot}
  {record record' : SlotRecord}

/-- The value that an operation writes to a slot, if it writes one there.  To set the value of a key
is to write to the slot that the key has or is given. -/
def writes? (policy : Policy) (bs : Buckets) : Operation → Slot → Option Bytes
  | insert key value, slot => if slot = (bs.reserve policy key).1.slot then some value else none
  | assign handle value, slot =>
    if slot = handle.slotAt bs.length ∧ (bs.live? slot).isSome then some value else none
  | _, _ => none

/-- The slot that had the record of a slot before an operation. -/
def origin? (policy : Policy) (bs : Buckets) : Operation → Slot → Option Slot
  | rehash bucketCount, slot => Buckets.origin? policy bucketCount bs slot
  | _, slot => some slot

/-- The value that was written last to each slot, after one more operation. -/
def lastWrites (policy : Policy) (bs : Buckets) (last : Slot → Option Bytes) (op : Operation)
    (slot : Slot) : Option Bytes :=
  (op.writes? policy bs slot).or ((op.origin? policy bs slot).bind last)

/-- A live and written slot was written by the operation, or it was live and written before. -/
theorem of_live?_after (hpos : 0 < bs.length) (hfault : op.fault? policy = none)
    (hlive : (op.after policy bs).live? slot = some record) (hwritten : record.isWritten = true) :
    op.writes? policy bs slot = some record.value ∨
      op.writes? policy bs slot = none ∧ ∃ origin before, op.origin? policy bs slot = some origin ∧
        bs.live? origin = some before ∧ before.isWritten = true ∧ before.value = record.value := by
  have hkept : bs.live? slot = some record → ∃ origin before, some slot = some origin ∧
      bs.live? origin = some before ∧ before.isWritten = true ∧ before.value = record.value :=
    fun hbefore => ⟨slot, record, rfl, hbefore, hwritten, rfl⟩
  cases op with
  | insert key value =>
    have hlive : ((bs.reserve policy key).2.write (bs.reserve policy key).1.slot value).live? slot =
      some record := hlive
    rw [Buckets.live?_write] at hlive
    by_cases hslot : slot = (bs.reserve policy key).1.slot
    · rw [if_pos hslot, Option.map_eq_some_iff] at hlive
      obtain ⟨before, -, rfl⟩ := hlive
      exact .inl (if_pos hslot)
    · rw [if_neg hslot] at hlive
      refine .inr ⟨if_neg hslot, hkept ?_⟩
      exact (Buckets.live?_reserve_cases hpos hlive).resolve_left fun hnew => hslot hnew.1
  | reserve key =>
    refine .inr ⟨rfl, hkept ?_⟩
    refine (Buckets.live?_reserve_cases hpos hlive).resolve_left fun hnew => ?_
    rw [hnew.2, SlotRecord.isWritten_reserved] at hwritten
    cases hwritten
  | erase key =>
    refine .inr ⟨rfl, hkept ?_⟩
    rcases hlocate : bs.locate policy key with _ | found
    · simpa only [Operation.after, Buckets.erase, hlocate] using hlive
    · simp only [Operation.after, Buckets.erase, hlocate] at hlive
      exact (Buckets.live?_bury_eq_some_iff.mp hlive).2
  | assign handle value =>
    rcases hold : bs.live? (handle.slotAt bs.length) with _ | old
    · simp only [Operation.after, Buckets.assign, hold] at hlive
      refine .inr ⟨if_neg ?_, hkept hlive⟩
      rintro ⟨hslot, hsome⟩
      rw [hslot, hold] at hsome
      cases hsome
    · simp only [Operation.after, Buckets.assign, hold] at hlive
      rw [Buckets.live?_write] at hlive
      by_cases hslot : slot = handle.slotAt bs.length
      · rw [if_pos hslot, Option.map_eq_some_iff] at hlive
        obtain ⟨before, hbefore, rfl⟩ := hlive
        exact .inl (if_pos ⟨hslot, Option.isSome_of_mem hbefore⟩)
      · rw [if_neg hslot] at hlive
        exact .inr ⟨if_neg fun hboth => hslot hboth.1, hkept hlive⟩
  | discard handle =>
    refine .inr ⟨rfl, hkept ?_⟩
    rcases hold : bs.live? (handle.slotAt bs.length) with _ | old
    · simpa only [Operation.after, Buckets.discard, hold] using hlive
    · simp only [Operation.after, Buckets.discard, hold] at hlive
      exact (Buckets.live?_bury_eq_some_iff.mp hlive).2
  | rehash bucketCount =>
    have hlive : (Buckets.spread policy bucketCount bs.liveRecords).live? slot = some record :=
      hlive
    rw [Buckets.live?_spread_liveRecords (pos_of_fault?_rehash hfault), Option.bind_eq_some_iff]
      at hlive
    obtain ⟨origin, horigin, hbefore⟩ := hlive
    exact .inr ⟨rfl, origin, record, horigin, hbefore, hwritten, rfl⟩
  | _ => exact .inr ⟨rfl, hkept hlive⟩

/-- Alike operations write to the same slots. -/
theorem Alike.map_writes?_eq (hop : op.Alike f op') (h : Buckets.Alike f bs bs') (policy : Policy)
    (slot : Slot) :
    (op.writes? policy bs slot).map f = (op'.writes? policy bs' slot).map f := by
  have hreserve : ∀ key, (bs.reserve policy key).1 = (bs'.reserve policy key).1 :=
    fun key => (h.reserve policy key).1
  have hlive := h.isSome_live?_eq slot
  cases hop with
  | insert key hvalue => simp only [writes?, hreserve, Option.map_if, hvalue]
  | assign handle hvalue => simp only [writes?, h.length_eq, hlive, Option.map_if, hvalue]
  | refl op =>
    cases op with
    | insert key value => simp only [writes?, hreserve]
    | assign handle value => simp only [writes?, h.length_eq, hlive]
    | _ => rfl

theorem Alike.origin?_eq (hop : op.Alike f op') (h : Buckets.Alike f bs bs') (policy : Policy) :
    op.origin? policy bs = op'.origin? policy bs' := by
  cases hop with
  | insert key _ => rfl
  | assign handle _ => rfl
  | refl op =>
    cases op with
    | rehash bucketCount => exact h.origin?_eq policy bucketCount
    | _ => rfl

end Operation

/-! ## Slots that were written alike -/

namespace Buckets

variable {policy : Policy} {bs bs' : Buckets} {f : Bytes → Bytes} {last last' : Slot → Option Bytes}
  {op op' : Operation}

/-- Whether slots that are live and written hold the same value wherever the last writes agree. -/
def Traced (last last' : Slot → Option Bytes) (bs bs' : Buckets) : Prop :=
  ∀ slot record record', bs.live? slot = some record → bs'.live? slot = some record' →
    record.isWritten = true → last slot = last' slot → record.value = record'.value

/-- After alike operations, live and written slots still hold the same value wherever the last
writes agree. -/
theorem Traced.after (h : Traced last last' bs bs') (halike : Alike f bs bs')
    (hop : op.Alike f op') (hpos : 0 < bs.length) (hfault : op.fault? policy = none)
    (hfault' : op'.fault? policy = none) :
    Traced (op.lastWrites policy bs last) (op'.lastWrites policy bs' last') (op.after policy bs)
      (op'.after policy bs') := by
  intro slot record record' hlive hlive' hwritten hsame
  have hwritten' : record'.isWritten = true :=
    (hop.after halike policy).isWritten_eq hlive hlive' ▸ hwritten
  have hwrites := hop.map_writes?_eq halike policy slot
  rw [Operation.lastWrites, Operation.lastWrites] at hsame
  rcases Operation.of_live?_after hpos hfault hlive hwritten with
    hnew | ⟨hnone, origin, before, horigin, hbefore, hset, hvalue⟩
  · rcases Operation.of_live?_after (halike.length_eq ▸ hpos) hfault' hlive' hwritten' with
      hnew' | ⟨hnone', -⟩
    · rw [hnew, hnew', Option.some_or, Option.some_or] at hsame
      exact Option.some.inj hsame
    · rw [hnew, hnone'] at hwrites
      cases hwrites
  · rcases Operation.of_live?_after (halike.length_eq ▸ hpos) hfault' hlive' hwritten' with
      hnew' | ⟨hnone', origin', before', horigin', hbefore', -, hvalue'⟩
    · rw [hnone, hnew'] at hwrites
      cases hwrites
    · rw [← hop.origin?_eq halike policy, horigin, Option.some.injEq] at horigin'
      subst horigin'
      rw [hnone, hnone', ← hop.origin?_eq halike policy, horigin, Option.none_or, Option.none_or,
        Option.bind_some, Option.bind_some] at hsame
      rw [← hvalue, ← hvalue']
      exact h origin before before' hbefore hbefore' hset hsame

/-- If all slots that are live and written were last written alike, the buckets show the same,
because a slot that was not written holds zeroes. -/
theorem Traced.alike_id (h : Traced last last' bs bs') (halike : Alike f bs bs')
    (hplaced : bs.Placed policy) (hplaced' : bs'.Placed policy)
    (hsame : ∀ slot record, bs.live? slot = some record → record.isWritten = true →
      last slot = last' slot) : Alike id bs bs' := by
  refine halike.of_values fun slot record record' hlive hlive' => ?_
  show record.value = record'.value
  by_cases hwritten : record.isWritten
  · exact h slot record record' hlive hlive' hwritten (hsame slot record hlive hwritten)
  · have hunwritten : record.isWritten = false := Bool.eq_false_iff.mpr hwritten
    have hunwritten' : record'.isWritten = false :=
      halike.isWritten_eq hlive hlive' ▸ hunwritten
    have hrenewed := hplaced.renewed slot record hlive
    have hrenewed' := hplaced'.renewed slot record' hlive'
    rw [(SlotRecord.word_and_value_of_renewed_eq hrenewed).2 hunwritten,
      (SlotRecord.word_and_value_of_renewed_eq hrenewed').2 hunwritten']

end Buckets

/-! ## Runs -/

section

variable {L : Type} [Layout L]

/-- The value that was written last to each slot of a table, after one more operation.  Only an
operation that worked counts. -/
def Table.lastWritesAfter (table : Table (Chains L)) (memory : Memory) (op : Operation)
    (last : Slot → Option Bytes) : Slot → Option Bytes :=
  match table.storage.contents with
  | .ok buckets =>
    if ((op.perform memory).run table).answer.isOk then
      op.lastWrites table.policy buckets last
    else last
  | .error _ => last

/-- The value that was written last to each slot, after a run. -/
def Table.lastWrites (table : Table (Chains L)) (last : Slot → Option Bytes) :
    List (Memory × Operation) → Slot → Option Bytes
  | [] => last
  | (memory, op) :: run =>
    ((op.perform memory).run table).state.lastWrites (table.lastWritesAfter memory op last) run

/-- The value that a run wrote last to each slot, counted from where the record of the slot was;
none if it did not write it. -/
def Table.lastWrite? (table : Table (Chains L)) (run : List (Memory × Operation)) :
    Slot → Option Bytes :=
  table.lastWrites (fun _ => none) run

variable [LawfulLayout L] {table table' : Table (Chains L)} {policy : Policy} {f : Bytes → Bytes}
  {last last' : Slot → Option Bytes} {op op' : Operation}

namespace Table

/-- Whether two tables look alike, and no live slot that was last written alike holds different
values. -/
def ShowTraced (f : Bytes → Bytes) (policy : Policy) (last last' : Slot → Option Bytes)
    (table table' : Table (Chains L)) : Prop :=
  ∃ bs bs', table.Shows policy bs ∧ table'.Shows policy bs' ∧ Buckets.Alike f bs bs' ∧
    Buckets.Traced last last' bs bs'

namespace ShowTraced

theorem refl {bs : Buckets} (h : table.Shows policy bs) (f : Bytes → Bytes)
    (last last' : Slot → Option Bytes) : ShowTraced f policy last last' table table := by
  refine ⟨bs, bs, h, h, rfl, fun slot record record' hlive hlive' _ _ => ?_⟩
  rw [hlive, Option.some.injEq] at hlive'
  rw [hlive']

/-- If the same was last written to all slots that are live and written, all values look the
same. -/
theorem id_of_eq (h : ShowTraced f policy last last' table table')
    (hsame : ∀ slot, SlotStorage.isWritten table.storage slot = .ok true → last slot = last' slot) :
    ShowTraced id policy last last' table table' := by
  obtain ⟨bs, bs', h, h', halike, htraced⟩ := h
  refine ⟨bs, bs', h, h', ?_, htraced⟩
  refine htraced.alike_id halike h.placed h'.placed fun slot record hlive hset => hsame slot ?_
  rw [LawfulSlotStorage.isWritten_eq h.storage, hlive, Option.any_some, hset]

variable [ImpartialLayout L]

/-- Alike operations are seen to be answered alike, and what was written is followed. -/
theorem perform (h : ShowTraced f policy last last' table table') (hop : op.Alike f op')
    (hf : ∀ value value', f value = f value' → value.length = value'.length)
    (hroom : table.size + 1 < wordLimit) (memory : Memory) :
    op.seen f ((op.perform memory).run table).answer =
        op'.seen f ((op'.perform memory).run table').answer ∧
      ShowTraced f policy (table.lastWritesAfter memory op last)
        (table'.lastWritesAfter memory op' last') ((op.perform memory).run table).state
        ((op'.perform memory).run table').state := by
  obtain ⟨bs, bs', h, h', halike, htraced⟩ := h
  refine ⟨hop.seen_perform_eq hf h h' halike memory, ?_⟩
  have hpos := h.chains.length_pos
  have hroom : bs.liveCount + 1 < wordLimit := by
    rwa [← h.chains.size_eq]
  have hends := op.run_perform h memory
  have hends' := op'.run_perform h' memory
  have hok := hop.isOk_perform_eq hf h h' halike memory
  simp only [lastWritesAfter, h.contents_eq, h'.contents_eq, h.policy_eq, h'.policy_eq, ← hok]
  cases hanswer : ((op.perform memory).run table).answer.isOk with
  | true =>
    obtain ⟨hfault, hshows⟩ := hends.shows_after hanswer
    obtain ⟨hfault', hshows'⟩ := hends'.shows_after (hok ▸ hanswer)
    refine ⟨_, _, hshows, hshows', hop.after halike policy, ?_⟩
    exact htraced.after halike hop hpos hfault hfault'
  | false =>
    have hshows := hends.shows_before hpos hroom hanswer
    have hshows' := hends'.shows_before (halike.length_eq ▸ hpos) (halike.liveCount_eq ▸ hroom)
      (hok ▸ hanswer)
    exact ⟨_, _, hshows, hshows', halike, htraced⟩

theorem run (h : ShowTraced f policy last last' table table')
    (hf : ∀ value value', f value = f value' → value.length = value'.length)
    {run run' : List (Memory × Operation)} (hrun : RunsAlike f run run')
    (hroom : table.HasRoomFor run) :
    table.seen f run = table'.seen f run' ∧
      ShowTraced f policy (table.lastWrites last run) (table'.lastWrites last' run')
        (table.after run) (table'.after run') := by
  induction hrun generalizing table table' last last' with
  | nil => exact ⟨rfl, h⟩
  | @cons step step' run run' hstep _ ih =>
    obtain ⟨memory, op⟩ := step
    obtain ⟨memory', op'⟩ := step'
    obtain ⟨rfl, hop⟩ := hstep
    obtain ⟨hfirst, hrest⟩ := hroom
    obtain ⟨hseen, hnext⟩ := h.perform hop hf hfirst memory
    obtain ⟨hseen', hafter⟩ := ih hnext hrest
    exact ⟨congrArg₂ List.cons hseen hseen', hafter⟩

end ShowTraced

end Table

end

/-! ## The whole table -/

/-- What is left of a value if its bytes are hidden: its length. -/
def Bytes.hidden (value : Bytes) : Bytes :=
  zeroes value.length

theorem Bytes.length_eq_of_hidden_eq {value value' : Bytes} (h : value.hidden = value'.hidden) :
    value.length = value'.length := by
  rw [← length_zeroes value.length, ← length_zeroes value'.length]
  exact congrArg List.length h

/-- Values influence nothing but reads of values, and removed values leave no trace.  Two runs that
differ in the values they write are seen to be answered alike, and if the same was last written to
all slots that are live and written, they are answered alike from there on. -/
theorem Table.Reachable.values_confined {kind : LayoutKind} {policy : Policy}
    {table : Table (Chains kind.Store)} (h : table.Reachable policy)
    {run run' : List (Memory × Operation)} (hrun : RunsAlike Bytes.hidden run run')
    (hroom : table.HasRoomFor run) :
    table.seen Bytes.hidden run = table.seen Bytes.hidden run' ∧
      ((∀ slot, SlotStorage.isWritten (table.after run).storage slot = .ok true →
          table.lastWrite? run slot = table.lastWrite? run' slot) →
        ∀ rest, (table.after run).HasRoomFor rest →
          ((table.after run).history rest).map Outcome.answer =
            ((table.after run').history rest).map Outcome.answer) := by
  obtain ⟨bs, hshows⟩ := h.exists_shows
  have hself := ShowTraced.refl hshows Bytes.hidden (fun _ => none) fun _ => none
  obtain ⟨hseen, hafter⟩ := hself.run (fun _ _ => Bytes.length_eq_of_hidden_eq) hrun hroom
  refine ⟨hseen, fun hsame rest hrest => ?_⟩
  have hid := hafter.id_of_eq hsame
  rw [← seen_id, ← seen_id]
  exact (hid.run (fun _ _ hvalue => congrArg List.length hvalue) (.refl id rest) hrest).1

/-- A key is written and removed, and its slot is given to another key. -/
def Table.reuse (value : Bytes) : List (Memory × Operation) :=
  [(.full, .insert [1] value), (.full, .get [1]), (.full, .insert [2] [7]), (.full, .erase [1]),
    (.full, .reserve [3])]

/-- After `Table.reuse` nothing tells which value was removed. -/
theorem Table.values_confined_of_reused_slot :
    ∃ table : Table (Chains LayoutKind.interleaved.Store),
      (create Memory.full (.standard 1 1) 2 : Action Unit _).run () = ⟨.ok table, (), []⟩ ∧
      RunsAlike Bytes.hidden (reuse [10]) (reuse [20]) ∧ table.HasRoomFor (reuse [10]) ∧
      table.seen Bytes.hidden (reuse [10]) = table.seen Bytes.hidden (reuse [20]) ∧
      ((table.after (reuse [10])).history
          [(.full, .walk .value [.next]), (.full, .rehash 3), (.full, .values)]).map
            Outcome.answer =
        ((table.after (reuse [20])).history
          [(.full, .walk .value [.next]), (.full, .rehash 3), (.full, .values)]).map
            Outcome.answer := by
  have halike : RunsAlike Bytes.hidden (reuse [10]) (reuse [20]) :=
    .cons ⟨rfl, .insert [1] rfl⟩ (RunsAlike.refl _ _)
  obtain ⟨table, hcreate, hroom, hwrites, hrest⟩ :
      ∃ table : Table (Chains LayoutKind.interleaved.Store),
        (create Memory.full (.standard 1 1) 2 : Action Unit _).run () = ⟨.ok table, (), []⟩ ∧
        table.HasRoomFor (reuse [10]) ∧
        (∀ slot ∈ Buckets.liveSlots ((table.after (reuse [10])).storage.contents.toOption.getD []),
          SlotStorage.isWritten (table.after (reuse [10])).storage slot = .ok true →
          table.lastWrite? (reuse [10]) slot = table.lastWrite? (reuse [20]) slot) ∧
        (table.after (reuse [10])).HasRoomFor
          [(.full, .walk .value [.next]), (.full, .rehash 3), (.full, .values)] := by
    refine ⟨_, rfl, ?_, ?_, ?_⟩
    · decide +kernel
    · decide +kernel
    · decide +kernel
  have hreach : table.Reachable (.standard 1 1) := .created hcreate
  obtain ⟨hseen, hlater⟩ := hreach.values_confined halike hroom
  obtain ⟨bs, hshows⟩ := (hreach.after hroom).exists_shows
  refine ⟨table, hcreate, halike, hroom, hseen, hlater (fun slot hslot => ?_) _ hrest⟩
  rw [hshows.contents_eq] at hwrites
  refine hwrites slot (Buckets.mem_liveSlots_iff.mpr ?_) hslot
  rw [LawfulSlotStorage.isWritten_eq hshows.storage, Except.ok.injEq, Option.any_eq_true] at hslot
  obtain ⟨record, hrecord, -⟩ := hslot
  exact ⟨record, hrecord⟩

end ByteTable
