import ByteTable.Proofs.Chains.Impartial
import ByteTable.Proofs.Table.Invariant
import ByteTable.Proofs.Table.Run

/-!
# Tables that look alike

Two tables are compared that differ in values only, as far as a function on values shows: `Alike f`
operations are the same but for values that `f` does not tell apart, and `Operation.seen f` is what
`f` leaves of an answer.  Alike operations on tables whose buckets look alike give answers that are
seen alike (`Operation.Alike.seen_perform_eq`), and leave such tables.

Most operations answer what the buckets say, where the function may be applied before or after
(`Operation.seenReply_reply`).  The three that ask for memory do what the chains do.

With the identity this says that nothing but live slots matters for what a table answers.  With a
function that leaves nothing but the length, it says that values matter to nothing but reads of
values.
-/

namespace ByteTable

variable {f : Bytes → Bytes}

/-! ## Operations and replies as they are seen -/

/-- Whether two operations are the same, but for values that look the same. -/
inductive Operation.Alike (f : Bytes → Bytes) : Operation → Operation → Prop where
  | insert (key : Bytes) {value value' : Bytes} (h : f value = f value') :
    Alike f (.insert key value) (.insert key value')
  | assign (handle : Handle) {value value' : Bytes} (h : f value = f value') :
    Alike f (.assign handle value) (.assign handle value')
  | refl (op : Operation) : Alike f op op

/-- What is seen of an element that an enumerator shows. -/
def ElementKind.seen (f : Bytes → Bytes) : ElementKind → Bytes → Bytes
  | key, element => element
  | value, element => f element

theorem ElementKind.seen_id (kind : ElementKind) : kind.seen id = id := by
  cases kind <;> rfl

namespace Operation

/-- What is seen of a reply.  Only an operation that reads values has any in its reply. -/
def seenReply (f : Bytes → Bytes) : Operation → Reply → Reply
  | get _, .bytes value? | valueOf _, .bytes value? => .bytes (value?.map f)
  | values, .list elements => .list (elements.map f)
  | pairs _, .pairs shown => .pairs (shown.map (Option.map (Prod.map id f)))
  | walk kind _, .trail shown => .trail (shown.map (Prod.map (Option.map (kind.seen f)) id))
  | _, reply => reply

/-- What is seen of an answer. -/
def seen (f : Bytes → Bytes) (op : Operation) (answer : Except Failure Reply) :
    Except Failure Reply :=
  answer.map (op.seenReply f)

theorem seen_id (op : Operation) (answer : Except Failure Reply) : op.seen id answer = answer := by
  have hreply : op.seenReply id = id := by
    funext reply
    unfold seenReply
    split <;> simp [ElementKind.seen_id]
  rw [seen, hreply, Except.map_id]
  rfl

theorem isOk_seen (f : Bytes → Bytes) (op : Operation) (answer : Except Failure Reply) :
    (op.seen f answer).isOk = answer.isOk := by
  cases answer <;> rfl

end Operation

/-! ## Reading buckets -/

namespace Buckets

variable {bs : Buckets}

theorem get?_veil (f : Bytes → Bytes) (bs : Buckets) (policy : Policy) (key : Bytes) :
    (bs.veil f).get? policy key = (bs.get? policy key).map f := by
  rw [get?, get?, locate_veil]
  rcases hlocate : bs.locate policy key with _ | slot
  · rfl
  · obtain ⟨-, record, hrecord, -⟩ := of_locate_eq_some hlocate
    obtain ⟨hslot, hlive⟩ := live?_eq_some_iff.mp hrecord
    rw [Option.bind_some, Option.bind_some, at?_veil, hslot, Option.map_some, Option.bind_some,
      Option.bind_some, SlotRecord.value?_veil hlive]

theorem bind_value?_live?_veil (f : Bytes → Bytes) (bs : Buckets) (slot : Slot) :
    ((bs.veil f).live? slot).bind SlotRecord.value? =
      ((bs.live? slot).bind SlotRecord.value?).map f := by
  rw [live?_veil]
  rcases hslot : bs.live? slot with _ | record
  · rfl
  · rw [Option.map_some, Option.bind_some, Option.bind_some,
      SlotRecord.value?_veil (live?_eq_some_iff.mp hslot).2]

theorem map_value_liveRecords_veil (f : Bytes → Bytes) (bs : Buckets) :
    (bs.veil f).liveRecords.map SlotRecord.value = (bs.liveRecords.map SlotRecord.value).map f := by
  rw [liveRecords_veil, List.map_map, List.map_map]
  refine List.map_congr_left fun record hrecord => ?_
  exact SlotRecord.value_veil (List.mem_filter.mp hrecord).2

theorem filterMap_pair?_liveRecords_veil (f : Bytes → Bytes) (bs : Buckets) :
    (bs.veil f).liveRecords.filterMap SlotRecord.pair? =
      (bs.liveRecords.filterMap SlotRecord.pair?).map (Prod.map id f) := by
  rw [liveRecords_veil, List.filterMap_map, List.map_filterMap]
  refine List.filterMap_congr fun record hrecord => ?_
  have hlive : record.isLive = true := (List.mem_filter.mp hrecord).2
  rw [Function.comp_apply, SlotRecord.pair?, SlotRecord.pair?, SlotRecord.value?_veil hlive]
  simp [Function.comp_def]

theorem shown_veil (f : Bytes → Bytes) (bs : Buckets) (kind : ElementKind) (cursor : Cursor) :
    (bs.veil f).shown kind cursor = (bs.shown kind cursor).map (kind.seen f) := by
  rw [shown, shown, Option.map_bind]
  refine Option.bind_congr fun slot _ => ?_
  rw [Function.comp_apply, live?_veil]
  rcases hslot : bs.live? slot with _ | record
  · rfl
  · have hvalue := SlotRecord.value_veil (f := f) (live?_eq_some_iff.mp hslot).2
    cases kind with
    | key => rfl
    | value => exact congrArg some hvalue

theorem trail_veil (f : Bytes → Bytes) (bs : Buckets) (kind : ElementKind) (cursor : Cursor)
    (moves : List Move) :
    (bs.veil f).trail kind cursor moves =
      (bs.trail kind cursor moves).map (Prod.map (Option.map (kind.seen f)) id) := by
  induction moves generalizing cursor with
  | nil => simp [trail, shown_veil, handleAt]
  | cons move moves ih =>
    have htarget : (bs.veil f).target cursor move = bs.target cursor move := by
      cases move <;> simp [target]
    simp [trail, htarget, ih, shown_veil, handleAt]

end Buckets

/-! ## What alike operations say and do -/

namespace Operation

variable {policy : Policy} {bs bs' : Buckets} {op op' : Operation}

theorem seenReply_reply (f : Bytes → Bytes) (policy : Policy) (bs : Buckets) (op : Operation) :
    op.seenReply f (op.reply policy bs) = op.reply policy (bs.veil f) := by
  cases op with
  | get key => exact congrArg Reply.bytes (bs.get?_veil f policy key).symm
  | find key => simp [seenReply, reply]
  | reserve key =>
    have hreserve := ((bs.alike_veil f).reserve policy key).1
    simp [seenReply, reply, hreserve]
  | isWritten handle =>
    simp only [seenReply, reply, Buckets.length_veil, Buckets.live?_veil, Option.any_map]
    rfl
  | keyOf handle =>
    simp only [seenReply, reply, Buckets.length_veil, Buckets.live?_veil, Option.map_map]
    rfl
  | valueOf handle =>
    rw [reply, reply, Buckets.length_veil, Buckets.bind_value?_live?_veil]
    rfl
  | size => simp [seenReply, reply]
  | loadFactor => simp [seenReply, reply]
  | keys =>
    simp only [seenReply, reply, Buckets.liveRecords_veil, List.map_map]
    rfl
  | values => exact congrArg Reply.list (bs.map_value_liveRecords_veil f).symm
  | pairs calls =>
    simp [seenReply, reply, Buckets.filterMap_pair?_liveRecords_veil]
  | walk kind moves =>
    simp [seenReply, reply, Buckets.trail_veil]
  | _ => rfl

/-- Alike operations on alike buckets reply alike. -/
theorem Alike.seenReply_eq (hop : op.Alike f op') (h : Buckets.Alike f bs bs') :
    op.seenReply f (op.reply policy bs) = op'.seenReply f (op'.reply policy bs') := by
  cases hop with
  | insert key hvalue => rfl
  | assign handle hvalue => rfl
  | refl op => rw [seenReply_reply, seenReply_reply, h]

/-- Alike operations are refused by the same check, if values of different lengths do not look the
same. -/
theorem Alike.fault?_eq (hop : op.Alike f op')
    (hf : ∀ value value', f value = f value' → value.length = value'.length) (policy : Policy) :
    op.fault? policy = op'.fault? policy := by
  cases hop with
  | insert key hvalue => rw [fault?, fault?, hf _ _ hvalue]
  | assign handle hvalue => rw [fault?, fault?, hf _ _ hvalue]
  | refl op => rfl

theorem Alike.asksMemory_eq (hop : op.Alike f op') : op.asksMemory = op'.asksMemory := by
  cases hop <;> rfl

/-- Alike operations on alike buckets leave alike buckets. -/
theorem Alike.after (hop : op.Alike f op') (h : Buckets.Alike f bs bs') (policy : Policy) :
    Buckets.Alike f (op.after policy bs) (op'.after policy bs') := by
  cases hop with
  | insert key hvalue => exact h.insert policy key hvalue
  | assign handle hvalue =>
    rw [Operation.after, Operation.after, h.length_eq]
    exact h.assign _ hvalue
  | refl op =>
    cases op with
    | insert key value => exact h.insert policy key rfl
    | reserve key => exact (h.reserve policy key).2
    | erase key => exact h.erase policy key
    | assign handle value =>
      rw [Operation.after, Operation.after, h.length_eq]
      exact h.assign _ rfl
    | discard handle =>
      rw [Operation.after, Operation.after, h.length_eq]
      exact h.discard _
    | rehash bucketCount => exact h.spread_liveRecords policy bucketCount
    | _ => exact h

/-- An operation that asks for memory replies no value. -/
theorem seen_of_asksMemory (hop : op.asksMemory = true) (f : Bytes → Bytes)
    (answer : Except Failure Reply) : op.seen f answer = answer := by
  have hreply : op.seenReply f = id := by
    cases op with
    | insert key value => rfl
    | reserve key => rfl
    | rehash bucketCount => rfl
    | _ => cases hop
  rw [seen, hreply, Except.map_id]
  rfl

end Operation

/-! ## Answers -/

section

variable {L : Type} [Layout L] [LawfulLayout L] {table table' : Table (Chains L)} {policy : Policy}
  {bs bs' : Buckets} {op op' : Operation}

namespace Table

theorem agrees_onStorage_of_alike {α : Type} {act act' : Policy → Action (Chains L) α}
    (h : table.Shows policy bs) (h' : table'.Shows policy bs') (halike : Buckets.Alike f bs bs')
    (hanswer : ((act policy).run table.storage).answer =
      ((act' policy).run table'.storage).answer) :
    ((onStorage act).run table).Agrees (fun s t => s.bucketCount = t.bucketCount) (fun _ _ => True)
      ((onStorage act').run table') := by
  rw [run_onStorage, run_onStorage, h.policy_eq, h'.policy_eq]
  refine .of_answer_eq hanswer fun _ _ _ => ?_
  show table.bucketCount = table'.bucketCount
  rw [h.bucketCount_eq, h'.bucketCount_eq, halike.length_eq]

/-- A table's rehash is answered as that of its storage. -/
theorem Shows.answer_rehash (h : table.Shows policy bs) {bucketCount : Nat} (hpos : 0 < bucketCount)
    (memory : Memory) :
    ((rehash memory bucketCount).run table).answer =
      ((Storage.rehash memory policy bucketCount).run table.storage).answer := by
  obtain rfl := h.policy_eq
  have hrehash := LawfulStorage.run_rehash h.storage rfl rfl hpos
    (fun _ => h.placed.of_mem_liveRecords) memory
  rcases hrun : (Storage.rehash memory table.policy bucketCount).run table.storage with
    ⟨cause | _, storage, log⟩
  · obtain ⟨log', hrun'⟩ := run_rehash_of_error hpos hrun
    rw [hrun']
  · rw [hrun] at hrehash
    cases hrehash with
    | done hstorage =>
      have hcount := LawfulSlotStorage.bucketCount_eq hstorage
      rw [Buckets.length_spread] at hcount
      obtain ⟨log', hrun'⟩ := run_rehash_of_ok hpos hrun hcount
      rw [hrun']

end Table

namespace Operation

/-- An operation that settles is seen to answer what the buckets say as they are seen. -/
theorem Settles.seen_eq {outcome outcome' : Outcome (Table (Chains L)) Reply}
    (h : op.Settles policy bs outcome) (h' : op'.Settles policy bs' outcome')
    (hop : op.Alike f op')
    (hf : ∀ value value', f value = f value' → value.length = value'.length)
    (halike : Buckets.Alike f bs bs') : op.seen f outcome.answer = op'.seen f outcome'.answer := by
  have hfault := hop.fault?_eq hf policy
  cases h with
  | answered hnone _ =>
    cases h' with
    | answered _ _ => exact congrArg Except.ok (hop.seenReply_eq halike)
    | faulted hsome _ =>
      rw [hfault, hsome] at hnone
      cases hnone
  | faulted hsome _ =>
    cases h' with
    | answered hnone _ =>
      rw [hfault, hnone] at hsome
      cases hsome
    | faulted hsome' _ =>
      rw [hfault, hsome', Option.some.injEq] at hsome
      rw [hsome]
      rfl

theorem agrees_insert_of_alike (h : table.Shows policy bs) (h' : table'.Shows policy bs')
    (halike : Buckets.Alike f bs bs') (key : Bytes) {value value' : Bytes}
    (hlength : value.length = value'.length) (memory : Memory) :
    ((perform memory (.insert key value)).run table).Agrees (fun _ _ => True) (fun _ _ => True)
      ((perform memory (.insert key value')).run table') := by
  have hkey : table'.checkKey key = table.checkKey key := by
    rw [Table.checkKey, Table.checkKey, h.policy_eq, h'.policy_eq]
  have hvalue : table'.checkValue value' = table.checkValue value := by
    rw [Table.checkValue, Table.checkValue, h.policy_eq, h'.policy_eq, hlength]
  simp only [perform, Table.insert, bind_assoc]
  refine Action.agrees_read_bind (s := table) (t := table') hkey trivial fun _ hchecked => ?_
  refine Action.agrees_read_bind (s := table) (t := table') hvalue trivial fun _ hchecked' => ?_
  have hsized := h.checkKey_eq_ok_iff.mp hchecked
  have hsized' := h.checkValue_eq_ok_iff.mp hchecked'
  rw [Action.run_bind, Action.run_bind]
  refine (Table.agrees_onStorage_of_alike h h' halike ?_).andThen fun _ _ _ _ => .answered trivial
  exact h.chains.answer_insert_eq h'.chains halike hsized rfl hsized' (hlength ▸ hsized') memory

theorem agrees_reserve_of_alike (h : table.Shows policy bs) (h' : table'.Shows policy bs')
    (halike : Buckets.Alike f bs bs') (key : Bytes) (memory : Memory) :
    ((perform memory (.reserve key)).run table).Agrees (fun _ _ => True) (fun _ _ => True)
      ((perform memory (.reserve key)).run table') := by
  have hkey : table'.checkKey key = table.checkKey key := by
    rw [Table.checkKey, Table.checkKey, h.policy_eq, h'.policy_eq]
  simp only [perform, Table.reserve, bind_assoc]
  refine Action.agrees_read_bind (s := table) (t := table') hkey trivial fun _ hchecked => ?_
  have hsized := h.checkKey_eq_ok_iff.mp hchecked
  have hanswer := h.chains.answer_reserve_eq h'.chains halike hsized memory policy
  rw [Action.run_bind, Action.run_bind]
  refine (Table.agrees_onStorage_of_alike h h' halike hanswer).andThen
    fun reservation s t hcount => ?_
  have hread : (Except.ok t.bucketCount : Except Crash Nat) = .ok s.bucketCount := by
    rw [hcount]
  refine Action.agrees_read_bind (s := s) (t := t) hread trivial fun bucketCount _ => ?_
  rw [Action.run_bind, Action.run_bind]
  exact (Handle.agrees_pack (R := fun _ _ => True) trivial bucketCount reservation.slot).andThen
    fun _ _ _ _ => .answered trivial

variable [ImpartialLayout L]

theorem answer_rehash_eq (h : table.Shows policy bs) (h' : table'.Shows policy bs')
    (halike : Buckets.Alike f bs bs') (bucketCount : Nat) (memory : Memory) :
    ((perform memory (.rehash bucketCount)).run table).answer =
      ((perform memory (.rehash bucketCount)).run table').answer := by
  simp only [perform, Action.run_bind_pure]
  by_cases hpos : bucketCount < 1
  · rw [Table.rehash, if_pos hpos]
    rfl
  · rw [h.answer_rehash (Nat.not_lt.mp hpos), h'.answer_rehash (Nat.not_lt.mp hpos)]
    exact congrArg (Except.map _)
      (h.chains.answer_rehash_eq h'.chains halike rfl rfl (Nat.not_lt.mp hpos) memory)

/-- Alike operations on tables that show alike buckets are seen to be answered alike. -/
theorem Alike.seen_perform_eq (hop : op.Alike f op')
    (hf : ∀ value value', f value = f value' → value.length = value'.length)
    (h : table.Shows policy bs) (h' : table'.Shows policy bs') (halike : Buckets.Alike f bs bs')
    (memory : Memory) :
    op.seen f ((op.perform memory).run table).answer =
      op'.seen f ((op'.perform memory).run table').answer := by
  cases hasks : op.asksMemory with
  | false =>
    have hasks' : op'.asksMemory = false := by
      rwa [← hop.asksMemory_eq]
    exact (settles_perform h memory hasks).seen_eq (settles_perform h' memory hasks') hop hf halike
  | true =>
    have hasks' : op'.asksMemory = true := by
      rwa [← hop.asksMemory_eq]
    rw [seen_of_asksMemory hasks, seen_of_asksMemory hasks']
    cases hop with
    | insert key hvalue =>
      exact (agrees_insert_of_alike h h' halike key (hf _ _ hvalue) memory).answer_eq.symm
    | assign handle hvalue => cases hasks
    | refl op =>
      cases op with
      | insert key value =>
        exact (agrees_insert_of_alike h h' halike key rfl memory).answer_eq.symm
      | reserve key => exact (agrees_reserve_of_alike h h' halike key memory).answer_eq.symm
      | rehash bucketCount => exact answer_rehash_eq h h' halike bucketCount memory
      | _ => cases hasks

/-- Of alike operations on tables that show alike buckets, both do their work or neither does. -/
theorem Alike.isOk_perform_eq (hop : op.Alike f op')
    (hf : ∀ value value', f value = f value' → value.length = value'.length)
    (h : table.Shows policy bs) (h' : table'.Shows policy bs') (halike : Buckets.Alike f bs bs')
    (memory : Memory) :
    ((op.perform memory).run table).answer.isOk =
      ((op'.perform memory).run table').answer.isOk := by
  rw [← isOk_seen f op, hop.seen_perform_eq hf h h' halike memory, isOk_seen]

end Operation

end

/-! ## Runs -/

section

variable {β : Type} [Storage β]

/-- The table that a run leaves. -/
def Table.after (table : Table β) : List (Memory × Operation) → Table β
  | [] => table
  | (memory, op) :: run => ((op.perform memory).run table).state.after run

/-- What is seen of the answers of a run. -/
def Table.seen (f : Bytes → Bytes) (table : Table β) :
    List (Memory × Operation) → List (Except Failure Reply)
  | [] => []
  | (memory, op) :: run =>
    op.seen f ((op.perform memory).run table).answer ::
      ((op.perform memory).run table).state.seen f run

theorem Table.seen_id (table : Table β) (run : List (Memory × Operation)) :
    table.seen id run = (table.history run).map Outcome.answer := by
  induction run generalizing table with
  | nil => rfl
  | cons step run ih =>
    obtain ⟨memory, op⟩ := step
    rw [seen, history, List.map_cons, Operation.seen_id, ih]

/-- Whether the counter has room for one more live slot before each operation of a run. -/
def Table.HasRoomFor (table : Table β) : List (Memory × Operation) → Prop
  | [] => True
  | (memory, op) :: run =>
    table.size + 1 < wordLimit ∧ ((op.perform memory).run table).state.HasRoomFor run

instance Table.decidableHasRoomFor :
    (table : Table β) → (run : List (Memory × Operation)) → Decidable (table.HasRoomFor run)
  | _, [] => inferInstanceAs (Decidable True)
  | table, (memory, op) :: run =>
    have := decidableHasRoomFor ((op.perform memory).run table).state run
    inferInstanceAs (Decidable (_ ∧ _))

theorem Table.Reachable.after {table : Table β} {policy : Policy} (h : table.Reachable policy)
    {run : List (Memory × Operation)} (hroom : table.HasRoomFor run) :
    (table.after run).Reachable policy := by
  induction run generalizing table with
  | nil => exact h
  | cons step run ih =>
    obtain ⟨memory, op⟩ := step
    obtain ⟨hfirst, hrest⟩ := hroom
    exact ih (h.step hfirst memory op) hrest

end

/-- Whether two runs are the same, with the same memory, but for values that look the same. -/
def RunsAlike (f : Bytes → Bytes) : (run run' : List (Memory × Operation)) → Prop :=
  List.Forall₂ fun step step' => step.1 = step'.1 ∧ step.2.Alike f step'.2

theorem RunsAlike.refl (f : Bytes → Bytes) (run : List (Memory × Operation)) :
    RunsAlike f run run :=
  List.forall₂_same.mpr fun step _ => ⟨rfl, .refl step.2⟩

end ByteTable
