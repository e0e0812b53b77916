import ByteTable.Proofs.Table.Operation

/-!
# What one operation does

`Table.Shows table policy bs` ties a table to the buckets it keeps.  `Operation.run_perform` is the
one statement about operations that the theorems about runs rest on: on a table that shows `bs`, an
operation ends in one of the ways of `Operation.Ends`.

Every end but `full` leaves a table that shows some buckets, and which ones is known.  `full` is the
crash of the counter of live slots, which does not happen below `2 ^ 64` of them.
-/

namespace ByteTable

open LawfulSlotStorage (Fits)

/-- Whether a table keeps exactly these slots, each where the policy puts it. -/
structure Table.Shows {β : Type} [Storage β] [LawfulStorage β] (table : Table β) (policy : Policy)
    (bs : Buckets) : Prop where
  policy_eq : table.policy = policy
  bucketCount_eq : table.bucketCount = bs.length
  storage : LawfulSlotStorage.Shows table.storage policy.keySize policy.valueSize bs
  placed : bs.Placed policy

namespace Table.Shows

variable {L : Type} [Layout L] [LawfulLayout L] {table : Table (Chains L)} {policy : Policy}
  {bs : Buckets}

theorem chains (h : table.Shows policy bs) :
    table.storage.Shows policy.keySize policy.valueSize bs := h.storage

/-- What a table of chains shows is what reading all its slots gives. -/
theorem contents_eq (h : table.Shows policy bs) : table.storage.contents = .ok bs :=
  LawfulLayout.contents_eq h.chains.layout

end Table.Shows

section

variable {β : Type} [Storage β] [LawfulStorage β] {table : Table β} {policy : Policy} {bs : Buckets}
  {op : Operation}

/-- How an operation on a table that shows `bs` ends. -/
inductive Operation.Ends (policy : Policy) (bs : Buckets) (op : Operation) :
    Outcome (Table β) Reply → Prop where
  /-- It does its work. -/
  | answered {table : Table β} {log : List Event} (hfault : op.fault? policy = none)
    (h : table.Shows policy (op.after policy bs)) :
    Ends policy bs op ⟨.ok (op.reply policy bs), table, log⟩
  /-- A check of its arguments fails. -/
  | faulted {table : Table β} {log : List Event} {cause : Failure}
    (hfault : op.fault? policy = some cause) (h : table.Shows policy bs) :
    Ends policy bs op ⟨.error cause, table, log⟩
  /-- Memory is refused. -/
  | refused {table : Table β} {log : List Event} (h : table.Shows policy bs) :
    Ends policy bs op ⟨.error (.error .allocation), table, log⟩
  /-- The size of a record does not fit a machine word. -/
  | oversized {table : Table β} {log : List Event}
    (hsize : ¬Fits β policy.keySize policy.valueSize) (h : table.Shows policy bs) :
    Ends policy bs op ⟨.error (.crash .overflow), table, log⟩
  /-- The count of live slots does not fit a machine word. -/
  | full {table : Table β} {log : List Event} (hfault : op.fault? policy = none)
    (hfull : wordLimit ≤ (op.after policy bs).liveCount) :
    Ends policy bs op ⟨.error (.crash .overflow), table, log⟩
  /-- A rebuild takes two keys for the same. -/
  | merged {table : Table β} {log : List Event} {bucketCount : Nat}
    (hop : op = .rehash bucketCount)
    (hmerging : ¬Buckets.Apart policy bucketCount (bs.liveRecords.map SlotRecord.key))
    (h : table.Shows policy bs) :
    Ends policy bs op ⟨.error (.crash .liveCountChanged), table, log⟩

/-- The two ends of an operation that asks for no memory. -/
inductive Operation.Settles (policy : Policy) (bs : Buckets) (op : Operation) :
    Outcome (Table β) Reply → Prop where
  /-- It does its work. -/
  | answered {table : Table β} {log : List Event} (hfault : op.fault? policy = none)
    (h : table.Shows policy (op.after policy bs)) :
    Settles policy bs op ⟨.ok (op.reply policy bs), table, log⟩
  /-- A check of its arguments fails. -/
  | faulted {table : Table β} {log : List Event} {cause : Failure}
    (hfault : op.fault? policy = some cause) (h : table.Shows policy bs) :
    Settles policy bs op ⟨.error cause, table, log⟩

theorem Operation.Settles.ends {outcome : Outcome (Table β) Reply}
    (h : op.Settles policy bs outcome) : op.Ends policy bs outcome := by
  cases h with
  | answered hfault h => exact .answered hfault h
  | faulted hfault h => exact .faulted hfault h

/-- Whether an operation may ask for memory. -/
def Operation.asksMemory : Operation → Bool
  | insert _ _ | reserve _ | rehash _ => true
  | _ => false

namespace Table

omit [Storage β] [LawfulStorage β] in
theorem run_onStorage {α : Type} (act : Policy → Action β α) (table : Table β) :
    (onStorage act).run table =
      ⟨((act table.policy).run table.storage).answer,
        { table with storage := ((act table.policy).run table.storage).state },
        ((act table.policy).run table.storage).log⟩ := rfl

section

omit [LawfulStorage β]

variable {memory : Memory} {bucketCount : Nat} {storage : β} {log : List Event}

/-- A rehash fails as that of the storage does, and then keeps its bucket count. -/
theorem run_rehash_of_error (hpos : 0 < bucketCount) {cause : Failure}
    (hrun : (Storage.rehash memory table.policy bucketCount).run table.storage =
      ⟨.error cause, storage, log⟩) :
    ∃ log', (rehash memory bucketCount).run table =
      ⟨.error cause, { table with storage }, log'⟩ := by
  rw [rehash, if_neg (Nat.not_lt.mpr hpos), Action.run_read_bind, Action.andThen_answer_ok,
    Action.run_read_bind, Action.andThen_answer_ok, Action.run_bind, Action.run_note,
    Outcome.andThen, Action.run_bind, run_onStorage, hrun]
  exact ⟨_, rfl⟩

/-- A rehash is done when the storage has the new bucket count. -/
theorem run_rehash_of_ok (hpos : 0 < bucketCount)
    (hrun : (Storage.rehash memory table.policy bucketCount).run table.storage =
      ⟨.ok (), storage, log⟩) (hcount : SlotStorage.bucketCount storage = bucketCount) :
    ∃ log', (rehash memory bucketCount).run table =
      ⟨.ok (), { table with storage, bucketCount }, log'⟩ := by
  have hcheck : checkBucketCount ({ table with storage, bucketCount } : Table β) = .ok () :=
    if_pos hcount
  rw [rehash, if_neg (Nat.not_lt.mpr hpos), Action.run_read_bind, Action.andThen_answer_ok,
    Action.run_read_bind, Action.andThen_answer_ok, Action.run_bind, Action.run_note,
    Outcome.andThen, Action.run_bind, run_onStorage, hrun, Outcome.andThen, Action.run_bind,
    Action.run_modify, Outcome.andThen_ok, Action.run_read, hcheck]
  exact ⟨_, rfl⟩

end

theorem slotOf_eq (h : table.Shows policy bs) (handle : Handle) :
    table.slotOf handle = .ok (handle.slotAt bs.length) := by
  rw [slotOf, h.bucketCount_eq, Handle.unpack_eq (LawfulSlotStorage.length_lt h.storage)]

/-! ## Checks -/

theorem Shows.checkKey_eq (h : table.Shows policy bs) {key : Bytes}
    (hkey : key.length = policy.keySize) : table.checkKey key = .ok () := by
  rw [checkKey, h.policy_eq, if_pos hkey]
  rfl

theorem Shows.checkKey_eq_error (h : table.Shows policy bs) {key : Bytes}
    (hkey : key.length ≠ policy.keySize) : table.checkKey key = .error .keySize := by
  rw [checkKey, h.policy_eq, if_neg hkey]
  rfl

theorem Shows.checkKey_eq_ok_iff (h : table.Shows policy bs) {key : Bytes} :
    table.checkKey key = .ok () ↔ key.length = policy.keySize := by
  refine ⟨fun hchecked => ?_, h.checkKey_eq⟩
  by_contra hkey
  rw [h.checkKey_eq_error hkey] at hchecked
  cases hchecked

theorem Shows.checkValue_eq (h : table.Shows policy bs) {value : Bytes}
    (hvalue : value.length = policy.valueSize) : table.checkValue value = .ok () := by
  rw [checkValue, h.policy_eq, if_pos hvalue]
  rfl

theorem Shows.checkValue_eq_error (h : table.Shows policy bs) {value : Bytes}
    (hvalue : value.length ≠ policy.valueSize) : table.checkValue value = .error .valueSize := by
  rw [checkValue, h.policy_eq, if_neg hvalue]
  rfl

theorem Shows.checkValue_eq_ok_iff (h : table.Shows policy bs) {value : Bytes} :
    table.checkValue value = .ok () ↔ value.length = policy.valueSize := by
  refine ⟨fun hchecked => ?_, h.checkValue_eq⟩
  by_contra hvalue
  rw [h.checkValue_eq_error hvalue] at hchecked
  cases hchecked

/-! ## Looking up a key, and through a handle -/

theorem Shows.run_find?_of_eq_some (h : table.Shows policy bs) {key : Bytes}
    (hkey : key.length = policy.keySize) {slot : Slot}
    (hlocate : bs.locate policy key = some slot) :
    (find? key).run table = (Handle.pack bs.length slot).run table := by
  have hstorage : SlotStorage.locate table.storage table.policy key = .ok (some slot) := by
    rw [h.policy_eq, LawfulSlotStorage.locate_eq h.storage, hlocate]
  rw [find?, Action.run_read_bind, h.checkKey_eq hkey, Action.andThen_answer_ok,
    Action.run_read_bind, hstorage, Action.andThen_answer_ok]
  dsimp only
  rw [Action.run_read_bind, Action.andThen_answer_ok, h.bucketCount_eq]

/-- A search answers with the handle of the key's slot. -/
theorem Shows.run_find? (h : table.Shows policy bs) {key : Bytes}
    (hkey : key.length = policy.keySize) :
    ∃ log, (find? key).run table =
      ⟨.ok ((bs.locate policy key).bind (Handle.packed? bs.length)), table, log⟩ := by
  rcases hfound : bs.locate policy key with _ | slot
  · have hstorage : SlotStorage.locate table.storage table.policy key = .ok none := by
      rw [h.policy_eq, LawfulSlotStorage.locate_eq h.storage, hfound]
    rw [find?, Action.run_read_bind, h.checkKey_eq hkey, Action.andThen_answer_ok,
      Action.run_read_bind, hstorage]
    exact ⟨[], rfl⟩
  · have hbucket : slot.bucket < bs.length := by
      rw [(Buckets.of_locate_eq_some hfound).1]
      exact Buckets.home_lt policy (LawfulSlotStorage.length_pos h.storage) key
    rw [h.run_find?_of_eq_some hkey hfound,
      Handle.run_pack (LawfulSlotStorage.length_lt h.storage) hbucket]
    exact ⟨_, rfl⟩

theorem Shows.get?_eq (h : table.Shows policy bs) {key : Bytes}
    (hkey : key.length = policy.keySize) : table.get? key = .ok (bs.get? policy key) := by
  rw [get?, h.checkKey_eq hkey, ok_bind, h.policy_eq, LawfulKeyedStorage.get?_eq h.storage]

theorem Shows.isWritten_eq (h : table.Shows policy bs) (handle : Handle) :
    table.isWritten handle =
      .ok ((bs.live? (handle.slotAt bs.length)).any SlotRecord.isWritten) := by
  rw [isWritten, slotOf_eq h, ok_bind, LawfulSlotStorage.isWritten_eq h.storage]

theorem Shows.keyOf?_eq (h : table.Shows policy bs) (handle : Handle) :
    table.keyOf? handle = .ok ((bs.live? (handle.slotAt bs.length)).map SlotRecord.key) := by
  rw [keyOf?, slotOf_eq h, ok_bind, LawfulSlotStorage.keyAt_eq h.storage]

theorem Shows.valueOf?_eq (h : table.Shows policy bs) (handle : Handle) :
    table.valueOf? handle = .ok ((bs.live? (handle.slotAt bs.length)).bind SlotRecord.value?) := by
  rw [valueOf?, slotOf_eq h, ok_bind, LawfulSlotStorage.isWritten_eq h.storage, ok_bind,
    LawfulSlotStorage.valueAt_eq h.storage]
  rcases bs.live? (handle.slotAt bs.length) with _ | record
  · rfl
  · rw [Option.any_some, Option.bind_some, SlotRecord.value?]
    by_cases hwritten : record.isWritten
    · rw [if_pos hwritten, if_pos hwritten]
      rfl
    · rw [if_neg hwritten, if_neg hwritten]
      rfl

/-! ## Creating a table -/

/-- A new table has no slots. -/
theorem shows_of_run_create {σ : Type} {memory : Memory} {bucketCount : Nat} {s s' : σ}
    {log : List Event}
    (h : (create memory policy bucketCount : Action σ (Table β)).run s = ⟨.ok table, s', log⟩) :
    table.Shows policy (Buckets.empty bucketCount) := by
  unfold create at h
  by_cases hpos : bucketCount < 1
  · rw [if_pos hpos, Action.run_bind] at h
    cases h
  rw [if_neg hpos, Action.run_bind] at h
  rcases hstorage : (SlotStorage.create memory policy.keySize policy.valueSize bucketCount :
    Except TableError β) with cause | storage
  · rw [hstorage] at h
    cases h
  · rw [hstorage] at h
    cases h
    exact ⟨rfl, (Buckets.length_empty bucketCount).symm, LawfulSlotStorage.create_eq_ok hstorage,
      .empty policy bucketCount⟩

end Table

namespace Operation

open Table LawfulSlotStorage LawfulKeyedStorage

theorem settles_read {α : Type} (h : table.Shows policy bs) (hfault : op.fault? policy = none)
    (hafter : op.after policy bs = bs) {f : Table β → Except Crash α} {a : α}
    (hread : f table = .ok a) {g : α → Reply} (hreply : g a = op.reply policy bs) :
    Settles policy bs op ((Action.read f >>= fun a => pure (g a)).run table) := by
  rw [Action.run_read_bind, hread, Action.andThen_answer_ok, Action.run_pure, hreply]
  exact .answered hfault (hafter.symm ▸ h)

theorem settles_checkKey (h : table.Shows policy bs) (op : Operation) {key : Bytes}
    (hkey : key.length ≠ policy.keySize) (hfault : op.fault? policy = some (.crash .keySize))
    (f : Unit → Action (Table β) Reply) :
    Settles policy bs op ((Action.read (checkKey · key) >>= f).run table) := by
  rw [Action.run_read_bind, h.checkKey_eq_error hkey, Action.andThen_answer_error]
  exact .faulted hfault h

theorem settles_checkValue (h : table.Shows policy bs) (op : Operation) {value : Bytes}
    (hvalue : value.length ≠ policy.valueSize)
    (hfault : op.fault? policy = some (.crash .valueSize)) (f : Unit → Action (Table β) Reply) :
    Settles policy bs op ((Action.read (checkValue · value) >>= f).run table) := by
  rw [Action.run_read_bind, h.checkValue_eq_error hvalue, Action.andThen_answer_error]
  exact .faulted hfault h

theorem ends_onStorage {α : Type} (h : table.Shows policy bs) (hfault : op.fault? policy = none)
    (hplaced : (op.after policy bs).Placed policy)
    (hlength : (op.after policy bs).length = bs.length) {act : Policy → Action β α} {answer : α}
    {log : List Event}
    (hserves : ((act policy).run table.storage).Serves answer log
      (LawfulSlotStorage.Shows · policy.keySize policy.valueSize (op.after policy bs))
      (LawfulSlotStorage.Shows · policy.keySize policy.valueSize bs)
      (¬Fits β policy.keySize policy.valueSize) (wordLimit ≤ (op.after policy bs).liveCount))
    {f : α → Action (Table β) Reply}
    (hreply : ∀ table' : Table β, table'.Shows policy (op.after policy bs) →
      ∃ log', (f answer).run table' = ⟨.ok (op.reply policy bs), table', log'⟩) :
    Ends policy bs op ((onStorage act >>= f).run table) := by
  obtain rfl := h.policy_eq
  rw [Action.run_bind, run_onStorage]
  generalize (act table.policy).run table.storage = outcome at hserves
  cases hserves with
  | @done storage hstorage =>
    have htable : Table.Shows { table with storage } table.policy (op.after table.policy bs) :=
      ⟨rfl, h.bucketCount_eq.trans hlength.symm, hstorage, hplaced⟩
    obtain ⟨log', hrun⟩ := hreply _ htable
    rw [Outcome.andThen, hrun]
    exact .answered hfault htable
  | refused hstorage => exact .refused ⟨rfl, h.bucketCount_eq, hstorage, h.placed⟩
  | oversized hsize hstorage =>
    exact .oversized hsize ⟨rfl, h.bucketCount_eq, hstorage, h.placed⟩
  | full hfull => exact .full hfault hfull

theorem settles_onStorage (h : table.Shows policy bs) (hfault : op.fault? policy = none)
    (hplaced : (op.after policy bs).Placed policy)
    (hlength : (op.after policy bs).length = bs.length) (hreply : op.reply policy bs = .done)
    {act : Policy → Action β Unit} {storage : β} {log : List Event}
    (hrun : (act policy).run table.storage = ⟨.ok (), storage, log⟩)
    (hstorage : LawfulSlotStorage.Shows storage policy.keySize policy.valueSize
      (op.after policy bs)) :
    Settles policy bs op ((onStorage act >>= fun _ => pure .done).run table) := by
  obtain rfl := h.policy_eq
  rw [Action.run_bind, run_onStorage, hrun, Outcome.andThen, Action.run_pure, ← hreply]
  exact .answered hfault ⟨rfl, h.bucketCount_eq.trans hlength.symm, hstorage, hplaced⟩

/-! ## By key -/

theorem ends_insert (h : table.Shows policy bs) (memory : Memory) (key value : Bytes) :
    Ends policy bs (.insert key value) ((perform memory (.insert key value)).run table) := by
  rw [perform, Table.insert]
  simp only [bind_assoc]
  by_cases hkey : key.length = policy.keySize
  swap
  · exact (settles_checkKey h (.insert key value) hkey (if_pos hkey) _).ends
  rw [Action.run_read_bind, h.checkKey_eq hkey, Action.andThen_answer_ok]
  by_cases hvalue : value.length = policy.valueSize
  swap
  · refine (settles_checkValue h (.insert key value) hvalue ?_ _).ends
    rw [fault?, if_neg (not_not_intro hkey), if_pos hvalue]
  rw [Action.run_read_bind, h.checkValue_eq hvalue, Action.andThen_answer_ok]
  have hfault : fault? policy (.insert key value) = none := by
    rw [fault?, if_neg (not_not_intro hkey), if_neg (not_not_intro hvalue)]
  exact ends_onStorage h hfault (h.placed.insert (length_pos h.storage) key value)
    (Buckets.length_insert bs policy key value) (run_insert h.storage hkey hvalue rfl memory)
    fun table' _ => ⟨[], rfl⟩

theorem settles_get (h : table.Shows policy bs) (memory : Memory) (key : Bytes) :
    Settles policy bs (.get key) ((perform memory (.get key)).run table) := by
  rw [perform]
  by_cases hkey : key.length = policy.keySize
  · have hfault : fault? policy (.get key) = none := if_neg (not_not_intro hkey)
    exact settles_read h hfault rfl (h.get?_eq hkey) rfl
  · have hread : table.get? key = .error .keySize := by
      rw [get?, h.checkKey_eq_error hkey]
      rfl
    rw [Action.run_bind, Action.run_read, hread]
    exact .faulted (if_pos hkey) h

theorem settles_find (h : table.Shows policy bs) (memory : Memory) (key : Bytes) :
    Settles policy bs (.find key) ((perform memory (.find key)).run table) := by
  by_cases hkey : key.length = policy.keySize
  · have hfault : fault? policy (.find key) = none := if_neg (not_not_intro hkey)
    obtain ⟨log, hrun⟩ := h.run_find? hkey
    rw [perform, Action.run_bind, hrun]
    exact .answered hfault h
  · rw [perform, find?]
    simp only [bind_assoc]
    exact settles_checkKey h (.find key) hkey (if_pos hkey) _

theorem ends_reserve (h : table.Shows policy bs) (memory : Memory) (key : Bytes) :
    Ends policy bs (.reserve key) ((perform memory (.reserve key)).run table) := by
  rw [perform, Table.reserve]
  simp only [bind_assoc]
  by_cases hkey : key.length = policy.keySize
  swap
  · exact (settles_checkKey h (.reserve key) hkey (if_pos hkey) _).ends
  rw [Action.run_read_bind, h.checkKey_eq hkey, Action.andThen_answer_ok]
  have hfault : fault? policy (.reserve key) = none := if_neg (not_not_intro hkey)
  have hpos := length_pos h.storage
  refine ends_onStorage h hfault (h.placed.reserve hpos key) (Buckets.length_reserve bs policy key)
    (run_reserve h.storage hkey rfl memory) fun table' h' => ?_
  have hlength : (after policy bs (.reserve key)).length = bs.length :=
    Buckets.length_reserve bs policy key
  have hbucket : (bs.reserve policy key).1.slot.bucket < bs.length := by
    rw [(Buckets.live?_reserve hpos policy key).1]
    exact Buckets.home_lt policy hpos key
  rw [Action.run_read_bind, Action.andThen_answer_ok, h'.bucketCount_eq, hlength, Action.run_bind,
    Handle.run_pack (length_lt h.storage) hbucket]
  exact ⟨_, rfl⟩

theorem settles_erase (h : table.Shows policy bs) (memory : Memory) (key : Bytes) :
    Settles policy bs (.erase key) ((perform memory (.erase key)).run table) := by
  rw [perform, Table.erase]
  simp only [bind_assoc]
  by_cases hkey : key.length = policy.keySize
  swap
  · exact settles_checkKey h (.erase key) hkey (if_pos hkey) _
  rw [Action.run_read_bind, h.checkKey_eq hkey, Action.andThen_answer_ok]
  have hfault : fault? policy (.erase key) = none := if_neg (not_not_intro hkey)
  obtain ⟨storage', hrun, hshows⟩ := run_erase h.storage policy key
  exact settles_onStorage h hfault (h.placed.erase key) (Buckets.length_erase bs policy key) rfl
    hrun hshows

/-! ## Through a handle -/

theorem settles_assign (h : table.Shows policy bs) (memory : Memory) (handle : Handle)
    (value : Bytes) :
    Settles policy bs (.assign handle value)
      ((perform memory (.assign handle value)).run table) := by
  rw [perform, Table.assign]
  simp only [bind_assoc]
  by_cases hvalue : value.length = policy.valueSize
  swap
  · exact settles_checkValue h (.assign handle value) hvalue (if_pos hvalue) _
  rw [Action.run_read_bind, h.checkValue_eq hvalue, Action.andThen_answer_ok]
  have hfault : fault? policy (.assign handle value) = none := if_neg (not_not_intro hvalue)
  obtain ⟨storage', hrun, hshows⟩ := run_assign h.storage hvalue (handle.slotAt bs.length)
  rw [Action.run_read_bind, slotOf_eq h, Action.andThen_answer_ok]
  exact settles_onStorage h hfault (h.placed.assign _ value) (Buckets.length_assign bs _ value)
    rfl hrun hshows

theorem settles_discard (h : table.Shows policy bs) (memory : Memory) (handle : Handle) :
    Settles policy bs (.discard handle) ((perform memory (.discard handle)).run table) := by
  rw [perform, Table.discard]
  simp only [bind_assoc]
  obtain ⟨storage', hrun, hshows⟩ := run_discard h.storage (handle.slotAt bs.length)
  rw [Action.run_read_bind, slotOf_eq h, Action.andThen_answer_ok]
  have hfault : fault? policy (.discard handle) = none := rfl
  exact settles_onStorage h hfault (h.placed.discard _) (Buckets.length_discard bs _) rfl hrun
    hshows

theorem settles_isWritten (h : table.Shows policy bs) (memory : Memory) (handle : Handle) :
    Settles policy bs (.isWritten handle) ((perform memory (.isWritten handle)).run table) :=
  settles_read h rfl rfl (h.isWritten_eq handle) rfl

theorem settles_keyOf (h : table.Shows policy bs) (memory : Memory) (handle : Handle) :
    Settles policy bs (.keyOf handle) ((perform memory (.keyOf handle)).run table) :=
  settles_read h rfl rfl (h.keyOf?_eq handle) rfl

theorem settles_valueOf (h : table.Shows policy bs) (memory : Memory) (handle : Handle) :
    Settles policy bs (.valueOf handle) ((perform memory (.valueOf handle)).run table) :=
  settles_read h rfl rfl (h.valueOf?_eq handle) rfl

/-! ## The whole table -/

theorem settles_loadFactor (h : table.Shows policy bs) (memory : Memory) :
    Settles policy bs .loadFactor ((perform memory .loadFactor).run table) := by
  have hratio : table.loadFactor =
      (Single.ofNat bs.liveCount).div (Single.ofNat bs.length) := by
    rw [Table.loadFactor, Table.size, size_eq h.storage, h.bucketCount_eq]
  refine settles_read h rfl rfl rfl ?_
  rw [hratio]
  rfl

theorem take_pairs_eq (h : table.Shows policy bs) (calls : Nat) :
    table.pairs.take calls = .ok ((List.range calls).map fun i =>
      (bs.liveRecords.filterMap SlotRecord.pair?)[i]?) := by
  have hleft : Pairs.Left bs .head (SlotStorage.extent table.storage + 1)
      (bs.pairsOf bs.liveSlots) :=
    .inr ⟨bs.liveSlots, bs.ahead_head, Nat.lt_succ_of_le (length_liveSlots_le h.storage), rfl⟩
  have hread := Pairs.take_eq h.storage hleft calls
  rwa [Buckets.pairsOf, Buckets.filterMap_liveSlots] at hread

theorem settles_pairs (h : table.Shows policy bs) (memory : Memory) (calls : Nat) :
    Settles policy bs (.pairs calls) ((perform memory (.pairs calls)).run table) :=
  settles_read h rfl rfl (take_pairs_eq h calls) rfl

theorem settles_walk (h : table.Shows policy bs) (memory : Memory) (kind : ElementKind)
    (moves : List Move) :
    Settles policy bs (.walk kind moves) ((perform memory (.walk kind moves)).run table) := by
  have hread : table.enumerator kind = .ok ⟨table.storage, kind, bs.step .head .next⟩ :=
    Enumerator.start_eq h.storage kind
  obtain ⟨log, hrun⟩ := Enumerator.run_trail h.storage kind (Buckets.standing_step bs .head .next)
    moves table
  rw [perform, Action.run_read_bind, hread, Action.andThen_answer_ok, Action.run_bind, hrun]
  exact .answered rfl h

theorem ends_rehash (h : table.Shows policy bs) (memory : Memory) (bucketCount : Nat) :
    Ends policy bs (.rehash bucketCount) ((perform memory (.rehash bucketCount)).run table) := by
  obtain rfl := h.policy_eq
  by_cases hpos : bucketCount < 1
  · have hfault : fault? table.policy (.rehash bucketCount) =
        some (.error (.invalidBucketCount bucketCount)) := if_pos hpos
    rw [perform, Table.rehash, if_pos hpos]
    exact .faulted hfault h
  have hpos := Nat.not_lt.mp hpos
  have hfault : fault? table.policy (.rehash bucketCount) = none := if_neg (Nat.not_lt.mpr hpos)
  have hrehash := LawfulStorage.run_rehash h.storage rfl rfl hpos
    (fun _ => h.placed.of_mem_liveRecords) memory
  rw [perform, Action.run_bind]
  generalize hrun : (Storage.rehash memory table.policy bucketCount).run table.storage = outcome
    at hrehash
  cases hrehash with
  | @done storage log hstorage =>
    have hcount := bucketCount_eq hstorage
    rw [Buckets.length_spread] at hcount
    obtain ⟨log', hrun'⟩ := run_rehash_of_ok hpos hrun hcount
    rw [hrun']
    exact .answered hfault ⟨rfl, (Buckets.length_spread _ _ _).symm, hstorage,
      h.placed.spread_liveRecords hpos⟩
  | refused hstorage =>
    obtain ⟨log', hrun'⟩ := run_rehash_of_error hpos hrun
    rw [hrun']
    exact .refused ⟨rfl, h.bucketCount_eq, hstorage, h.placed⟩
  | oversized hsize hstorage =>
    obtain ⟨log', hrun'⟩ := run_rehash_of_error hpos hrun
    rw [hrun']
    exact .oversized hsize ⟨rfl, h.bucketCount_eq, hstorage, h.placed⟩
  | merged hmerging hstorage =>
    obtain ⟨log', hrun'⟩ := run_rehash_of_error hpos hrun
    rw [hrun']
    exact .merged rfl hmerging ⟨rfl, h.bucketCount_eq, hstorage, h.placed⟩

/-- An operation that asks for no memory does its work, if it passes its checks. -/
theorem settles_perform (h : table.Shows policy bs) (memory : Memory)
    (hasks : op.asksMemory = false) :
    Settles policy bs op ((op.perform memory).run table) := by
  cases op with
  | get key => exact settles_get h memory key
  | find key => exact settles_find h memory key
  | erase key => exact settles_erase h memory key
  | assign handle value => exact settles_assign h memory handle value
  | discard handle => exact settles_discard h memory handle
  | isWritten handle => exact settles_isWritten h memory handle
  | keyOf handle => exact settles_keyOf h memory handle
  | valueOf handle => exact settles_valueOf h memory handle
  | size => exact settles_read h rfl rfl rfl (congrArg Reply.number (size_eq h.storage))
  | loadFactor => exact settles_loadFactor h memory
  | keys =>
    have hread : table.keys = .ok (bs.liveRecords.map SlotRecord.key) := keys_eq h.storage
    exact settles_read h rfl rfl hread rfl
  | values =>
    have hread : table.values = .ok (bs.liveRecords.map SlotRecord.value) := values_eq h.storage
    exact settles_read h rfl rfl hread rfl
  | pairs calls => exact settles_pairs h memory calls
  | walk kind moves => exact settles_walk h memory kind moves
  | insert _ _ | reserve _ | rehash _ => cases hasks

/-- On a table that shows `bs`, every operation ends in one of these ways. -/
theorem run_perform (h : table.Shows policy bs) (memory : Memory) (op : Operation) :
    Ends policy bs op ((op.perform memory).run table) := by
  cases hasks : op.asksMemory with
  | false => exact (settles_perform h memory hasks).ends
  | true =>
    cases op with
    | insert key value => exact ends_insert h memory key value
    | reserve key => exact ends_reserve h memory key
    | rehash bucketCount => exact ends_rehash h memory bucketCount
    | _ => cases hasks

/-- No operation makes more than one more live slot. -/
theorem liveCount_after_le (hpos : 0 < bs.length)
    (hfault : op.fault? policy = none) : (op.after policy bs).liveCount ≤ bs.liveCount + 1 := by
  cases op with
  | insert key value =>
    rw [after, Buckets.liveCount_insert hpos]
    split <;> omega
  | reserve key =>
    rw [after, Buckets.liveCount_reserve hpos]
    split <;> omega
  | erase key =>
    have hcount := Buckets.liveCount_erase_le bs policy key
    show (bs.erase policy key).liveCount ≤ bs.liveCount + 1
    omega
  | assign handle value =>
    have hcount := Buckets.liveCount_assign bs (handle.slotAt bs.length) value
    show (bs.assign (handle.slotAt bs.length) value).liveCount ≤ bs.liveCount + 1
    omega
  | discard handle =>
    have hcount := Buckets.liveCount_discard_le bs (handle.slotAt bs.length)
    show (bs.discard (handle.slotAt bs.length)).liveCount ≤ bs.liveCount + 1
    omega
  | rehash bucketCount =>
    have hpos' := pos_of_fault?_rehash hfault
    rw [after, Buckets.liveCount_spread_liveRecords hpos']
    omega
  | _ => exact Nat.le_succ _

end Operation

end

end ByteTable
