import ByteTable.Proofs.Buckets.Entries
import ByteTable.Proofs.Storage.Kind

/-!
# A rebuild is exact

What `KeyedStorage.rebuild` makes of a storage that operations have led to, for any new policy of
the same sizes, consistent or not (`Storage.Reachable.rebuild_exact`).  Either no stored key meets
an earlier one under the new policy, and the result holds every live slot where that policy puts it,
or some key does, and the check of the count fails.

The old storage was filled under a policy of its own, of which the result keeps nothing but the
slots' keys, values and states.  That a reserved slot has a zeroed value in the old storage is the
reason why its value need not be copied.
-/

namespace ByteTable

open LawfulSlotStorage LawfulKeyedStorage LawfulStorage

/-! ## Reachable storages -/

section

variable {β : Type} [Storage β]

/-- The storages that operations under one policy lead to, whether they answer or not.  An operation
that may make a slot starts where the counter has room for it, as it always has in an address space
of `2 ^ 64` bytes, of which every slot takes some. -/
inductive Storage.Reachable (policy : Policy) : β → Prop where
  /-- A new storage. -/
  | created {memory : Memory} {bucketCount : Nat} {storage : β} (hpos : 0 < bucketCount)
    (h : SlotStorage.create memory policy.keySize policy.valueSize bucketCount = .ok storage) :
    Reachable policy storage
  | reserve {storage : β} (h : Reachable policy storage)
    (hroom : SlotStorage.size storage + 1 < wordLimit) (memory : Memory) {key : Bytes}
    (hkey : key.length = policy.keySize) :
    Reachable policy ((SlotStorage.reserve memory policy key).run storage).state
  | insert {storage : β} (h : Reachable policy storage)
    (hroom : SlotStorage.size storage + 1 < wordLimit) (memory : Memory) {key value : Bytes}
    (hkey : key.length = policy.keySize) (hvalue : value.length = policy.valueSize) :
    Reachable policy ((KeyedStorage.insert memory policy key value).run storage).state
  | erase {storage : β} (h : Reachable policy storage) (key : Bytes) :
    Reachable policy ((KeyedStorage.erase policy key).run storage).state
  | assign {storage : β} (h : Reachable policy storage) (slot : Slot) {value : Bytes}
    (hvalue : value.length = policy.valueSize) :
    Reachable policy ((SlotStorage.assign slot value).run storage).state
  | discard {storage : β} (h : Reachable policy storage) (slot : Slot) :
    Reachable policy ((SlotStorage.discard slot).run storage).state
  | rehash {storage : β} (h : Reachable policy storage) (memory : Memory) {bucketCount : Nat}
    (hpos : 0 < bucketCount) :
    Reachable policy ((Storage.rehash memory policy bucketCount).run storage).state

variable [LawfulStorage β] {policy : Policy} {storage : β}

/-- Whether a storage shows buckets that the operations under a policy can have made. -/
structure Storage.Keeps (policy : Policy) (bs : Buckets) (storage : β) : Prop where
  shows : Shows storage policy.keySize policy.valueSize bs
  placed : bs.Placed policy
  distinct : policy.Consistent → bs.Distinct policy

theorem Outcome.Serves.exists_keeps {bs bs' : Buckets} (h : Storage.Keeps policy bs storage)
    {found : Bool} (hroom : SlotStorage.size storage + 1 < wordLimit)
    (hcount : bs'.liveCount = bs.liveCount + if found then 0 else 1) (hplaced : bs'.Placed policy)
    (hdistinct : policy.Consistent → bs'.Distinct policy) {α : Type} {answer : α}
    {log : List Event} {outcome : Outcome β α}
    (houtcome : outcome.Serves answer log (Shows · policy.keySize policy.valueSize bs')
      (Shows · policy.keySize policy.valueSize bs) (¬Fits β policy.keySize policy.valueSize)
      (wordLimit ≤ bs'.liveCount)) :
    ∃ bs'', Storage.Keeps policy bs'' outcome.state := by
  cases houtcome with
  | done hshows => exact ⟨bs', hshows, hplaced, hdistinct⟩
  | refused hshows => exact ⟨bs, hshows, h.placed, h.distinct⟩
  | oversized _ hshows => exact ⟨bs, hshows, h.placed, h.distinct⟩
  | full hfull =>
    rw [size_eq h.shows] at hroom
    split at hcount <;> omega

/-- A rehash, whether it answers or not, changes neither which records are live nor how many. -/
theorem Storage.Keeps.exists_keeps_rehash {bs : Buckets} (h : Storage.Keeps policy bs storage)
    (memory : Memory) {bucketCount : Nat} (hpos : 0 < bucketCount) :
    ∃ bs', Storage.Keeps policy bs' ((Storage.rehash memory policy bucketCount).run storage).state ∧
      bs'.liveRecords.Perm bs.liveRecords := by
  have hrehash := run_rehash h.shows rfl rfl hpos (fun _ => h.placed.of_mem_liveRecords) memory
  generalize (Storage.rehash memory policy bucketCount).run storage = outcome at hrehash ⊢
  cases hrehash with
  | done hshows =>
    refine ⟨_, ⟨hshows, h.placed.spread_liveRecords hpos, fun hconsistent => ?_⟩,
      Buckets.liveRecords_spread policy hpos bs⟩
    exact (h.distinct hconsistent).spread_liveRecords hconsistent (sized h.shows) hpos
  | refused hshows => exact ⟨bs, ⟨hshows, h.placed, h.distinct⟩, .refl _⟩
  | oversized _ hshows => exact ⟨bs, ⟨hshows, h.placed, h.distinct⟩, .refl _⟩
  | merged _ hshows => exact ⟨bs, ⟨hshows, h.placed, h.distinct⟩, .refl _⟩

theorem Storage.Reachable.exists_keeps (h : Storage.Reachable policy storage) :
    ∃ bs, Storage.Keeps policy bs storage := by
  induction h with
  | created _ h =>
    exact ⟨_, create_eq_ok h, .empty policy _, fun _ => .empty policy _⟩
  | reserve _ hroom memory hkey ih =>
    obtain ⟨bs, h⟩ := ih
    have hpos := length_pos h.shows
    exact (run_reserve h.shows hkey rfl memory).exists_keeps h hroom
      (Buckets.liveCount_reserve hpos policy _) (h.placed.reserve hpos _)
      fun hconsistent =>
        (h.distinct hconsistent).reserve hconsistent h.placed (sized h.shows) hpos hkey
  | insert _ hroom memory hkey hvalue ih =>
    obtain ⟨bs, h⟩ := ih
    have hpos := length_pos h.shows
    exact (run_insert h.shows hkey hvalue rfl memory).exists_keeps h hroom
      (Buckets.liveCount_insert hpos policy _ _) (h.placed.insert hpos _ _)
      fun hconsistent => (h.distinct hconsistent).insert hconsistent h.placed (sized h.shows) hpos
        hkey _
  | erase _ key ih =>
    obtain ⟨bs, h⟩ := ih
    obtain ⟨storage', hrun, hshows⟩ := run_erase h.shows policy key
    rw [hrun]
    exact ⟨_, hshows, h.placed.erase key, fun hconsistent => (h.distinct hconsistent).erase key⟩
  | assign _ slot hvalue ih =>
    obtain ⟨bs, h⟩ := ih
    obtain ⟨storage', hrun, hshows⟩ := run_assign h.shows hvalue slot
    rw [hrun]
    exact ⟨_, hshows, h.placed.assign slot _,
      fun hconsistent => (h.distinct hconsistent).assign slot _⟩
  | discard _ slot ih =>
    obtain ⟨bs, h⟩ := ih
    obtain ⟨storage', hrun, hshows⟩ := run_discard h.shows slot
    rw [hrun]
    exact ⟨_, hshows, h.placed.discard slot,
      fun hconsistent => (h.distinct hconsistent).discard slot⟩
  | rehash _ memory hpos ih =>
    obtain ⟨bs, h⟩ := ih
    obtain ⟨bs', h', -⟩ := h.exists_keeps_rehash memory hpos
    exact ⟨bs', h'⟩

end

/-! ## What a rebuild gives -/

/-- The record under the word that a policy gives its key, in the state that it has. -/
def SlotRecord.relabelled (policy : Policy) (record : SlotRecord) : SlotRecord :=
  let word := SlotWord.live (policy.hash record.key)
  { record with word := if record.isWritten then word.markWritten else word }

/-- Renewing a record under another policy changes its word only. -/
theorem SlotRecord.renewed_eq_relabelled {policy policy' : Policy} {record : SlotRecord}
    (hvalueSize : policy'.valueSize = policy.valueSize) (h : record.renewed policy = record) :
    record.renewed policy' = record.relabelled policy' := by
  rw [renewed, relabelled]
  by_cases hwritten : record.isWritten
  · rw [if_pos hwritten, if_pos hwritten]
    rfl
  · have hvalue := congrArg SlotRecord.value h
    rw [renewed, if_neg hwritten] at hvalue
    rw [if_neg hwritten, if_neg hwritten, ← hvalue, reserved, reserved, hvalueSize]

/-- Whether a storage holds exactly these live slots, each where the policy puts it. -/
structure StorageKind.Exact {kind : StorageKind} (policy : Policy) (bucketCount : Nat)
    (live : List SlotRecord) (storage : kind.Store) : Prop where
  bucketCount_eq : SlotStorage.bucketCount storage = bucketCount
  size_eq : SlotStorage.size storage = live.length
  /-- In each bucket are those whose keys belong to it, in the order in which they were. -/
  contents_eq : kind.contents storage = .ok ((List.range bucketCount).map fun bucket =>
    (live.filter fun record => (policy.hash record.key).toNat % bucketCount == bucket).map
      (.relabelled policy))
  isTombstone_eq_false {buckets : Buckets} {record : SlotRecord} :
    kind.contents storage = .ok buckets → record ∈ buckets.flatten →
    record.word.isTombstone = false

theorem StorageKind.exact_of_shows {kind : StorageKind} {policy policy' : Policy} {bs : Buckets}
    {bucketCount : Nat} (hplaced : bs.Placed policy)
    (hvalueSize : policy'.valueSize = policy.valueSize) (hpos : 0 < bucketCount)
    {storage : kind.Store} {keySize valueSize : Nat}
    (h : Shows storage keySize valueSize
      (Buckets.spread policy' bucketCount (bs.liveRecords.map (.renewed policy')))) :
    kind.Exact policy' bucketCount bs.liveRecords storage := by
  have hcontents := contents_eq h
  refine ⟨?_, ?_, ?_, fun {buckets record} hbuckets hrecord => ?_⟩
  · rw [LawfulSlotStorage.bucketCount_eq h, Buckets.length_spread]
  · rw [LawfulSlotStorage.size_eq h, Buckets.liveCount_spread_renewed hpos]
  · rw [hcontents, List.map_congr_left fun record hrecord =>
      SlotRecord.renewed_eq_relabelled hvalueSize (hplaced.of_mem_liveRecords hrecord)]
    simp only [Buckets.spread, Buckets.home, List.filter_map]
    rfl
  · rw [hcontents, Except.ok.injEq] at hbuckets
    obtain ⟨slot, hslot⟩ := Grid.mem_flatten_iff.mp (hbuckets ▸ hrecord)
    obtain ⟨before, -, rfl⟩ := List.mem_map.mp (Buckets.mem_of_at?_spread hpos hslot).1
    have hlive := SlotRecord.isLive_renewed policy' before
    rwa [SlotRecord.isLive, Bool.not_eq_true'] at hlive

/-- A rebuild under any policy that is granted memory either fails its check, because some stored
key meets an earlier one, or gives exactly the live slots.  It cannot fail when the old storage was
filled under a consistent policy and the new one takes no more keys for the same. -/
theorem Storage.Reachable.rebuild_exact {kind : StorageKind} {policy policy' : Policy}
    {old : kind.Store} (h : Storage.Reachable policy old)
    (hkeySize : policy'.keySize = policy.keySize)
    (hvalueSize : policy'.valueSize = policy.valueSize) {bucketCount : Nat}
    (hpos : 0 < bucketCount) {memory : Memory} {σ : Type} {s : σ} {outcome : Outcome σ kind.Store}
    (hrun : (KeyedStorage.rebuild memory old policy' bucketCount).run s = outcome)
    (hmemory : outcome.answer ≠ .error (.error .allocation)) :
    ∃ buckets : Buckets, kind.contents old = .ok buckets ∧
      SlotStorage.enumerate old .key = .ok (buckets.liveRecords.map SlotRecord.key) ∧
      SlotStorage.enumerate old .value = .ok (buckets.liveRecords.map SlotRecord.value) ∧
      SlotStorage.size old = buckets.liveRecords.length ∧
      ((∃ fresh, outcome.answer = .ok fresh ∧
          kind.Exact policy' bucketCount buckets.liveRecords fresh) ∨
        outcome.answer = .error (.crash .liveCountChanged)) ∧
      (outcome.answer = .error (.crash .liveCountChanged) ↔
        ∃ (i j : Nat) (earlier later : Bytes), i < j ∧
          (buckets.liveRecords.map SlotRecord.key)[i]? = some earlier ∧
          (buckets.liveRecords.map SlotRecord.key)[j]? = some later ∧
          policy'.Meets bucketCount later earlier) ∧
      (policy.Consistent → (∀ a b, policy'.keysEqual a b = true → policy.keysEqual a b = true) →
        ∃ fresh, outcome.answer = .ok fresh) := by
  obtain ⟨bs, hkeeps⟩ := h.exists_keeps
  have hrebuilt := KeyedStorage.run_rebuild hkeeps.shows hkeySize hvalueSize hpos memory s
  rw [hrun] at hrebuilt
  refine ⟨bs, StorageKind.contents_eq hkeeps.shows, SlotStorage.enumerate_eq hkeeps.shows .key,
    SlotStorage.enumerate_eq hkeeps.shows .value, ?_, ?_⟩
  · rw [size_eq hkeeps.shows, Buckets.liveCount_eq_length]
  rw [← Buckets.not_apart_iff]
  cases hrebuilt with
  | @done fresh hapart hshows =>
    have hexact := StorageKind.exact_of_shows hkeeps.placed hvalueSize hpos hshows
    refine ⟨.inl ⟨fresh, rfl, hexact⟩, ⟨fun hanswer => ?_, fun hmeets => ?_⟩,
      fun _ _ => ⟨fresh, rfl⟩⟩
    · cases hanswer
    · exact absurd hapart hmeets
  | merged hmeets =>
    refine ⟨.inr rfl, ⟨fun _ => hmeets, fun _ => rfl⟩, fun hconsistent hfiner => ?_⟩
    exact absurd ((hkeeps.distinct hconsistent).apart_of_imp hfiner bucketCount) hmeets
  | refused => exact absurd rfl hmemory

/-- A reserved and a written key, rebuilt under a comparator that is not symmetric. -/
theorem Storage.rebuild_exact_of_two_keys :
    ∃ (old : StorageKind.Store (.bare .fullySeparated)) (buckets : Buckets)
      (fresh : StorageKind.Store (.bare .fullySeparated)),
      Storage.Reachable (.standard 1 1) old ∧
        SlotStorage.enumerate old .key = .ok (buckets.liveRecords.map SlotRecord.key) ∧
        StorageKind.Exact ⟨1, 1, .structural, .custom fun later _ => later == [1]⟩ 1
          buckets.liveRecords fresh := by
  have hone : List.length ([1] : Bytes) = (Policy.standard 1 1).keySize := rfl
  have htwo : List.length ([2] : Bytes) = (Policy.standard 1 1).keySize := rfl
  have hnine : List.length ([9] : Bytes) = (Policy.standard 1 1).valueSize := rfl
  have hcreate : (SlotStorage.create Memory.full 1 1 2 :
      Except TableError (StorageKind.Store (.bare .fullySeparated))) = .ok _ := rfl
  have hnew : Storage.Reachable (.standard 1 1) _ := .created (by decide) hcreate
  have hreserved := hnew.reserve (by decide +kernel) Memory.full hone
  have hold := hreserved.insert (by decide +kernel) Memory.full htwo hnine
  obtain ⟨old, outcome, hold, hrun, hok⟩ :
      ∃ (old : StorageKind.Store (.bare .fullySeparated)) (outcome : Outcome Unit _),
        Storage.Reachable (.standard 1 1) old ∧
        (KeyedStorage.rebuild Memory.full old
          ⟨1, 1, .structural, .custom fun later _ => later == [1]⟩ 1).run () = outcome ∧
        outcome.answer.isOk :=
    ⟨_, _, hold, rfl, by decide +kernel⟩
  obtain ⟨buckets, -, hkeys, -, -, hends, -, -⟩ :=
    hold.rebuild_exact (by rfl) (by rfl) Nat.zero_lt_one hrun
      (fun hanswer => by rw [hanswer] at hok; cases hok)
  cases hends with
  | inl hdone =>
    obtain ⟨fresh, -, hexact⟩ := hdone
    exact ⟨old, buckets, fresh, hold, hkeys, hexact⟩
  | inr hmerged =>
    rw [hmerged] at hok
    cases hok

end ByteTable
