import ByteTable.Proofs.Storage.InStep
import ByteTable.Proofs.Table.Run

/-!
# Tables over bare chains

A table over chains and one over the same chains stripped to the operations by slot, performing the
same operations with the same memory.  Neither can be told from the other: they give the same
answers, promised errors included, and hold the same chains after every step.

The relation between the two tables is an equation, `table' = table.bare`, and `agrees_perform` is
its one step: reads see the same, operations by slot are forwarded, and for operations by key and
for `rehash` the chains are kept in step with their defaults.  For `rehash` the keys have to be
apart, since a rebuild compares keys and a move of records does not.  `Table.history_bare` lifts the
step to a run.
-/

namespace ByteTable

namespace Table

variable {β α : Type}

/-- A table with its storage stripped to the operations by slot. -/
def bare (table : Table β) : Table (Bare β) :=
  ⟨table.policy, table.bucketCount, ⟨table.storage⟩⟩

/-- Whether the second table is the first one stripped. -/
structure IsBare (table : Table β) (table' : Table (Bare β)) : Prop where
  eq_bare : table' = table.bare

theorem isBare_bare (table : Table β) : IsBare table table.bare :=
  ⟨rfl⟩

variable {table : Table β}

theorem agrees_read_bind {f : Table β → Except Crash α} {f' : Table (Bare β) → Except Crash α}
    (hsame : f' table.bare = f table) {g : α → Action (Table β) Reply}
    {g' : α → Action (Table (Bare β)) Reply}
    (hg : ∀ a, ((g a).run table).Agrees IsBare IsBare ((g' a).run table.bare)) :
    ((Action.read f >>= g).run table).Agrees IsBare IsBare
      ((Action.read f' >>= g').run table.bare) :=
  Action.agrees_read_bind hsame (isBare_bare table) fun a _ => hg a

theorem agrees_checkKey (key : Bytes) {g : Unit → Action (Table β) Reply}
    {g' : Unit → Action (Table (Bare β)) Reply}
    (hg : key.length = table.policy.keySize →
      ((g ()).run table).Agrees IsBare IsBare ((g' ()).run table.bare)) :
    ((Action.read (checkKey · key) >>= g).run table).Agrees IsBare IsBare
      ((Action.read (checkKey · key) >>= g').run table.bare) := by
  have hsame : table.bare.checkKey key = table.checkKey key := rfl
  rw [Action.run_read_bind, Action.run_read_bind, hsame, checkKey]
  by_cases hkey : key.length = table.policy.keySize
  · rw [if_pos hkey]
    exact hg hkey
  · rw [if_neg hkey]
    exact .failed (isBare_bare table)

theorem agrees_onStorage {act : Policy → Action β α} {act' : Policy → Action (Bare β) α}
    (h : ((act table.policy).run table.storage).Agrees Bare.Wraps Bare.Wraps
      ((act' table.policy).run ⟨table.storage⟩)) :
    ((onStorage act).run table).Agrees IsBare IsBare ((onStorage act').run table.bare) := by
  have hbare : table.bare.policy = table.policy := rfl
  have hstorage : table.bare.storage = ⟨table.storage⟩ := rfl
  rw [run_onStorage, run_onStorage, hbare, hstorage]
  generalize (act table.policy).run table.storage = outcome at h
  generalize (act' table.policy).run ⟨table.storage⟩ = outcome' at h
  cases h with
  | answered hwraps => exact .answered ⟨hwraps ▸ rfl⟩
  | failed hwraps => exact .failed ⟨hwraps ▸ rfl⟩

end Table

/-! ## One operation -/

namespace Operation

open Table (IsBare)

section

variable {kind : LayoutKind} {table : Table (Chains kind.Store)} {policy : Policy} {bs : Buckets}

theorem agrees_read {α : Type} {f : Table (Chains kind.Store) → Except Crash α}
    {f' : Table (Bare (Chains kind.Store)) → Except Crash α} (hsame : f' table.bare = f table)
    (g : α → Reply) :
    ((Action.read f >>= fun a => pure (g a)).run table).Agrees IsBare IsBare
      ((Action.read f' >>= fun a => pure (g a)).run table.bare) :=
  Table.agrees_read_bind hsame fun _ => .answered ⟨rfl⟩

variable (h : table.Shows policy bs)
include h

theorem Shows.bare : table.bare.Shows policy bs :=
  ⟨h.policy_eq, h.bucketCount_eq, h.storage, h.placed⟩

theorem agrees_insert (memory : Memory) (key value : Bytes) :
    ((perform memory (.insert key value)).run table).Agrees IsBare IsBare
      ((perform memory (.insert key value)).run table.bare) := by
  have hchains : table.storage.Shows policy.keySize policy.valueSize bs := h.storage
  obtain rfl := h.policy_eq
  rw [perform, perform, Table.insert, Table.insert]
  simp only [bind_assoc]
  refine Table.agrees_checkKey key fun hkey => ?_
  refine Table.agrees_read_bind rfl fun _ => ?_
  rw [Action.run_bind, Action.run_bind]
  refine (Table.agrees_onStorage ?_).andThen fun _ _ _ hafter => .answered hafter
  exact hchains.agrees_insert hkey rfl memory value

theorem agrees_get (memory : Memory) (key : Bytes) :
    ((perform memory (.get key)).run table).Agrees IsBare IsBare
      ((perform memory (.get key)).run table.bare) := by
  have hget : KeyedStorage.get? table.bare.storage table.bare.policy key =
      KeyedStorage.get? table.storage table.policy key :=
    (LawfulKeyedStorage.get?_eq (Shows.bare h).storage _ key).trans
      (LawfulKeyedStorage.get?_eq h.storage _ key).symm
  refine agrees_read ?_ _
  rw [Table.get?, Table.get?, hget]
  rfl

omit h in
theorem agrees_find (memory : Memory) (key : Bytes) :
    ((perform memory (.find key)).run table).Agrees IsBare IsBare
      ((perform memory (.find key)).run table.bare) := by
  rw [perform, perform, Table.find?, Table.find?]
  simp only [bind_assoc]
  refine Table.agrees_read_bind rfl fun _ => ?_
  refine Table.agrees_read_bind rfl fun slot? => ?_
  rcases slot? with _ | slot
  · exact .answered ⟨rfl⟩
  · simp only [bind_assoc]
    refine Table.agrees_read_bind rfl fun bucketCount => ?_
    rw [Action.run_bind, Action.run_bind]
    exact (Handle.agrees_pack (Table.isBare_bare table) bucketCount slot).andThen
      fun _ _ _ hafter => .answered hafter

omit h in
theorem agrees_reserve (memory : Memory) (key : Bytes) :
    ((perform memory (.reserve key)).run table).Agrees IsBare IsBare
      ((perform memory (.reserve key)).run table.bare) := by
  rw [perform, perform, Table.reserve, Table.reserve]
  simp only [bind_assoc]
  refine Table.agrees_read_bind rfl fun _ => ?_
  rw [Action.run_bind, Action.run_bind]
  refine (Table.agrees_onStorage (Bare.agrees_onInner _ _)).andThen ?_
  rintro reservation after _ ⟨rfl⟩
  refine Table.agrees_read_bind rfl fun bucketCount => ?_
  rw [Action.run_bind, Action.run_bind]
  refine (Handle.agrees_pack (Table.isBare_bare after) bucketCount reservation.slot).andThen ?_
  exact fun _ _ _ hafter => .answered hafter

theorem agrees_erase (memory : Memory) (key : Bytes) :
    ((perform memory (.erase key)).run table).Agrees IsBare IsBare
      ((perform memory (.erase key)).run table.bare) := by
  have hchains : table.storage.Shows policy.keySize policy.valueSize bs := h.storage
  rw [perform, perform, Table.erase, Table.erase]
  simp only [bind_assoc]
  refine Table.agrees_read_bind rfl fun _ => ?_
  rw [Action.run_bind, Action.run_bind]
  refine (Table.agrees_onStorage ?_).andThen fun _ _ _ hafter => .answered hafter
  exact hchains.agrees_erase table.policy key

omit h in
theorem agrees_assign (memory : Memory) (handle : Handle) (value : Bytes) :
    ((perform memory (.assign handle value)).run table).Agrees IsBare IsBare
      ((perform memory (.assign handle value)).run table.bare) := by
  rw [perform, perform, Table.assign, Table.assign]
  simp only [bind_assoc]
  refine Table.agrees_read_bind rfl fun _ => ?_
  refine Table.agrees_read_bind rfl fun slot => ?_
  rw [Action.run_bind, Action.run_bind]
  exact (Table.agrees_onStorage (Bare.agrees_onInner _ _)).andThen
    fun _ _ _ hafter => .answered hafter

omit h in
theorem agrees_discard (memory : Memory) (handle : Handle) :
    ((perform memory (.discard handle)).run table).Agrees IsBare IsBare
      ((perform memory (.discard handle)).run table.bare) := by
  rw [perform, perform, Table.discard, Table.discard]
  simp only [bind_assoc]
  refine Table.agrees_read_bind rfl fun slot => ?_
  rw [Action.run_bind, Action.run_bind]
  exact (Table.agrees_onStorage (Bare.agrees_onInner _ _)).andThen
    fun _ _ _ hafter => .answered hafter

theorem agrees_walk (memory : Memory) (element : ElementKind) (moves : List Move) :
    ((perform memory (.walk element moves)).run table).Agrees IsBare IsBare
      ((perform memory (.walk element moves)).run table.bare) := by
  have hstart : table.enumerator element = .ok ⟨table.storage, element, bs.step .head .next⟩ :=
    Enumerator.start_eq h.storage element
  have hstart' : table.bare.enumerator element =
      .ok ⟨table.bare.storage, element, bs.step .head .next⟩ :=
    Enumerator.start_eq (Shows.bare h).storage element
  obtain ⟨log, hrun⟩ := Enumerator.run_trail h.storage element
    (Buckets.standing_step bs .head .next) moves table
  obtain ⟨log', hrun'⟩ := Enumerator.run_trail (Shows.bare h).storage element
    (Buckets.standing_step bs .head .next) moves table.bare
  rw [perform, perform, Action.run_read_bind, Action.run_read_bind, hstart, hstart',
    Action.andThen_answer_ok, Action.andThen_answer_ok, Action.run_bind, Action.run_bind, hrun,
    hrun']
  exact .answered ⟨rfl⟩

theorem agrees_rehash (hfits : 8 + policy.keySize + policy.valueSize < wordLimit)
    {bucketCount : Nat}
    (hapart : Buckets.Apart policy bucketCount (bs.liveRecords.map SlotRecord.key))
    (memory : Memory) :
    ((perform memory (.rehash bucketCount)).run table).Agrees IsBare IsBare
      ((perform memory (.rehash bucketCount)).run table.bare) := by
  have hchains : table.storage.Shows policy.keySize policy.valueSize bs := h.storage
  obtain rfl := h.policy_eq
  rw [perform, perform, Table.rehash, Table.rehash]
  by_cases hpos : bucketCount < 1
  · rw [if_pos hpos, if_pos hpos]
    exact .failed ⟨rfl⟩
  rw [if_neg hpos, if_neg hpos]
  simp only [bind_assoc]
  refine Table.agrees_read_bind rfl fun old => ?_
  refine Table.agrees_read_bind rfl fun live => ?_
  rw [Action.run_bind, Action.run_bind, Action.run_note, Action.run_note, Outcome.andThen,
    Outcome.andThen]
  refine Outcome.Agrees.log ?_ _ _
  rw [Action.run_bind, Action.run_bind]
  refine (Table.agrees_onStorage ?_).andThen ?_
  · exact LayoutKind.agrees_rehash hchains hfits (Nat.not_lt.mp hpos) rfl rfl
      (fun _ => h.placed.of_mem_liveRecords) hapart memory
  · rintro _ after _ ⟨rfl⟩
    rw [Action.run_bind, Action.run_bind, Action.run_modify, Action.run_modify]
    refine Outcome.Agrees.andThen (.answered (Table.isBare_bare { after with bucketCount })) ?_
    rintro _ last _ ⟨rfl⟩
    exact agrees_read rfl _

/-- On a table that shows `bs`, every operation does the same to the stripped table. -/
theorem agrees_perform (hfits : 8 + policy.keySize + policy.valueSize < wordLimit) (op : Operation)
    (hapart : ∀ bucketCount, op = .rehash bucketCount →
      Buckets.Apart policy bucketCount (bs.liveRecords.map SlotRecord.key)) (memory : Memory) :
    ((op.perform memory).run table).Agrees IsBare IsBare ((op.perform memory).run table.bare) := by
  have hbare := Shows.bare h
  cases op with
  | insert key value => exact agrees_insert h memory key value
  | get key => exact agrees_get h memory key
  | find key => exact agrees_find memory key
  | reserve key => exact agrees_reserve memory key
  | erase key => exact agrees_erase h memory key
  | assign handle value => exact agrees_assign memory handle value
  | discard handle => exact agrees_discard memory handle
  | isWritten handle => exact agrees_read rfl _
  | keyOf handle => exact agrees_read rfl _
  | valueOf handle => exact agrees_read rfl _
  | size => exact agrees_read rfl _
  | loadFactor => exact agrees_read rfl _
  | keys =>
    exact agrees_read ((LawfulKeyedStorage.keys_eq hbare.storage).trans
      (LawfulKeyedStorage.keys_eq h.storage).symm) _
  | values =>
    exact agrees_read ((LawfulKeyedStorage.values_eq hbare.storage).trans
      (LawfulKeyedStorage.values_eq h.storage).symm) _
  | pairs calls =>
    exact agrees_read ((take_pairs_eq hbare calls).trans (take_pairs_eq h calls).symm) _
  | walk element moves => exact agrees_walk h memory element moves
  | rehash bucketCount => exact agrees_rehash h hfits (hapart bucketCount rfl) memory

omit h in
/-- Unless the counter of live slots overflows, an operation leaves a table of which the same is
known as before. -/
theorem Ends.exists_shows_distinct {op : Operation}
    {outcome : Outcome (Table (Chains kind.Store)) Reply}
    (h : op.Ends policy bs outcome) (hshows : table.Shows policy bs)
    (hdistinct : policy.Consistent → bs.Distinct policy)
    (hcounter : outcome.answer ≠ .error (.crash .overflow)) :
    ∃ bs', outcome.state.Shows policy bs' ∧ (policy.Consistent → bs'.Distinct policy) := by
  cases h with
  | answered hfault h =>
    refine ⟨_, h, fun hconsistent => ?_⟩
    have hsettle : (op.settle policy bs).2.Distinct policy :=
      distinct_settle hconsistent hshows.placed (LawfulSlotStorage.sized hshows.storage)
        (LawfulSlotStorage.length_pos hshows.storage) (hdistinct hconsistent)
    rwa [settle_of_eq_none hfault] at hsettle
  | faulted _ h => exact ⟨bs, h, hdistinct⟩
  | refused h => exact ⟨bs, h, hdistinct⟩
  | oversized _ _ => exact absurd rfl hcounter
  | full _ _ => exact absurd rfl hcounter
  | merged _ _ h => exact ⟨bs, h, hdistinct⟩

end

end Operation

/-! ## Runs -/

/-- What a step of a table and the same step of the stripped table have in common. -/
structure Outcome.MatchesBare {kind : LayoutKind}
    (outcome : Outcome (Table (Chains kind.Store)) Reply)
    (outcome' : Outcome (Table (Bare (Chains kind.Store))) Reply) : Prop where
  answer_eq : outcome'.answer = outcome.answer
  /-- The tables hold the same chains, and so the same slots. -/
  state_eq : outcome'.state = outcome.state.bare
  contents_eq : outcome'.state.storage.inner.contents = outcome.state.storage.contents
  /-- Which slots these are can be read, as long as they could be counted. -/
  exists_contents : outcome.answer ≠ .error (.crash .overflow) →
    ∃ buckets, outcome.state.storage.contents = .ok buckets

namespace Table

section

variable {kind : LayoutKind} {policy : Policy} {table : Table (Chains kind.Store)} {bs : Buckets}

theorem Shows.matchesBare (h : table.Shows policy bs)
    (hfits : 8 + policy.keySize + policy.valueSize < wordLimit)
    (hdistinct : policy.Consistent → bs.Distinct policy) (op : Operation)
    (hrehash : ∀ bucketCount, op = .rehash bucketCount → policy.Consistent) (memory : Memory) :
    ((op.perform memory).run table).MatchesBare ((op.perform memory).run table.bare) := by
  have hagrees := Operation.agrees_perform h hfits op (fun bucketCount hop =>
    (hdistinct (hrehash bucketCount hop)).apart_of_imp (fun _ _ => id) bucketCount) memory
  have hstate := hagrees.state.eq_bare
  refine ⟨hagrees.answer_eq, hstate, ?_, fun hcounter => ?_⟩
  · rw [hstate]
    rfl
  · obtain ⟨bs', hshows, -⟩ :=
      (op.run_perform h memory).exists_shows_distinct h hdistinct hcounter
    exact ⟨bs', hshows.contents_eq⟩

theorem Shows.forall₂_history (h : table.Shows policy bs)
    (hfits : 8 + policy.keySize + policy.valueSize < wordLimit)
    (hdistinct : policy.Consistent → bs.Distinct policy) {run : List (Memory × Operation)}
    (hrehash : ∀ bucketCount, .rehash bucketCount ∈ run.map Prod.snd → policy.Consistent)
    (hcounter : ∀ outcome ∈ (table.history run).dropLast,
      outcome.answer ≠ .error (.crash .overflow)) :
    List.Forall₂ Outcome.MatchesBare (table.history run) (table.bare.history run) := by
  induction run generalizing table bs with
  | nil => exact .nil
  | cons step run ih =>
    obtain ⟨memory, op⟩ := step
    rw [List.map_cons] at hrehash
    have hstep := h.matchesBare hfits hdistinct op
      (fun bucketCount hop => hrehash bucketCount (hop ▸ List.mem_cons_self)) memory
    have hends := op.run_perform h memory
    rw [history] at hcounter ⊢
    rw [history, hstep.state_eq]
    refine .cons hstep ?_
    -- A table that is used once more has not run out of numbers for its slots.
    rcases run with _ | ⟨next, run⟩
    · exact .nil
    · have hmore : ((op.perform memory).run table).state.history (next :: run) ≠ [] :=
        List.cons_ne_nil _ _
      rw [List.dropLast_cons_of_ne_nil hmore] at hcounter
      obtain ⟨bs', hshows, hdistinct'⟩ :=
        hends.exists_shows_distinct h hdistinct (hcounter _ List.mem_cons_self)
      exact ih hshows hdistinct'
        (fun bucketCount hop => hrehash bucketCount (List.mem_cons_of_mem op hop))
        fun outcome houtcome => hcounter outcome (List.mem_cons_of_mem _ houtcome)

end

variable {kind : LayoutKind} {policy : Policy}

/-- A new stripped table is a new table, stripped. -/
theorem run_create_bare {β σ : Type} [Storage β] (memory : Memory) (policy : Policy)
    (bucketCount : Nat) (s : σ) :
    (create memory policy bucketCount : Action σ (Table (Bare β))).run s =
      ⟨((create memory policy bucketCount : Action σ (Table β)).run s).answer.map bare, s,
        ((create memory policy bucketCount : Action σ (Table β)).run s).log⟩ := by
  rw [create, create]
  by_cases hpos : bucketCount < 1
  · rw [if_pos hpos, if_pos hpos]
    rfl
  · rw [if_neg hpos, if_neg hpos, Bare.create_eq]
    rcases (SlotStorage.create memory policy.keySize policy.valueSize bucketCount :
      Except TableError β) with cause | storage
    · rfl
    · rfl

/-- A new table, and what it does in a run: by its own operations and by the defaults alike.  The
defaults rehash by comparing keys, for which the policy has to be consistent.  A run may end, but
not go on, with more live slots than a machine word can count. -/
theorem history_bare (hfits : 8 + policy.keySize + policy.valueSize < wordLimit) {memory : Memory}
    {bucketCount : Nat} {table : Table (Chains kind.Store)} {log : List Event}
    (hcreate : (create memory policy bucketCount : Action Unit (Table (Chains kind.Store))).run () =
      ⟨.ok table, (), log⟩)
    {run : List (Memory × Operation)}
    (hrehash : ∀ bucketCount, .rehash bucketCount ∈ run.map Prod.snd → policy.Consistent)
    (hcounter : ∀ outcome ∈ (table.history run).dropLast,
      outcome.answer ≠ .error (.crash .overflow)) :
    (create memory policy bucketCount : Action Unit (Table (Bare (Chains kind.Store)))).run () =
        ⟨.ok table.bare, (), log⟩ ∧
      List.Forall₂ Outcome.MatchesBare (table.history run) (table.bare.history run) := by
  refine ⟨?_, ?_⟩
  · rw [run_create_bare, hcreate]
    rfl
  · exact (shows_of_run_create hcreate).forall₂_history hfits (fun _ => .empty policy bucketCount)
      hrehash hcounter

/-- One bucket, a key that is refused memory for its slot, and a move of what is there to three
buckets. -/
theorem history_bare_of_five_steps :
    ∃ table : Table (Chains LayoutKind.interleaved.Store),
      (create Memory.full (.standard 1 1) 1 : Action Unit _).run () = ⟨.ok table, (), []⟩ ∧
      ((table.history [(.full, .insert [1] [10]), (⟨fun _ => 12, fun _ => by decide⟩, .reserve [2]),
          (.full, .reserve [2]), (.full, .rehash 3), (.full, .keys)]).map Outcome.answer)[1]? =
        some (.error (.error .allocation)) ∧
      List.Forall₂ Outcome.MatchesBare
        (table.history [(.full, .insert [1] [10]),
          (⟨fun _ => 12, fun _ => by decide⟩, .reserve [2]), (.full, .reserve [2]),
          (.full, .rehash 3), (.full, .keys)])
        (table.bare.history [(.full, .insert [1] [10]),
          (⟨fun _ => 12, fun _ => by decide⟩, .reserve [2]), (.full, .reserve [2]),
          (.full, .rehash 3), (.full, .keys)]) := by
  have hcreate : (create Memory.full (.standard 1 1) 1 :
      Action Unit (Table (Chains LayoutKind.interleaved.Store))).run () = ⟨.ok _, (), []⟩ := rfl
  refine ⟨_, hcreate, by decide +kernel, (history_bare (by decide) hcreate ?_ ?_).2⟩
  · exact fun _ _ => Policy.consistent_of_bytewise rfl
  · decide +kernel

end Table

end ByteTable
