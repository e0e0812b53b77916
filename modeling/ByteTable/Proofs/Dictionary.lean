import ByteTable.Dictionary
import ByteTable.Proofs.Buckets.Entries
import ByteTable.Proofs.Table.Invariant

/-!
# Dictionaries as tables

A dictionary does nothing to its table that operations on a table do not do.  Growing is a rehash or
nothing at all (`Dictionary.run_growIfNeeded`), and a rehash, whether it works or not, keeps the
live records up to their order (`Table.Shows.grow`).  So the table of every reachable dictionary is
a reachable table (`Dictionary.Reachable.table`), and what is known of those need not be proved
again.
-/

namespace ByteTable

/-! ## Operations and the actions behind them -/

theorem Operation.perform_insert {β : Type} [Storage β] (memory : Memory) (key value : Bytes) :
    (perform memory (.insert key value) : Action (Table β) Reply) =
      Table.insert memory key value >>= fun _ => pure .done := rfl

theorem Operation.perform_reserve {β : Type} [Storage β] (memory : Memory) (key : Bytes) :
    (perform memory (.reserve key) : Action (Table β) Reply) =
      Table.reserve memory key >>= fun answer => pure (.reserved answer.1 answer.2) := rfl

/-- What an operation leaves is what the action behind it leaves. -/
theorem Operation.state_run_perform {β α : Type} [Storage β] {memory : Memory} {op : Operation}
    {act : Action (Table β) α} {f : α → Reply} (h : op.perform memory = act >>= fun a => pure (f a))
    (table : Table β) : ((op.perform memory).run table).state = (act.run table).state := by
  rw [h, Action.run_bind_pure]

theorem Table.Reachable.run {β α : Type} [Storage β] {policy : Policy} {table : Table β}
    (h : table.Reachable policy) (hroom : table.size + 1 < wordLimit) (memory : Memory)
    (op : Operation) {act : Action (Table β) α} {f : α → Reply}
    (hop : op.perform memory = act >>= fun a => pure (f a)) :
    (act.run table).state.Reachable policy := by
  have hstep := h.step hroom memory op
  rwa [Operation.state_run_perform hop] at hstep

namespace Dictionary

/-! ## Growing -/

section

variable {β : Type} [Storage β]

section

variable {α : Type} (act : Action (Table β) α) (dictionary : Dictionary β)

omit [Storage β]

theorem answer_run_onTable :
    ((onTable act).run dictionary).answer = (act.run dictionary.table).answer := rfl

theorem table_run_onTable :
    ((onTable act).run dictionary).state.table = (act.run dictionary.table).state := rfl

end

/-- Whether a table need not grow, since there is room, or cannot, since no size is larger. -/
def Settled (table : Table β) : Prop :=
  table.loadFactor.lt Growth.threshold = true ∨ Growth.next table.bucketCount = table.bucketCount

theorem run_growIfNeeded_of_lt {table : Table β} (h : table.loadFactor.lt Growth.threshold = true)
    (memory : Memory) :
    (growIfNeeded memory).run table = (pure () : Action (Table β) Unit).run table := by
  rw [growIfNeeded, Action.run_read_bind, Action.andThen_answer_ok, if_pos h]

theorem run_growIfNeeded_of_settled {table : Table β} (h : Settled table) (memory : Memory) :
    ∃ log, (growIfNeeded memory).run table = ⟨.ok (), table, log⟩ := by
  by_cases hload : table.loadFactor.lt Growth.threshold
  · rw [run_growIfNeeded_of_lt hload]
    exact ⟨_, rfl⟩
  · have hnext := h.resolve_left hload
    rw [growIfNeeded, Action.run_read_bind, Action.andThen_answer_ok, if_neg hload,
      Action.run_read_bind, Action.andThen_answer_ok, if_pos hnext]
    exact ⟨_, rfl⟩

/-- Growing is a rehash to the next size, which the log tells first. -/
theorem run_growIfNeeded_eq {table : Table β} (h : ¬Settled table) (memory : Memory) :
    (growIfNeeded memory).run table =
      (do
        Action.note (.growing table.loadFactor table.bucketCount (Growth.next table.bucketCount))
        Table.rehash memory (Growth.next table.bucketCount) : Action (Table β) Unit).run table := by
  obtain ⟨hload, hnext⟩ := not_or.mp h
  rw [growIfNeeded, Action.run_read_bind, Action.andThen_answer_ok, if_neg hload,
    Action.run_read_bind, Action.andThen_answer_ok, if_neg hnext]

theorem run_growIfNeeded_of_not_settled {table : Table β} (h : ¬Settled table) (memory : Memory) :
    ∃ log, (growIfNeeded memory).run table =
      ⟨((Table.rehash memory (Growth.next table.bucketCount)).run table).answer,
        ((Table.rehash memory (Growth.next table.bucketCount)).run table).state, log⟩ := by
  rw [run_growIfNeeded_eq h, Action.run_bind, Action.run_note]
  exact ⟨_, rfl⟩

/-- Growing leaves the table alone or rehashes it. -/
theorem run_growIfNeeded (memory : Memory) (table : Table β) :
    (∃ log, (growIfNeeded memory).run table = ⟨.ok (), table, log⟩) ∨
      ∃ bucketCount log, (growIfNeeded memory).run table =
        ⟨((Table.rehash memory bucketCount).run table).answer,
          ((Table.rehash memory bucketCount).run table).state, log⟩ := by
  by_cases hsettled : Settled table
  · exact .inl (run_growIfNeeded_of_settled hsettled memory)
  · exact .inr ⟨_, run_growIfNeeded_of_not_settled hsettled memory⟩

end

end Dictionary

section

variable {β : Type} [Storage β] [LawfulStorage β] {table : Table β} {policy : Policy} {bs : Buckets}

/-- A rehash keeps the live records, whether it works or not. -/
theorem Operation.Ends.exists_perm_of_rehash {outcome : Outcome (Table β) Reply} {bucketCount : Nat}
    (h : Operation.Ends policy bs (.rehash bucketCount) outcome)
    (hcount : bs.liveCount < wordLimit) :
    ∃ bs', outcome.state.Shows policy bs' ∧ bs'.liveRecords.Perm bs.liveRecords := by
  cases h with
  | answered hfault h =>
    exact ⟨_, h, Buckets.liveRecords_spread policy (pos_of_fault?_rehash hfault) bs⟩
  | faulted _ h => exact ⟨bs, h, .refl _⟩
  | refused h => exact ⟨bs, h, .refl _⟩
  | oversized _ h => exact ⟨bs, h, .refl _⟩
  | full hfault hfull =>
    rw [after, Buckets.liveCount_spread_liveRecords (pos_of_fault?_rehash hfault)] at hfull
    omega
  | merged _ _ h => exact ⟨bs, h, .refl _⟩

/-- Growing keeps the live records, whether it works or not. -/
theorem Table.Shows.grow (h : table.Shows policy bs) (memory : Memory) :
    ∃ bs', ((Dictionary.growIfNeeded memory).run table).state.Shows policy bs' ∧
      bs'.liveRecords.Perm bs.liveRecords := by
  rcases Dictionary.run_growIfNeeded memory table with ⟨log, hrun⟩ | ⟨bucketCount, log, hrun⟩
  · rw [hrun]
    exact ⟨bs, h, .refl _⟩
  · have hends := Operation.run_perform h memory (.rehash bucketCount)
    obtain ⟨bs', hshows, hperm⟩ :=
      hends.exists_perm_of_rehash (LawfulSlotStorage.liveCount_lt h.storage)
    rw [Operation.state_run_perform rfl] at hshows
    rw [hrun]
    exact ⟨bs', hshows, hperm⟩

/-- Growing leads to a reachable table that counts as many keys. -/
theorem Table.Reachable.grow (h : table.Reachable policy) (hroom : table.size + 1 < wordLimit)
    (memory : Memory) :
    ((Dictionary.growIfNeeded memory).run table).state.Reachable policy ∧
      ((Dictionary.growIfNeeded memory).run table).state.size = table.size := by
  constructor
  · rcases Dictionary.run_growIfNeeded memory table with ⟨log, hrun⟩ | ⟨bucketCount, log, hrun⟩
    · rw [hrun]
      exact h
    · rw [hrun]
      exact h.run hroom memory (.rehash bucketCount) rfl
  · obtain ⟨bs, hshows⟩ := h.exists_shows
    obtain ⟨bs', hshows', hperm⟩ := hshows.grow memory
    have hsize : table.size = bs.liveCount := LawfulSlotStorage.size_eq hshows.storage
    have hsize' := LawfulSlotStorage.size_eq hshows'.storage
    rw [Buckets.liveCount_eq_length] at hsize hsize'
    rw [hsize, ← hperm.length_eq]
    exact hsize'

theorem Table.Reachable.grow_bind {α : Type} (h : table.Reachable policy)
    (hroom : table.size + 1 < wordLimit) {memory : Memory} {op : Operation}
    {act : Action (Table β) α} {f : α → Reply}
    (hop : op.perform memory = act >>= fun a => pure (f a)) :
    ((Dictionary.growIfNeeded memory >>= fun _ => act).run table).state.Reachable policy := by
  obtain ⟨hgrown, hsize⟩ := h.grow hroom memory
  rw [Action.run_bind]
  generalize (Dictionary.growIfNeeded memory).run table = outcome at hgrown hsize
  obtain ⟨cause | _, grown, log⟩ := outcome
  · exact hgrown
  · exact hgrown.run (hsize.symm ▸ hroom) memory op hop

end

/-! ## Reachable dictionaries -/

namespace Dictionary

variable {β : Type} [Storage β] {policy : Policy} {dictionary : Dictionary β}

/-- The dictionaries that operations lead to, whether they answer or not.  Each step starts where
the counter has room for one more live slot. -/
inductive Reachable (policy : Policy) : Dictionary β → Prop where
  /-- A new dictionary. -/
  | created {memory : Memory} {hint : SizeHint} {dictionary : Dictionary β} {log : List Event}
    (h : (create memory policy hint : Action Unit (Dictionary β)).run () =
      ⟨.ok dictionary, (), log⟩) : Reachable policy dictionary
  | insert {dictionary : Dictionary β} (h : Reachable policy dictionary)
    (hroom : dictionary.size + 1 < wordLimit) (memory : Memory) (key value : Bytes) :
    Reachable policy ((insert memory key value).run dictionary).state
  | reserve {dictionary : Dictionary β} (h : Reachable policy dictionary)
    (hroom : dictionary.size + 1 < wordLimit) (memory : Memory) (key : Bytes) :
    Reachable policy ((reserve memory key).run dictionary).state
  | find? {dictionary : Dictionary β} (h : Reachable policy dictionary)
    (hroom : dictionary.size + 1 < wordLimit) (key : Bytes) :
    Reachable policy ((find? key).run dictionary).state
  | erase {dictionary : Dictionary β} (h : Reachable policy dictionary)
    (hroom : dictionary.size + 1 < wordLimit) (key : Bytes) :
    Reachable policy ((erase key).run dictionary).state
  | assign {dictionary : Dictionary β} (h : Reachable policy dictionary)
    (hroom : dictionary.size + 1 < wordLimit) (handle : Handle) (value : Bytes) :
    Reachable policy ((assign handle value).run dictionary).state
  | discard {dictionary : Dictionary β} (h : Reachable policy dictionary)
    (hroom : dictionary.size + 1 < wordLimit) (handle : Handle) :
    Reachable policy ((discard handle).run dictionary).state

theorem run_table_create {memory : Memory} {hint : SizeHint} {log : List Event}
    (h : (create memory policy hint : Action Unit (Dictionary β)).run () =
      ⟨.ok dictionary, (), log⟩) :
    (Table.create memory policy hint.bucketCount : Action Unit (Table β)).run () =
      ⟨.ok dictionary.table, (), log⟩ := by
  have hcreate : (create memory policy hint : Action Unit (Dictionary β)).run () = _ :=
    Action.run_bind_pure (Table.create memory policy hint.bucketCount) Dictionary.mk ()
  rw [hcreate] at h
  generalize (Table.create memory policy hint.bucketCount : Action Unit (Table β)).run () = outcome
    at h
  obtain ⟨cause | table, s, log'⟩ := outcome
  · cases h
  · cases h
    rfl

/-- What operations on a dictionary lead its table to, operations on a table do. -/
theorem Reachable.table [LawfulStorage β] (h : dictionary.Reachable policy) :
    dictionary.table.Reachable policy := by
  induction h with
  | created h => exact .created (run_table_create h)
  | insert _ hroom memory key value ih =>
    rw [size] at hroom
    rw [Dictionary.insert, table_run_onTable]
    exact ih.grow_bind hroom (Operation.perform_insert memory key value)
  | reserve _ hroom memory key ih =>
    rw [size] at hroom
    rw [Dictionary.reserve, table_run_onTable]
    exact ih.grow_bind hroom (Operation.perform_reserve memory key)
  | find? _ hroom key ih =>
    rw [size] at hroom
    exact ih.run hroom Memory.full (.find key) rfl
  | erase _ hroom key ih =>
    rw [size] at hroom
    exact ih.run hroom Memory.full (.erase key) rfl
  | assign _ hroom handle value ih =>
    rw [size] at hroom
    exact ih.run hroom Memory.full (.assign handle value) rfl
  | discard _ hroom handle ih =>
    rw [size] at hroom
    exact ih.run hroom Memory.full (.discard handle) rfl

end Dictionary

end ByteTable
