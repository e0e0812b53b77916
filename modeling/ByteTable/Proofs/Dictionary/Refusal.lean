import ByteTable.Proofs.Dictionary
import ByteTable.Proofs.Table.Refusal

/-!
# Failures of tables and dictionaries

A table that fails to insert a key, to reserve one or to be rehashed is unchanged
(`Table.Shows.unchanged_of_error`).  A dictionary may have grown before it failed, and then its
records lie in other buckets; but it holds the same ones, with the same values and marks.  Growing
keeps the live records whether it works or not, and a failure after it is one of the table that it
led to.

Both are stated together, for everything that a layout and a policy can lead to.
-/

namespace ByteTable

/-- Growing, and then an operation that fails with a promised error, keeps the live records. -/
theorem Table.Shows.exists_perm_of_grow_error {β α : Type} [Storage β] [LawfulStorage β]
    {table : Table β} {policy : Policy} {bs : Buckets} (h : table.Shows policy bs) {memory : Memory}
    {op : Operation} {act : Action (Table β) α} {f : α → Reply}
    (hop : op.perform memory = act >>= fun a => pure (f a)) {cause : TableError}
    (hanswer : ((Dictionary.growIfNeeded memory >>= fun _ => act).run table).answer =
      .error (.error cause)) :
    ∃ bs', ((Dictionary.growIfNeeded memory >>= fun _ => act).run table).state.Shows policy bs' ∧
      bs'.liveRecords.Perm bs.liveRecords := by
  obtain ⟨bs', hshows, hperm⟩ := h.grow memory
  rw [Action.run_bind] at hanswer ⊢
  generalize (Dictionary.growIfNeeded memory).run table = outcome at hshows hanswer ⊢
  obtain ⟨cause' | _, grown, log⟩ := outcome
  · exact ⟨bs', hshows, hperm⟩
  -- The table has grown, so the failure is one of the operation.
  · have hact : (act.run grown).answer = .error (.error cause) := hanswer
    have hfailed : ((op.perform memory).run grown).answer = .error (.error cause) := by
      rw [hop, Action.run_bind_pure, hact]
      rfl
    have hleft := (op.run_perform hshows memory).shows_of_error hfailed
    rw [Operation.state_run_perform hop] at hleft
    exact ⟨bs', hleft, hperm⟩

/-- Whether two dictionaries hold the same live records: keys, values, and the marks in the words
that tell a written value from a key that is only reserved. -/
structure Dictionary.KeepsRecords {kind : LayoutKind}
    (dictionary dictionary' : Dictionary (Chains kind.Store)) : Prop where
  size_eq : dictionary'.size = dictionary.size
  exists_contents : ∃ buckets buckets' : Buckets,
    dictionary.table.storage.contents = .ok buckets ∧
      dictionary'.table.storage.contents = .ok buckets' ∧
      buckets'.liveRecords.Perm buckets.liveRecords

namespace Dictionary

variable {kind : LayoutKind} {policy : Policy}
  {dictionary dictionary' : Dictionary (Chains kind.Store)}

theorem keepsRecords_of_shows {bs bs' : Buckets} (h : dictionary.table.Shows policy bs)
    (h' : dictionary'.table.Shows policy bs') (hperm : bs'.liveRecords.Perm bs.liveRecords) :
    dictionary.KeepsRecords dictionary' := by
  constructor
  · have hcount : bs'.liveCount = bs.liveCount := by
      rw [Buckets.liveCount_eq_length, Buckets.liveCount_eq_length, hperm.length_eq]
    exact h'.chains.size_eq.trans (hcount.trans h.chains.size_eq.symm)
  · exact ⟨bs, bs', h.contents_eq, h'.contents_eq, hperm⟩

/-- A dictionary that grows and then fails with a promised error holds what it held. -/
theorem Reachable.keepsRecords_of_error {α : Type} (h : dictionary.Reachable policy)
    {memory : Memory} {op : Operation} {act : Action (Table (Chains kind.Store)) α} {f : α → Reply}
    (hop : op.perform memory = act >>= fun a => pure (f a)) {cause : TableError}
    (hanswer : ((onTable (growIfNeeded memory >>= fun _ => act)).run dictionary).answer =
      .error (.error cause)) :
    dictionary.KeepsRecords
      ((onTable (growIfNeeded memory >>= fun _ => act)).run dictionary).state := by
  obtain ⟨bs, hshows⟩ := h.table.exists_shows
  rw [answer_run_onTable] at hanswer
  obtain ⟨bs', hshows', hperm⟩ := hshows.exists_perm_of_grow_error hop hanswer
  refine keepsRecords_of_shows hshows ?_ hperm
  rw [table_run_onTable]
  exact hshows'

end Dictionary

/-- A failure that callers are promised leaves a table as it was, and a dictionary with the records
that it held, wherever memory was refused. -/
theorem unchanged_and_keepsRecords_of_error {kind : LayoutKind} {policy : Policy} :
    (∀ {table : Table (Chains kind.Store)}, table.Reachable policy →
      ∀ (memory : Memory) (op : Operation) (cause : TableError),
        ((op.perform memory).run table).answer = .error (.error cause) →
          table.Unchanged ((op.perform memory).run table).state) ∧
      ∀ {dictionary : Dictionary (Chains kind.Store)}, dictionary.Reachable policy →
        ∀ (memory : Memory) (key : Bytes) (cause : TableError),
          (∀ value,
            ((Dictionary.insert memory key value).run dictionary).answer = .error (.error cause) →
              dictionary.KeepsRecords
                ((Dictionary.insert memory key value).run dictionary).state) ∧
          (((Dictionary.reserve memory key).run dictionary).answer = .error (.error cause) →
            dictionary.KeepsRecords ((Dictionary.reserve memory key).run dictionary).state) := by
  constructor
  · intro table h memory op cause hanswer
    obtain ⟨bs, hshows⟩ := h.exists_shows
    exact hshows.unchanged_of_error hanswer
  · intro dictionary h memory key cause
    constructor
    · intro value hanswer
      rw [Dictionary.insert] at hanswer ⊢
      exact h.keepsRecords_of_error (Operation.perform_insert memory key value) hanswer
    · intro hanswer
      rw [Dictionary.reserve] at hanswer ⊢
      exact h.keepsRecords_of_error (Operation.perform_reserve memory key) hanswer

/-- The memory that refuses one buffer. -/
def Memory.withholding (buffer : Buffer) : Memory :=
  ⟨fun other => if other = buffer then 0 else maxBytes, fun other => by split <;> decide⟩

/-- A table is refused the last of the three chains that its first key needs, and a dictionary of
three keys grows to six buckets before it is refused one for the fourth. -/
theorem unchanged_and_keepsRecords_of_two_refusals :
    (∃ table : Table (Chains LayoutKind.fullySeparated.Store),
      table.Reachable (.standard 1 1) ∧
        (((Operation.insert [1] [9]).perform (.withholding (.chain .values 1))).run table).answer =
          .error (.error .allocation) ∧
        table.Unchanged
          (((Operation.insert [1] [9]).perform (.withholding (.chain .values 1))).run
            table).state) ∧
      ∃ dictionary : Dictionary (Chains LayoutKind.fullySeparated.Store),
        dictionary.Reachable (.standard 1 1) ∧ dictionary.table.bucketCount = 3 ∧
          ((Dictionary.insert (.withholding (.chain .values 4)) [4] [9]).run dictionary).answer =
            .error (.error .allocation) ∧
          ((Dictionary.insert (.withholding (.chain .values 4)) [4] [9]).run
            dictionary).state.table.bucketCount = 6 ∧
          dictionary.KeepsRecords
            ((Dictionary.insert (.withholding (.chain .values 4)) [4] [9]).run
              dictionary).state := by
  constructor
  · have hcreate : (Table.create Memory.full (.standard 1 1) 2 :
        Action Unit (Table (Chains LayoutKind.fullySeparated.Store))).run () =
          ⟨.ok _, (), []⟩ := rfl
    obtain ⟨table, htable, hrefused⟩ : ∃ table : Table (Chains LayoutKind.fullySeparated.Store),
        table.Reachable (.standard 1 1) ∧
          (((Operation.insert [1] [9]).perform (.withholding (.chain .values 1))).run
            table).answer = .error (.error .allocation) := ⟨_, .created hcreate, by decide +kernel⟩
    exact ⟨table, htable, hrefused, unchanged_and_keepsRecords_of_error.1 htable _ _ _ hrefused⟩
  · have hcreate : (Dictionary.create Memory.full (.standard 1 1) .small :
        Action Unit (Dictionary (Chains LayoutKind.fullySeparated.Store))).run () =
          ⟨.ok _, (), []⟩ := rfl
    have hone :=
      (Dictionary.Reachable.created hcreate).insert (by decide +kernel) Memory.full [1] [9]
    have htwo := hone.insert (by decide +kernel) Memory.full [2] [9]
    have hthree := htwo.reserve (by decide +kernel) Memory.full [3]
    obtain ⟨dictionary, hdictionary, hthree, hrefused, hsix⟩ :
        ∃ dictionary : Dictionary (Chains LayoutKind.fullySeparated.Store),
          dictionary.Reachable (.standard 1 1) ∧ dictionary.table.bucketCount = 3 ∧
            ((Dictionary.insert (.withholding (.chain .values 4)) [4] [9]).run dictionary).answer =
              .error (.error .allocation) ∧
            ((Dictionary.insert (.withholding (.chain .values 4)) [4] [9]).run
              dictionary).state.table.bucketCount = 6 :=
      ⟨_, hthree, by decide +kernel, by decide +kernel, by decide +kernel⟩
    exact ⟨dictionary, hdictionary, hthree, hrefused, hsix,
      (unchanged_and_keepsRecords_of_error.2 hdictionary _ [4] _).1 [9] hrefused⟩

end ByteTable
