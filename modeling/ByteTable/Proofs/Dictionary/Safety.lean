import ByteTable.Proofs.Dictionary.Operation
import ByteTable.Proofs.Table.Safety

/-!
# Dictionaries do not crash either

A dictionary does what its table does, and grows.  Growing ends without a crash for the reasons that
a rehash does (`Dictionary.Grows`), so that nothing is left but the operation itself.  The result is
stated for tables and dictionaries of every layout, from their creation on.
-/

namespace ByteTable

namespace Dictionary

section

variable {β : Type} [Storage β] [LawfulStorage β] {policy : Policy} {bs : Buckets}
  {dictionary : Dictionary β} {op : Operation}

theorem reachable_table_perform (h : dictionary.table.Reachable policy)
    (hroom : dictionary.size + 1 < wordLimit) (memory : Memory) (op : Operation) :
    ((perform memory op).run dictionary).state.table.Reachable policy := by
  rw [perform_eq, table_run_onTable, prepare]
  by_cases hgrow : op.mayGrow
  · rw [if_pos hgrow]
    exact h.grow_bind hroom (bind_pure (op.perform memory)).symm
  · rw [if_neg hgrow, pure_bind]
    exact h.step hroom memory op

/-- An operation on a dictionary that can be searched ends without a crash. -/
theorem answers_safely_perform (h : dictionary.table.Shows policy bs) (hkeyed : bs.Keyed policy)
    (hsized : op.Sized policy)
    (hfits : LawfulSlotStorage.Fits β policy.keySize policy.valueSize)
    (hcount : bs.liveCount < listLimit) (memory : Memory) :
    AnswersSafely ((perform memory op).run dictionary).answer := by
  have hgrows := h.grows_prepare hkeyed memory op
  rw [perform_eq, answer_run_onTable, Action.run_bind]
  generalize (prepare memory op).run dictionary.table = outcome at hgrows
  cases hgrows with
  | unchanged hshows =>
    exact (op.run_perform hshows memory).answers_safely hkeyed hsized hfits hcount
  | grown hshows hkeyed' _ hrecords =>
    rw [Buckets.liveCount_eq_length, ← hrecords.length_eq, ← Buckets.liveCount_eq_length] at hcount
    exact (op.run_perform hshows memory).answers_safely hkeyed' hsized hfits hcount
  | refused _ => exact .error .allocation
  | oversized hsize _ => exact absurd hfits hsize

/-- A run of a reachable dictionary does not crash. -/
theorem answers_safely_run (h : dictionary.table.Reachable policy)
    (hconsistent : policy.Consistent)
    (hfits : LawfulSlotStorage.Fits β policy.keySize policy.valueSize) {dictionary' : Dictionary β}
    {trace : List (Operation × Except Failure Reply)}
    (hleads : Leads listLimit size perform (Operation.Sized policy) dictionary trace dictionary') :
    ∀ step ∈ trace, AnswersSafely step.2 := by
  refine (hleads.keeps_and_forall (P := fun dictionary => dictionary.table.Reachable policy) h
    fun dictionary memory op htable hroom hop => ?_).2
  obtain ⟨bs, hshows, hkeyed⟩ := htable.exists_keyed hconsistent
  have hsize : dictionary.size = bs.liveCount := LawfulSlotStorage.size_eq hshows.storage
  have hlimit := listLimit_lt
  refine ⟨reachable_table_perform htable (by omega) memory op, ?_⟩
  exact answers_safely_perform hshows hkeyed hop hfits (hsize ▸ hroom) memory

end

/-- Creating a dictionary does not crash. -/
theorem answer_create_ne_crash {β σ : Type} [Storage β] (memory : Memory) (policy : Policy)
    (hint : SizeHint) (s : σ) (cause : Crash) :
    ((create memory policy hint : Action σ (Dictionary β)).run s).answer ≠
      .error (.crash cause) := by
  have hcreate : (create memory policy hint : Action σ (Dictionary β)).run s = _ :=
    Action.run_bind_pure (Table.create memory policy hint.bucketCount) Dictionary.mk s
  have htable := Table.answer_create_ne_crash (β := β) memory policy hint.bucketCount s cause
  rw [hcreate]
  rcases hanswer : ((Table.create memory policy hint.bucketCount : Action σ (Table β)).run s).answer
    with failure | table
  · rw [hanswer] at htable
    exact fun hmapped => htable (congrArg Except.error (Except.error.inj hmapped))
  · exact fun hmapped => by cases hmapped

end Dictionary

/-- Under a consistent policy, and with records that fit a machine word, tables and dictionaries do
not crash: neither when they are created, with any number of buckets, nor in any run of operations
with keys and values of the right lengths, below `listLimit` live slots. -/
theorem answers_safely_of_leads {kind : LayoutKind} {policy : Policy}
    (hconsistent : policy.Consistent)
    (hfits : 8 + policy.keySize + policy.valueSize < wordLimit) :
    ((∀ memory bucketCount cause,
        ((Table.create memory policy bucketCount :
          Action Unit (Table (Chains kind.Store))).run ()).answer ≠ .error (.crash cause)) ∧
        ∀ {table table' : Table (Chains kind.Store)}
          {trace : List (Operation × Except Failure Reply)}, table.Reachable policy →
          Leads listLimit Table.size Operation.perform (Operation.Sized policy) table trace table' →
          ∀ step ∈ trace, AnswersSafely step.2) ∧
      (∀ memory hint cause,
        ((Dictionary.create memory policy hint :
          Action Unit (Dictionary (Chains kind.Store))).run ()).answer ≠ .error (.crash cause)) ∧
      ∀ {dictionary dictionary' : Dictionary (Chains kind.Store)}
        {trace : List (Operation × Except Failure Reply)}, dictionary.Reachable policy →
        Leads listLimit Dictionary.size Dictionary.perform (Operation.Sized policy) dictionary trace
          dictionary' →
        ∀ step ∈ trace, AnswersSafely step.2 := by
  have hfits' : LawfulSlotStorage.Fits (Chains kind.Store) policy.keySize policy.valueSize :=
    LawfulSlotStorage.fits_of_lt hfits
  refine ⟨⟨fun memory bucketCount cause => ?_, fun h hleads => ?_⟩, fun memory hint cause => ?_,
    fun h hleads => ?_⟩
  · exact Table.answer_create_ne_crash memory policy bucketCount () cause
  · exact h.answers_safely hconsistent hfits' hleads
  · exact Dictionary.answer_create_ne_crash memory policy hint () cause
  · exact Dictionary.answers_safely_run h.table hconsistent hfits' hleads

/-- A table of one key is rehashed to no bucket and to all the buckets that there are numbers for,
and a made-up handle is used; a dictionary grows for its fourth key. -/
theorem answers_safely_of_two_runs :
    (∃ table table' : Table (Chains LayoutKind.hashSeparated.Store), ∃ trace,
      table.Reachable (.standard 1 1) ∧
        Leads listLimit Table.size Operation.perform (Operation.Sized (.standard 1 1)) table trace
          table' ∧
        trace.map Prod.fst = [.insert [1] [9], .rehash 0, .rehash (wordLimit - 1),
          .discard ⟨4, by decide⟩, .walk .key [.previous, .tail, .next]] ∧
        ∀ step ∈ trace, AnswersSafely step.2) ∧
      ∃ dictionary dictionary' : Dictionary (Chains LayoutKind.interleaved.Store), ∃ trace,
        dictionary.Reachable (.standard 1 1) ∧
          Leads listLimit Dictionary.size Dictionary.perform (Operation.Sized (.standard 1 1))
            dictionary trace dictionary' ∧
          trace.map Prod.fst = [.reserve [1], .reserve [2], .reserve [3], .reserve [4], .keys] ∧
          ∀ step ∈ trace, AnswersSafely step.2 := by
  have hconsistent : (Policy.standard 1 1).Consistent := Policy.consistent_of_bytewise rfl
  constructor
  · have hcreate : (Table.create Memory.full (.standard 1 1) 2 :
        Action Unit (Table (Chains LayoutKind.hashSeparated.Store))).run () = ⟨.ok _, (), []⟩ := rfl
    obtain ⟨table, table', trace, htable, hleads, hops⟩ :
        ∃ table table' : Table (Chains LayoutKind.hashSeparated.Store), ∃ trace,
          table.Reachable (.standard 1 1) ∧
            Leads listLimit Table.size Operation.perform (Operation.Sized (.standard 1 1)) table
              trace table' ∧
            trace.map Prod.fst = [.insert [1] [9], .rehash 0, .rehash (wordLimit - 1),
              .discard ⟨4, by decide⟩, .walk .key [.previous, .tail, .next]] := by
      refine ⟨_, _, _, .created hcreate, (((((Leads.start _).step ?_ Memory.full (.insert [1] [9])
        ⟨rfl, rfl⟩).step ?_ Memory.full (.rehash 0) trivial).step ?_ Memory.full
        (.rehash (wordLimit - 1)) trivial).step ?_ Memory.full (.discard ⟨4, by decide⟩)
        trivial).step ?_ Memory.full (.walk .key [.previous, .tail, .next]) trivial, rfl⟩
      all_goals decide +kernel
    exact ⟨table, table', trace, htable, hleads, hops,
      (answers_safely_of_leads hconsistent (by decide)).1.2 htable hleads⟩
  · have hcreate : (Dictionary.create Memory.full (.standard 1 1) .small :
        Action Unit (Dictionary (Chains LayoutKind.interleaved.Store))).run () =
          ⟨.ok _, (), []⟩ := rfl
    obtain ⟨dictionary, dictionary', trace, hdictionary, hleads, hops⟩ :
        ∃ dictionary dictionary' : Dictionary (Chains LayoutKind.interleaved.Store), ∃ trace,
          dictionary.Reachable (.standard 1 1) ∧
            Leads listLimit Dictionary.size Dictionary.perform (Operation.Sized (.standard 1 1))
              dictionary trace dictionary' ∧
            trace.map Prod.fst =
              [.reserve [1], .reserve [2], .reserve [3], .reserve [4], .keys] := by
      refine ⟨_, _, _, .created hcreate, (((((Leads.start _).step ?_ Memory.full (.reserve [1])
        (by rfl)).step ?_ Memory.full (.reserve [2]) (by rfl)).step ?_ Memory.full (.reserve [3])
        (by rfl)).step ?_ Memory.full (.reserve [4]) (by rfl)).step ?_ Memory.full .keys
        trivial, rfl⟩
      all_goals decide +kernel
    exact ⟨dictionary, dictionary', trace, hdictionary, hleads, hops,
      (answers_safely_of_leads hconsistent (by decide)).2.2 hdictionary hleads⟩

end ByteTable
