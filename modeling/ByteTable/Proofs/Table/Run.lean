import ByteTable.Proofs.Storage.Kind
import ByteTable.Proofs.Table.Step

/-!
# Runs of a table

A run is a list of operations, each with the memory that it has.  `Table.history` performs it and
keeps every outcome; an operation that fails is followed by the next one all the same.

As long as no operation is hindered by memory or by the size of a number, a run depends on the
buckets alone: each operation is `Operation.settle`, which says its answer and what it leaves.  Two
tables that show the same buckets therefore cannot be told apart, whatever they keep them in, and
`map_seen_history_eq` says so for the layouts.

The one operation that layouts do differently is `rehash`.  A rebuild compares keys and a move does
not, so for a rehash the keys have to be apart, as they are under a consistent policy.
-/

namespace ByteTable

/-- Whether memory sufficed and all sizes were machine words. -/
def Outcome.Unhindered {σ α : Type} (outcome : Outcome σ α) : Prop :=
  outcome.answer ≠ .error (.error .allocation) ∧ outcome.answer ≠ .error (.crash .overflow)

instance {σ α : Type} [DecidableEq α] (outcome : Outcome σ α) : Decidable outcome.Unhindered :=
  inferInstanceAs (Decidable (_ ≠ _ ∧ _ ≠ _))

namespace Operation

/-- What an unhindered operation answers and leaves. -/
def settle (policy : Policy) (bs : Buckets) (op : Operation) : Except Failure Reply × Buckets :=
  match op.fault? policy with
  | some cause => (.error cause, bs)
  | none => (.ok (op.reply policy bs), op.after policy bs)

variable {policy : Policy} {bs : Buckets} {op : Operation}

theorem settle_of_eq_some {cause : Failure} (h : op.fault? policy = some cause) :
    op.settle policy bs = (.error cause, bs) := by
  simp only [settle, h]

theorem settle_of_eq_none (h : op.fault? policy = none) :
    op.settle policy bs = (.ok (op.reply policy bs), op.after policy bs) := by
  simp only [settle, h]

/-! ## Distinct keys stay distinct -/

/-- Under a consistent policy no operation makes two live slots of one key. -/
theorem distinct_settle (hconsistent : policy.Consistent) (hplaced : bs.Placed policy)
    (hsized : bs.Sized policy.keySize policy.valueSize) (hpos : 0 < bs.length)
    (h : bs.Distinct policy) : (op.settle policy bs).2.Distinct policy := by
  rcases hfault : op.fault? policy with _ | cause
  swap
  · rwa [settle_of_eq_some hfault]
  rw [settle_of_eq_none hfault]
  cases op with
  | insert key value =>
    obtain ⟨hkey, -⟩ := length_of_fault?_insert hfault
    exact h.insert hconsistent hplaced hsized hpos hkey value
  | reserve key =>
    have hkey := length_of_fault?_reserve hfault
    exact h.reserve hconsistent hplaced hsized hpos hkey
  | erase key => exact h.erase key
  | assign handle value => exact h.assign _ value
  | discard handle => exact h.discard _
  | rehash bucketCount =>
    exact h.spread_liveRecords hconsistent hsized (pos_of_fault?_rehash hfault)
  | _ => exact h

end Operation

section

variable {β : Type} [Storage β]

/-- The outcomes of operations performed one after the other. -/
def Table.history (table : Table β) : List (Memory × Operation) → List (Outcome (Table β) Reply)
  | [] => []
  | (memory, op) :: run =>
    let outcome := (op.perform memory).run table
    outcome :: outcome.state.history run

variable [LawfulStorage β] {table : Table β} {policy : Policy} {bs : Buckets} {op : Operation}

/-- An operation that is not refused memory is not hindered at all if there is room. -/
theorem Operation.Ends.unhindered {outcome : Outcome (Table β) Reply}
    (h : op.Ends policy bs outcome) (hfault : op.fault? policy = none)
    (hfits : LawfulSlotStorage.Fits β policy.keySize policy.valueSize)
    (hroom : (op.after policy bs).liveCount < wordLimit)
    (hmemory : outcome.answer ≠ .error (.error .allocation)) : outcome.Unhindered := by
  refine ⟨hmemory, ?_⟩
  cases h with
  | answered _ _ => exact fun hanswer => by cases hanswer
  | faulted hfaulted _ =>
    rw [hfault] at hfaulted
    cases hfaulted
  | refused _ => exact absurd rfl hmemory
  | oversized hsize _ => exact absurd hfits hsize
  | full _ hfull => exact absurd hroom (Nat.not_lt.mpr hfull)
  | merged _ _ _ => exact fun hanswer => by cases hanswer

/-- An unhindered operation does what is said on the buckets. -/
theorem Operation.Ends.settled {outcome : Outcome (Table β) Reply} (h : op.Ends policy bs outcome)
    (hunhindered : outcome.Unhindered)
    (hdistinct : ∀ bucketCount, op = .rehash bucketCount → bs.Distinct policy) :
    outcome.answer = (op.settle policy bs).1 ∧
      outcome.state.Shows policy (op.settle policy bs).2 := by
  cases h with
  | answered hfault h =>
    rw [settle_of_eq_none hfault]
    exact ⟨rfl, h⟩
  | faulted hfault h =>
    rw [settle_of_eq_some hfault]
    exact ⟨rfl, h⟩
  | refused h => exact absurd rfl hunhindered.1
  | oversized hsize h => exact absurd rfl hunhindered.2
  | full hfault hfull => exact absurd rfl hunhindered.2
  | merged hop hmerging h =>
    exact absurd ((hdistinct _ hop).apart_of_imp (fun _ _ => id) _) hmerging

end

/-! ## The buckets of a run -/

/-- The answers of operations performed one after the other on buckets, and what each leaves. -/
def Buckets.history (policy : Policy) (bs : Buckets) :
    List Operation → List (Except Failure Reply × Buckets)
  | [] => []
  | op :: ops => op.settle policy bs :: (op.settle policy bs).2.history policy ops

/-- What can be seen of a step: the answer, and the contents of the table afterwards. -/
def Outcome.seen {kind : LayoutKind} (outcome : Outcome (Table (Chains kind.Store)) Reply) :
    Except Failure Reply × Except Crash (List (List SlotRecord)) :=
  (outcome.answer, outcome.state.storage.contents)

section

variable {kind : LayoutKind} {table : Table (Chains kind.Store)} {policy : Policy} {bs : Buckets}

/-- What is seen of an unhindered run is what the buckets say. -/
theorem Table.Shows.map_seen_history (h : table.Shows policy bs)
    (hdistinct : policy.Consistent → bs.Distinct policy) {run : List (Memory × Operation)}
    (hrehash : ∀ bucketCount, .rehash bucketCount ∈ run.map Prod.snd → policy.Consistent)
    (hunhindered : ∀ outcome ∈ table.history run, outcome.Unhindered) :
    (table.history run).map Outcome.seen =
      (bs.history policy (run.map Prod.snd)).map fun step => (step.1, .ok step.2) := by
  induction run generalizing table bs with
  | nil => rfl
  | cons step run ih =>
    obtain ⟨memory, op⟩ := step
    rw [history] at hunhindered ⊢
    rw [List.map_cons] at hrehash
    have hsettled := (op.run_perform h memory).settled (hunhindered _ List.mem_cons_self)
      fun bucketCount hop => hdistinct (hrehash bucketCount (hop ▸ List.mem_cons_self))
    generalize (op.perform memory).run table = outcome at hunhindered hsettled ⊢
    obtain ⟨hanswer, hshows⟩ := hsettled
    have hdistinct' : policy.Consistent → (op.settle policy bs).2.Distinct policy :=
      fun hconsistent => Operation.distinct_settle hconsistent h.placed
        (LawfulSlotStorage.sized h.storage) (LawfulSlotStorage.length_pos h.storage)
        (hdistinct hconsistent)
    have hrest := ih hshows hdistinct'
      (fun bucketCount hop => hrehash bucketCount (List.mem_cons_of_mem op hop))
      (fun outcome' houtcome => hunhindered outcome' (List.mem_cons_of_mem _ houtcome))
    have hseen : outcome.seen = ((op.settle policy bs).1, .ok (op.settle policy bs).2) := by
      rw [Outcome.seen, hanswer, hshows.contents_eq]
    rw [List.map_cons, List.map_cons, Buckets.history, List.map_cons, hseen, hrest]

end

/-- Two new tables of the same policy and bucket count, whatever their layouts, answer alike and
hold the same slots after every step of a run, each run with memory of its own. -/
theorem Table.map_seen_history_eq {kind kind' : LayoutKind} {policy : Policy} {bucketCount : Nat}
    {table : Table (Chains kind.Store)} {table' : Table (Chains kind'.Store)}
    {memory memory' : Memory} {log log' : List Event}
    (hcreate : (create memory policy bucketCount : Action Unit (Table (Chains kind.Store))).run () =
      ⟨.ok table, (), log⟩)
    (hcreate' : (create memory' policy bucketCount :
      Action Unit (Table (Chains kind'.Store))).run () = ⟨.ok table', (), log'⟩)
    {run run' : List (Memory × Operation)} (hsame : run.map Prod.snd = run'.map Prod.snd)
    (hrehash : ∀ bucketCount, .rehash bucketCount ∈ run.map Prod.snd → policy.Consistent)
    (hunhindered : ∀ outcome ∈ table.history run, outcome.Unhindered)
    (hunhindered' : ∀ outcome ∈ table'.history run', outcome.Unhindered) :
    (table.history run).map Outcome.seen = (table'.history run').map Outcome.seen ∧
      ∀ outcome ∈ table.history run, ∃ buckets, outcome.state.storage.contents = .ok buckets := by
  have hempty : policy.Consistent → (Buckets.empty bucketCount).Distinct policy :=
    fun _ => .empty policy bucketCount
  have hseen := (shows_of_run_create hcreate).map_seen_history hempty hrehash hunhindered
  have hseen' := (shows_of_run_create hcreate').map_seen_history hempty (hsame ▸ hrehash)
    hunhindered'
  refine ⟨?_, fun outcome houtcome => ?_⟩
  · rw [hseen, hseen', hsame]
  · have hmem : outcome.seen ∈ (table.history run).map Outcome.seen := List.mem_map_of_mem houtcome
    rw [hseen] at hmem
    obtain ⟨step, -, hstep⟩ := List.mem_map.mp hmem
    exact ⟨step.2, (congrArg Prod.snd hstep).symm⟩

/-- A key is written, another one reserved, the first removed, and the rest moved to three
buckets. -/
theorem Table.map_seen_history_eq_of_five_steps :
    ∃ table : Table (Chains LayoutKind.interleaved.Store),
      ∃ table' : Table (Chains LayoutKind.fullySeparated.Store),
        (create Memory.full (.standard 1 1) 2 : Action Unit _).run () = ⟨.ok table, (), []⟩ ∧
        (create Memory.full (.standard 1 1) 2 : Action Unit _).run () = ⟨.ok table', (), []⟩ ∧
        (table.history [(.full, .insert [1] [10]), (.full, .reserve [4]), (.full, .erase [1]),
            (.full, .rehash 3), (.full, .keys)]).map Outcome.seen =
          (table'.history [(.full, .insert [1] [10]), (.full, .reserve [4]), (.full, .erase [1]),
            (.full, .rehash 3), (.full, .keys)]).map Outcome.seen := by
  have hcreate : (create Memory.full (.standard 1 1) 2 :
      Action Unit (Table (Chains LayoutKind.interleaved.Store))).run () = ⟨.ok _, (), []⟩ := rfl
  have hcreate' : (create Memory.full (.standard 1 1) 2 :
      Action Unit (Table (Chains LayoutKind.fullySeparated.Store))).run () = ⟨.ok _, (), []⟩ := rfl
  exact ⟨_, _, hcreate, hcreate', (map_seen_history_eq hcreate hcreate' rfl
    (fun _ _ => Policy.consistent_of_bytewise rfl) (by decide +kernel) (by decide +kernel)).1⟩

end ByteTable
