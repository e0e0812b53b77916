import ByteTable.Proofs.Buckets.Entries
import ByteTable.Proofs.Table.Invariant
import ByteTable.Proofs.Table.Run

/-!
# Operations with their answers

`Leads` says that operations, each with what it answered, lead from one state to another.  It is
stated once for tables and dictionaries: what it needs to know of either is how to perform an
operation and how many live slots there are.  Operations that fail are steps like any other.  With
fewer than `2 ^ 64 - 1` live slots the counter has room for one more.

Under a consistent policy everything that a table is led to is searchable (`Buckets.Keyed`), also
after failures.  `Operation.Ends.exists_keyed` is the step, `Table.Reachable.exists_keyed` the
result.
-/

namespace ByteTable

/-- Whether operations of a kind lead from one state to another, with these answers.  Each starts
where there are fewer live slots than a limit. -/
inductive Leads {σ : Type} (limit : Nat) (size : σ → Nat)
    (perform : Memory → Operation → Action σ Reply) (Allowed : Operation → Prop) :
    σ → List (Operation × Except Failure Reply) → σ → Prop where
  | start (s : σ) : Leads limit size perform Allowed s [] s
  | step {s s' : σ} {trace : List (Operation × Except Failure Reply)}
    (h : Leads limit size perform Allowed s trace s') (hroom : size s' < limit) (memory : Memory)
    (op : Operation) (hop : Allowed op) :
    Leads limit size perform Allowed s (trace ++ [(op, ((perform memory op).run s').answer)])
      ((perform memory op).run s').state

/-- What each operation keeps, a run keeps.  If each is answered in a certain way, so are all of the
run. -/
theorem Leads.keeps_and_forall {σ : Type} {limit : Nat} {size : σ → Nat}
    {perform : Memory → Operation → Action σ Reply} {Allowed : Operation → Prop} {s s' : σ}
    {trace : List (Operation × Except Failure Reply)} {P : σ → Prop}
    {Q : Except Failure Reply → Prop} (h : Leads limit size perform Allowed s trace s')
    (hs : P s)
    (hstep : ∀ s memory op, P s → size s < limit → Allowed op →
      P ((perform memory op).run s).state ∧ Q ((perform memory op).run s).answer) :
    P s' ∧ ∀ step ∈ trace, Q step.2 := by
  induction h with
  | start => exact ⟨hs, fun step hstep => by cases hstep⟩
  | @step s' trace _ hroom memory op hop ih =>
    obtain ⟨hkeeps, hanswers⟩ := ih
    obtain ⟨hkeeps', hanswer⟩ := hstep s' memory op hkeeps hroom hop
    refine ⟨hkeeps', fun step hmem => ?_⟩
    rcases List.mem_append.mp hmem with hbefore | hlast
    · exact hanswers step hbefore
    · rw [List.mem_singleton.mp hlast]
      exact hanswer

/-! ## Searching after a run -/

/-- An operation leaves buckets that can be searched. -/
theorem Buckets.Keyed.after {β : Type} [Storage β] [LawfulStorage β] {policy : Policy}
    {bs : Buckets} {op : Operation} {table : Table β} (h : bs.Keyed policy)
    (hfault : op.fault? policy = none)
    (hshows : table.Shows policy (op.after policy bs)) : (op.after policy bs).Keyed policy := by
  have hdistinct : (op.settle policy bs).2.Distinct policy :=
    Operation.distinct_settle h.consistent h.placed h.sized h.length_pos h.distinct
  rw [Operation.settle_of_eq_none hfault] at hdistinct
  exact ⟨h.consistent, hshows.placed, LawfulSlotStorage.sized hshows.storage, hdistinct,
    LawfulSlotStorage.length_pos hshows.storage⟩

section

variable {β : Type} [Storage β] [LawfulStorage β] {policy : Policy} {bs : Buckets} {table : Table β}

theorem Operation.Ends.exists_keyed {op : Operation} {outcome : Outcome (Table β) Reply}
    (h : op.Ends policy bs outcome) (hkeyed : bs.Keyed policy)
    (hroom : bs.liveCount + 1 < wordLimit) :
    ∃ bs', outcome.state.Shows policy bs' ∧ bs'.Keyed policy := by
  cases h with
  | answered hfault h => exact ⟨_, h, hkeyed.after hfault h⟩
  | faulted _ h => exact ⟨bs, h, hkeyed⟩
  | refused h => exact ⟨bs, h, hkeyed⟩
  | oversized _ h => exact ⟨bs, h, hkeyed⟩
  | full hfault hfull =>
    have hcount := op.liveCount_after_le hkeyed.length_pos hfault
    omega
  | merged _ _ h => exact ⟨bs, h, hkeyed⟩

/-- Under a consistent policy every reachable table can be searched. -/
theorem Table.Reachable.exists_keyed (h : table.Reachable policy)
    (hconsistent : policy.Consistent) :
    ∃ bs, table.Shows policy bs ∧ bs.Keyed policy := by
  induction h with
  | @created memory bucketCount table log h =>
    have hshows := shows_of_run_create h
    have hpos := LawfulSlotStorage.length_pos hshows.storage
    rw [Buckets.length_empty] at hpos
    exact ⟨_, hshows, .empty hconsistent hpos⟩
  | @step table _ hroom memory op ih =>
    obtain ⟨bs, hshows, hkeyed⟩ := ih
    have hsize : table.size = bs.liveCount := LawfulSlotStorage.size_eq hshows.storage
    exact (op.run_perform hshows memory).exists_keyed hkeyed (hsize ▸ hroom)

end

end ByteTable
