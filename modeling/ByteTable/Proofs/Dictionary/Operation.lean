import ByteTable.Proofs.Dictionary
import ByteTable.Proofs.Table.Leads

/-!
# Operations of a dictionary

A dictionary performs the operations of its table, and lets the table grow first if the operation
may add a key (`Dictionary.perform_eq`).  If growing is not due, nothing happens.  If it is, the
table comes to have more buckets, with the same keys in them, or it fails to grow and shows the same
buckets as before.  `Dictionary.Grows` lists these ends, and `Table.Shows.grows` says that there is
no other.
-/

namespace ByteTable

/-- Whether a dictionary may grow before an operation. -/
def Operation.mayGrow : Operation → Bool
  | insert _ _ | reserve _ => true
  | _ => false

/-- The next size is never a smaller one. -/
theorem Growth.lt_next_of_ne {bucketCount : Nat} (h : next bucketCount ≠ bucketCount) :
    bucketCount < next bucketCount := by
  rw [next] at h ⊢
  rcases hfound : sizes.find? (bucketCount < ·) with _ | larger
  · rw [hfound] at h
    exact absurd rfl h
  · have hlarger := Array.find?_some hfound
    exact of_decide_eq_true hlarger

namespace Dictionary

variable {β : Type} [Storage β]

/-- Perform an operation on a dictionary, with the memory that it has for it.  Setting and reserving
a key are the dictionary's own; the others are its table's. -/
def perform (memory : Memory) : Operation → Action (Dictionary β) Reply
  | .insert key value => do
    Dictionary.insert memory key value
    return .done
  | .reserve key => do
    let (handle?, created) ← Dictionary.reserve memory key
    return .reserved handle? created
  | op => onTable (op.perform memory)

/-- What a dictionary does before an operation. -/
def prepare (memory : Memory) (op : Operation) : Action (Table β) Unit :=
  if op.mayGrow then growIfNeeded memory else pure ()

omit [Storage β] in
theorem onTable_bind_pure {α γ : Type} (act : Action (Table β) α) (f : α → γ) :
    (onTable act >>= fun a => pure (f a)) = onTable (act >>= fun a => pure (f a)) := by
  ext dictionary
  rw [Action.run_bind_pure, onTable, onTable, Action.run_within rfl, Action.run_within rfl,
    Action.run_bind_pure]

/-- An operation on a dictionary is one on its table, once it has grown. -/
theorem perform_eq (memory : Memory) (op : Operation) :
    (perform memory op : Action (Dictionary β) Reply) =
      onTable (prepare memory op >>= fun _ => op.perform memory) := by
  cases op with
  | insert key value =>
    rw [perform, Dictionary.insert, onTable_bind_pure, bind_assoc, Operation.perform_insert]
    rfl
  | reserve key =>
    rw [perform, Dictionary.reserve, onTable_bind_pure, bind_assoc, Operation.perform_reserve]
    rfl
  | _ => rfl

/-! ## Growing -/

/-- How a table that shows `bs` is prepared for an operation. -/
inductive Grows [LawfulStorage β] (policy : Policy) (bs : Buckets) :
    Outcome (Table β) Unit → Prop where
  /-- It stays as it is. -/
  | unchanged {table : Table β} {log : List Event} (h : table.Shows policy bs) :
    Grows policy bs ⟨.ok (), table, log⟩
  /-- It has the same keys in more buckets. -/
  | grown {table : Table β} {bs' : Buckets} {log : List Event} (h : table.Shows policy bs')
    (hkeyed : bs'.Keyed policy) (hlength : bs.length < bs'.length)
    (hrecords : bs'.liveRecords.Perm bs.liveRecords) : Grows policy bs ⟨.ok (), table, log⟩
  /-- Memory is refused. -/
  | refused {table : Table β} {log : List Event} (h : table.Shows policy bs) :
    Grows policy bs ⟨.error (.error .allocation), table, log⟩
  /-- The size of a record does not fit a machine word. -/
  | oversized {table : Table β} {log : List Event}
    (hsize : ¬LawfulSlotStorage.Fits β policy.keySize policy.valueSize)
    (h : table.Shows policy bs) :
    Grows policy bs ⟨.error (.crash .overflow), table, log⟩

end Dictionary

section

variable {β : Type} [Storage β] [LawfulStorage β] {table : Table β} {policy : Policy} {bs : Buckets}

theorem Table.Shows.grows (h : table.Shows policy bs) (hkeyed : bs.Keyed policy) (memory : Memory) :
    Dictionary.Grows policy bs ((Dictionary.growIfNeeded memory).run table) := by
  by_cases hsettled : Dictionary.Settled table
  · obtain ⟨log, hrun⟩ := Dictionary.run_growIfNeeded_of_settled hsettled memory
    rw [hrun]
    exact .unchanged h
  obtain ⟨log, hrun⟩ := Dictionary.run_growIfNeeded_of_not_settled hsettled memory
  have hlarger := Growth.lt_next_of_ne (not_or.mp hsettled).2
  rw [hrun]
  have hends := Operation.run_perform h memory (.rehash (Growth.next table.bucketCount))
  rw [h.bucketCount_eq] at hlarger hends ⊢
  generalize Growth.next bs.length = larger at hlarger hends ⊢
  have hperform : Operation.perform memory (.rehash larger) =
      (Table.rehash memory larger : Action (Table β) Unit) >>= fun _ => pure .done := rfl
  rw [hperform, Action.run_bind_pure] at hends
  generalize (Table.rehash memory larger).run table = outcome at hends
  obtain ⟨answer, table', log'⟩ := outcome
  generalize hanswer : answer.map (fun _ => Reply.done) = answer' at hends
  have hpos : 0 < larger := Nat.zero_lt_of_lt hlarger
  have hfault : Operation.fault? policy (.rehash larger) = none := if_neg (Nat.not_lt.mpr hpos)
  have hrecords := Buckets.liveRecords_spread policy hpos bs
  cases hends with
  | answered _ hshows =>
    obtain cause | ⟨⟩ := answer
    · cases hanswer
    · refine .grown hshows (hkeyed.after hfault hshows) ?_ hrecords
      rw [Operation.after, Buckets.length_spread]
      exact hlarger
  | faulted hfaulted _ =>
    rw [hfault] at hfaulted
    cases hfaulted
  | refused hshows =>
    obtain cause | ⟨⟩ := answer
    · cases hanswer
      exact .refused hshows
    · cases hanswer
  | oversized hsize hshows =>
    obtain cause | ⟨⟩ := answer
    · cases hanswer
      exact .oversized hsize hshows
    · cases hanswer
  | full _ hfull =>
    have hlt := LawfulSlotStorage.liveCount_lt h.storage
    rw [Operation.after, Buckets.liveCount_spread_liveRecords hpos] at hfull
    omega
  | merged _ hmerging _ =>
    exact absurd (hkeyed.distinct.apart_of_imp (fun _ _ => id) _) hmerging

/-- A table that can be searched is prepared for an operation in one of the ways that
`Dictionary.Grows` lists. -/
theorem Table.Shows.grows_prepare (h : table.Shows policy bs) (hkeyed : bs.Keyed policy)
    (memory : Memory) (op : Operation) :
    Dictionary.Grows policy bs ((Dictionary.prepare memory op).run table) := by
  rw [Dictionary.prepare]
  by_cases hgrow : op.mayGrow
  · rw [if_pos hgrow]
    exact h.grows hkeyed memory
  · rw [if_neg hgrow]
    exact .unchanged h

end

end ByteTable
