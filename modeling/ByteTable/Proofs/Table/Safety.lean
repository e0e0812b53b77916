import ByteTable.Proofs.Table.Leads

/-!
# Tables do not crash

Every check inside a table, a layout or a handle is a `Crash`: a slot or a bucket that does not
exist, a sum or a difference that leaves the 64 bits, chains that are not in step, a rebuild that
lost a key, a bucket count that differs.  None of them is ever tripped, provided that records fit a
machine word, the policy is consistent, and callers give keys and values of the right lengths.
Handles and bucket counts are free.

`Operation.Ends` has a crash in four of its ends, and `Operation.Ends.answers_safely` excludes each
for a reason of its own.
-/

namespace ByteTable

/-- Whether the keys and values of an operation have the lengths of the policy. -/
def Operation.Sized (policy : Policy) : Operation → Prop
  | insert key value => key.length = policy.keySize ∧ value.length = policy.valueSize
  | get key | find key | reserve key | erase key => key.length = policy.keySize
  | assign _ value => value.length = policy.valueSize
  | _ => True

/-- The arguments of an operation with keys and values of the right lengths fail no check that
crashes. -/
theorem Operation.fault?_ne_crash {policy : Policy} {op : Operation} (h : op.Sized policy)
    (cause : Crash) : op.fault? policy ≠ some (.crash cause) := by
  intro hfault
  cases op with
  | insert key value =>
    rw [fault?, if_neg (not_not_intro h.1), if_neg (not_not_intro h.2)] at hfault
    cases hfault
  | get key | find key | reserve key | erase key =>
    have hkey : key.length = policy.keySize := h
    rw [fault?, if_neg (not_not_intro hkey)] at hfault
    cases hfault
  | assign handle value =>
    have hvalue : value.length = policy.valueSize := h
    rw [fault?, if_neg (not_not_intro hvalue)] at hfault
    cases hfault
  | rehash bucketCount =>
    rw [fault?] at hfault
    split at hfault <;> cases hfault
  | discard _ | isWritten _ | keyOf _ | valueOf _ | size | loadFactor | keys | values | pairs _
    | walk _ _ => cases hfault

/-- As many elements, each an address and a length, as no buffer can list: `2 ^ 59`. -/
def listLimit : Nat :=
  0x800000000000000

theorem listLimit_lt : listLimit + 1 < wordLimit := by
  decide

/-- Whether an operation was answered, or failed with a promised error.  A list that it answered
with, each element being an address and a length, is no larger than a buffer can be. -/
structure AnswersSafely (answer : Except Failure Reply) : Prop where
  ne_crash (cause : Crash) : answer ≠ .error (.crash cause)
  length_le {elements : List Bytes} : answer = .ok (.list elements) →
    16 * elements.length ≤ maxBytes

theorem AnswersSafely.error (cause : TableError) : AnswersSafely (.error (.error cause)) := by
  constructor
  · intro crash hanswer
    cases hanswer
  · intro elements hanswer
    cases hanswer

section

variable {β : Type} [Storage β] [LawfulStorage β] {policy : Policy} {bs : Buckets} {table : Table β}
  {op : Operation}

/-- Only the keys and the values are listed, one for each live slot. -/
theorem Operation.length_le_of_reply_eq_list (hcount : bs.liveCount < listLimit)
    {elements : List Bytes} (h : op.reply policy bs = .list elements) :
    16 * elements.length ≤ maxBytes := by
  have hlength : elements.length = bs.liveCount := by
    rw [Buckets.liveCount_eq_length]
    cases op with
    | keys => rw [← Reply.list.inj h, List.length_map]
    | values => rw [← Reply.list.inj h, List.length_map]
    | _ => cases h
  rw [listLimit] at hcount
  rw [hlength, maxBytes]
  omega

/-- An operation on buckets that can be searched ends without a crash. -/
theorem Operation.Ends.answers_safely {outcome : Outcome (Table β) Reply}
    (h : op.Ends policy bs outcome) (hkeyed : bs.Keyed policy) (hsized : op.Sized policy)
    (hfits : LawfulSlotStorage.Fits β policy.keySize policy.valueSize)
    (hcount : bs.liveCount < listLimit) : AnswersSafely outcome.answer := by
  cases h with
  | answered _ _ =>
    constructor
    · intro cause hanswer
      cases hanswer
    · intro elements hanswer
      exact length_le_of_reply_eq_list hcount (Except.ok.inj hanswer)
  | @faulted _ _ cause hfault _ =>
    cases cause with
    | error cause => exact .error cause
    | crash cause => exact absurd hfault (fault?_ne_crash hsized cause)
  | refused _ => exact .error .allocation
  | oversized hsize _ => exact absurd hfits hsize
  | full hfault hfull =>
    have hafter := op.liveCount_after_le hkeyed.length_pos hfault
    have hlimit := listLimit_lt
    omega
  | merged _ hmerging _ =>
    exact absurd (hkeyed.distinct.apart_of_imp (fun _ _ => id) _) hmerging

/-- A run of a reachable table does not crash. -/
theorem Table.Reachable.answers_safely (h : table.Reachable policy)
    (hconsistent : policy.Consistent)
    (hfits : LawfulSlotStorage.Fits β policy.keySize policy.valueSize) {table' : Table β}
    {trace : List (Operation × Except Failure Reply)}
    (hleads : Leads (listLimit) Table.size Operation.perform (Operation.Sized policy) table trace
      table') : ∀ step ∈ trace, AnswersSafely step.2 := by
  refine (hleads.keeps_and_forall h fun table memory op htable hroom hop => ?_).2
  obtain ⟨bs, hshows, hkeyed⟩ := htable.exists_keyed hconsistent
  have hsize : table.size = bs.liveCount := LawfulSlotStorage.size_eq hshows.storage
  have hlimit := listLimit_lt
  refine ⟨htable.step (by omega) memory op, ?_⟩
  exact (op.run_perform hshows memory).answers_safely hkeyed hop hfits (hsize ▸ hroom)

end

/-- Creating a table does not crash, whatever bucket count is asked for. -/
theorem Table.answer_create_ne_crash {β σ : Type} [Storage β] (memory : Memory) (policy : Policy)
    (bucketCount : Nat) (s : σ) (cause : Crash) :
    ((create memory policy bucketCount : Action σ (Table β)).run s).answer ≠
      .error (.crash cause) := by
  intro hanswer
  unfold create at hanswer
  by_cases hpos : bucketCount < 1
  · rw [if_pos hpos, Action.run_bind] at hanswer
    cases hanswer
  rw [if_neg hpos, Action.run_bind] at hanswer
  rcases hstorage : (SlotStorage.create memory policy.keySize policy.valueSize bucketCount :
    Except TableError β) with refusal | storage
  · rw [hstorage] at hanswer
    cases hanswer
  · rw [hstorage] at hanswer
    cases hanswer

end ByteTable
