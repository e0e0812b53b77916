import ByteTable.Proofs.Chains.Touches
import ByteTable.Proofs.Table.Invariant

/-!
# What a failed operation leaves

An operation that ends in a promised error has changed nothing that can be seen.  The buckets are
the same, slot by slot, by `Operation.run_perform`.  That alone would leave open what became of the
chains that hold no slot, so it is joined by a fact about all runs: operations other than a rehash
never take a chain away (`Operation.moves_perform`), and a rehash that fails changes nothing at all
(`Table.swaps_rehash`).  A layout that shows the same slots and lacks no chain differs from the old
one in blank chains at most.

`Table.Unchanged` lists what follows for a table.  The order in which an operation reserves its
buffers plays no part in it: every buffer of `Memory` has a limit of its own, and no limit is
assumed.
-/

namespace ByteTable

/-! ## Looking -/

section

variable {σ : Type} {R : σ → σ → Prop} [Std.Refl R] [IsTrans σ R]

theorem Handle.moves_pack (bucketCount : Nat) (slot : Slot) :
    (pack bucketCount slot : Action σ (Option Handle)).Moves R := by
  rw [pack]
  refine (Action.Moves.read _).bind fun width => ?_
  by_cases hitem : slot.item < 1 <<< (64 - width)
  · rw [if_pos hitem]
    exact (Action.Moves.read _).bind fun low => .pure _
  · rw [if_neg hitem]
    exact (Action.Moves.note _).bind fun _ => .pure _

namespace Enumerator

variable {β : Type} [SlotStorage β]

theorem moves_handle (e : Enumerator β) : (e.handle : Action σ (Option Handle)).Moves R := by
  rw [handle]
  rcases e.slot? with _ | slot
  · exact .pure _
  · exact Handle.moves_pack _ slot

theorem moves_trail (e : Enumerator β) (moves : List Move) :
    (e.trail moves : Action σ (List (Option Bytes × Option Handle))).Moves R := by
  induction moves generalizing e with
  | nil =>
    rw [trail]
    exact (Action.Moves.read _).bind fun element? => e.moves_handle.bind fun handle? => .pure _
  | cons move moves ih =>
    rw [trail]
    refine (Action.Moves.read _).bind fun element? => ?_
    refine e.moves_handle.bind fun handle? => ?_
    refine (Action.Moves.read _).bind fun moved => ?_
    exact (ih moved.1).bind fun rest => .pure _

end Enumerator

end

/-- Whether an operation only looks. -/
def Operation.reads : Operation → Bool
  | get _ | find _ | isWritten _ | keyOf _ | valueOf _ | size | loadFactor | keys | values
  | pairs _ | walk _ _ => true
  | _ => false

section

variable {β : Type} [Storage β] {R : Table β → Table β → Prop} [Std.Refl R] [IsTrans (Table β) R]

theorem Table.moves_find? (key : Bytes) :
    (find? key : Action (Table β) (Option Handle)).Moves R := by
  rw [find?]
  refine (Action.Moves.read _).bind fun _ => ?_
  refine (Action.Moves.read _).bind fun slot? => ?_
  rcases slot? with _ | slot
  · exact .pure none
  · exact (Action.Moves.read _).bind fun bucketCount => Handle.moves_pack bucketCount slot

/-- An operation that only looks leaves the table as it is. -/
theorem Operation.moves_perform_of_reads {op : Operation} (hop : op.reads = true)
    (memory : Memory) : (op.perform memory : Action (Table β) Reply).Moves R := by
  cases op with
  | find key => exact (Table.moves_find? key).bind fun _ => .pure _
  | walk element moves =>
    refine (Action.Moves.read _).bind fun e => ?_
    exact (e.moves_trail moves).bind fun shown => .pure _
  | get _ | isWritten _ | keyOf _ | valueOf _ | size | loadFactor | keys | values | pairs _ =>
    exact (Action.Moves.read _).bind fun _ => .pure _
  | insert _ _ | reserve _ | erase _ | assign _ _ | discard _ | rehash _ => cases hop

end

/-! ## No chain is taken away -/

section

variable {kind : LayoutKind}

/-- Whether no bucket and no chain of a table is missing in a second one. -/
structure Table.Opens (table table' : Table (Chains kind.Store)) : Prop where
  bucketCount_eq : table'.bucketCount = table.bucketCount
  layout : kind.Opens table.storage.layout table'.storage.layout

instance : Std.Refl (@Table.Opens kind) :=
  ⟨fun table => ⟨rfl, Std.Refl.refl (r := kind.Opens) table.storage.layout⟩⟩

instance : IsTrans (Table (Chains kind.Store)) Table.Opens :=
  ⟨fun _ _ _ h h' => ⟨h'.bucketCount_eq.trans h.bucketCount_eq,
    IsTrans.trans (r := kind.Opens) _ _ _ h.layout h'.layout⟩⟩

namespace Table

variable {α : Type} {act : Policy → Action (Chains kind.Store) α}

theorem moves_onStorage (h : ∀ policy, (act policy).Moves (Chains.Over kind.Opens)) :
    (onStorage act).Moves Opens :=
  (Action.Moves.read _).bind fun policy => (h policy).within fun _ _ hstorage => ⟨rfl, hstorage⟩

theorem moves_reserve (memory : Memory) (key : Bytes) :
    (reserve memory key : Action (Table (Chains kind.Store)) (Option Handle × Bool)).Moves
      Opens := by
  rw [reserve]
  refine (Action.Moves.read _).bind fun _ => ?_
  refine (moves_onStorage fun policy chains => ?_).bind fun reservation => ?_
  · exact Chains.over_reserve (fun bucket _ _ => kind.movesAt bucket) memory
  · refine (Action.Moves.read _).bind fun bucketCount => ?_
    exact (Handle.moves_pack bucketCount reservation.slot).bind fun handle? => .pure _

theorem moves_insert (memory : Memory) (key value : Bytes) :
    (insert memory key value : Action (Table (Chains kind.Store)) Unit).Moves Opens := by
  rw [insert]
  refine (Action.Moves.read _).bind fun _ => (Action.Moves.read _).bind fun _ => ?_
  exact moves_onStorage fun policy chains =>
    Chains.over_insert (fun bucket _ _ => kind.movesAt bucket) memory value

/-- A rehash gives the table and its storage the number of buckets asked for, or it fails and leaves
both as they are. -/
theorem swaps_rehash (memory : Memory) (bucketCount : Nat) :
    (rehash memory bucketCount : Action (Table (Chains kind.Store)) Unit).Swaps fun table =>
      table.bucketCount = bucketCount ∧ SlotStorage.bucketCount table.storage = bucketCount := by
  intro table
  by_cases hpos : bucketCount < 1
  · rw [rehash, if_pos hpos]
    exact .inr ⟨_, rfl, rfl⟩
  have hpos : 0 < bucketCount := Nat.le_of_not_lt hpos
  have hswaps := kind.swaps_rehash memory table.policy bucketCount table.storage
  generalize hrun : (Storage.rehash memory table.policy bucketCount).run table.storage = outcome
  rw [show (Chains.rehash memory table.policy bucketCount).run table.storage = outcome from hrun]
    at hswaps
  obtain ⟨cause | _, storage, log⟩ := outcome
  · obtain ⟨log', hrehash⟩ := run_rehash_of_error hpos hrun
    rcases hswaps with ⟨_, hanswer, -⟩ | ⟨_, -, hsame⟩
    · cases hanswer
    · obtain rfl : storage = table.storage := hsame
      rw [hrehash]
      exact .inr ⟨cause, rfl, rfl⟩
  · rcases hswaps with ⟨_, -, hcount⟩ | ⟨_, hanswer, -⟩
    · obtain ⟨log', hrehash⟩ := run_rehash_of_ok hpos hrun hcount
      rw [hrehash]
      exact .inl ⟨(), rfl, rfl, hcount⟩
    · cases hanswer

end Table

/-- An operation other than a rehash takes no bucket and no chain away. -/
theorem Operation.moves_perform {op : Operation} (hop : ∀ bucketCount, op ≠ .rehash bucketCount)
    (memory : Memory) :
    (op.perform memory : Action (Table (Chains kind.Store)) Reply).Moves Table.Opens := by
  cases op with
  | insert key value => exact (Table.moves_insert memory key value).bind fun _ => .pure _
  | reserve key => exact (Table.moves_reserve memory key).bind fun _ => .pure _
  | rehash bucketCount => exact absurd rfl (hop bucketCount)
  | erase key =>
    refine Action.Moves.bind ?_ fun _ => .pure _
    refine (Action.Moves.read _).bind fun _ => Table.moves_onStorage fun policy => ?_
    exact Chains.moves_erase kind.movesAt policy key
  | assign handle value =>
    refine Action.Moves.bind ?_ fun _ => .pure _
    refine (Action.Moves.read _).bind fun _ => (Action.Moves.read _).bind fun slot => ?_
    exact Table.moves_onStorage fun _ => Chains.moves_assign (kind.movesAt slot.bucket) value
  | discard handle =>
    refine Action.Moves.bind ?_ fun _ => .pure _
    refine (Action.Moves.read _).bind fun slot => ?_
    exact Table.moves_onStorage fun _ => Chains.moves_discard (kind.movesAt slot.bucket)
  | get _ | find _ | isWritten _ | keyOf _ | valueOf _ | size | loadFactor | keys | values | pairs _
    | walk _ _ => exact moves_perform_of_reads rfl memory

theorem Operation.swaps_rehash (memory : Memory) (bucketCount : Nat) :
    ((rehash bucketCount).perform memory : Action (Table (Chains kind.Store)) Reply).Swaps
      fun table => table.bucketCount = bucketCount ∧
        SlotStorage.bucketCount table.storage = bucketCount :=
  (Table.swaps_rehash memory bucketCount).bind_pure fun _ => Reply.done

/-- An operation that fails takes no bucket and no chain away, be it a rehash. -/
theorem Operation.opens_perform_of_error {op : Operation} {memory : Memory} {cause : Failure}
    {table : Table (Chains kind.Store)}
    (hanswer : ((op.perform memory).run table).answer = .error cause) :
    table.Opens ((op.perform memory).run table).state := by
  by_cases hop : ∃ bucketCount, op = .rehash bucketCount
  · obtain ⟨bucketCount, rfl⟩ := hop
    rw [(swaps_rehash memory bucketCount).state_eq_of_error hanswer]
    exact Std.Refl.refl table
  · exact moves_perform (fun bucketCount hrehash => hop ⟨bucketCount, hrehash⟩) memory table

end

/-! ## Nothing that can be seen has changed -/

/-- A promised error leaves the buckets as they were. -/
theorem Operation.Ends.shows_of_error {β : Type} [Storage β] [LawfulStorage β] {policy : Policy}
    {bs : Buckets} {op : Operation} {outcome : Outcome (Table β) Reply}
    (h : op.Ends policy bs outcome) {cause : TableError}
    (hanswer : outcome.answer = .error (.error cause)) : outcome.state.Shows policy bs := by
  cases h with
  | answered _ _ => cases hanswer
  | faulted _ h => exact h
  | refused h => exact h
  | oversized _ _ => cases hanswer
  | full _ _ => cases hanswer
  | merged _ _ _ => cases hanswer

/-- What is the same in two tables that differ at most in chains that were created and left
blank. -/
structure Table.Unchanged {kind : LayoutKind} (table table' : Table (Chains kind.Store)) :
    Prop where
  policy_eq : table'.policy = table.policy
  size_eq : table'.size = table.size
  bucketCount_eq : table'.bucketCount = table.bucketCount
  /-- The buckets hold the same slots in the same places, and their chains are in step. -/
  exists_contents : ∃ buckets : List (List SlotRecord),
    table.storage.contents = .ok buckets ∧ table'.storage.contents = .ok buckets ∧
      ∀ bucket row, buckets[bucket]? = some row →
        ∀ length ∈ kind.chainLengths table'.storage.layout bucket, length = row.length
  /-- A chain is as it was, or it is new and has no elements. -/
  onlyOpened : kind.OnlyOpened table.storage.layout table'.storage.layout
  /-- Every handle stands for the same slot, and shows the same through it. -/
  slotOf_eq (handle : Handle) : table'.slotOf handle = table.slotOf handle
  isWritten_eq (handle : Handle) : table'.isWritten handle = table.isWritten handle
  keyOf?_eq (handle : Handle) : table'.keyOf? handle = table.keyOf? handle
  valueOf?_eq (handle : Handle) : table'.valueOf? handle = table.valueOf? handle

namespace Table

variable {kind : LayoutKind} {policy : Policy} {bs : Buckets}
  {table table' : Table (Chains kind.Store)}

theorem Shows.unchanged (h : table.Shows policy bs) (h' : table'.Shows policy bs)
    (hopens : table.Opens table') : table.Unchanged table' := by
  constructor
  · exact h'.policy_eq.trans h.policy_eq.symm
  · exact h'.chains.size_eq.trans h.chains.size_eq.symm
  · exact h'.bucketCount_eq.trans h.bucketCount_eq.symm
  · refine ⟨bs, h.contents_eq, h'.contents_eq, fun bucket row hrow length hlength => ?_⟩
    exact h'.intact.chainLengths_eq hrow hlength
  · exact LayoutKind.onlyOpened h.chains.layout h'.chains.layout hopens.layout
  · exact fun handle => (slotOf_eq h' handle).trans (slotOf_eq h handle).symm
  · exact fun handle => (h'.isWritten_eq handle).trans (h.isWritten_eq handle).symm
  · exact fun handle => (h'.keyOf?_eq handle).trans (h.keyOf?_eq handle).symm
  · exact fun handle => (h'.valueOf?_eq handle).trans (h.valueOf?_eq handle).symm

/-- An operation that fails with a promised error leaves a table that shows the same. -/
theorem Shows.unchanged_of_error (h : table.Shows policy bs) {memory : Memory} {op : Operation}
    {cause : TableError}
    (hanswer : ((op.perform memory).run table).answer = .error (.error cause)) :
    table.Unchanged ((op.perform memory).run table).state :=
  h.unchanged ((op.run_perform h memory).shows_of_error hanswer)
    (Operation.opens_perform_of_error hanswer)

end Table

end ByteTable
