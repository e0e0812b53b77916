import ByteTable.Proofs.Dictionary.Operation
import ByteTable.Proofs.Table.Refusal

/-!
# How the counters move

The two numbers that growing goes by, the live keys and the buckets, followed through every
operation whether it answers, fails or crashes, with nothing known of what the table shows.  An
operation adds one key at most, and only setting or reserving a key adds any
(`Operation.gains_perform`).  Only a rehash changes the number of buckets, and it adds no key: what
moves records in place does not touch the counter, and what rebuilds a storage compares it at the
end (`Chains.gains_rehash`).  The table and its storage each count the buckets, and always alike
(`Table.InSync.perform`).

Adding keys is not transitive as adding at most one, so `Action.Moves.append` adds up what is gained
on the way.
-/

namespace ByteTable

/-! ## Actions in a row -/

namespace Action

variable {σ α β : Type}

/-- Two actions in a row move a state by what the first does, if it fails, or by what both do. -/
theorem Moves.append {R Q S : σ → σ → Prop} {act : Action σ α} (h : act.Moves R)
    {f : α → Action σ β} (hf : ∀ a, (f a).Moves Q) (hstop : ∀ s s', R s s' → S s s')
    (htrans : ∀ s s' s'', R s s' → Q s' s'' → S s s'') : (act >>= f).Moves S := by
  intro s
  have hfirst := h s
  rw [run_bind]
  generalize act.run s = outcome at hfirst ⊢
  obtain ⟨cause | a, s', log⟩ := outcome
  · exact hstop _ _ hfirst
  · exact htrans _ _ _ hfirst (hf a s')

end Action

/-- A rebuilt storage counts as many live slots as the old one. -/
theorem KeyedStorage.answers_rebuild {β σ : Type} [KeyedStorage β] (memory : Memory) (old : β)
    (policy : Policy) (bucketCount : Nat) :
    (rebuild memory old policy bucketCount : Action σ β).Answers
      fun fresh => SlotStorage.size fresh = SlotStorage.size old := by
  rw [rebuild]
  refine (Action.Answers.any _).bind fun fresh _ => (Action.Answers.any _).bind fun keys _ => ?_
  refine (Action.Answers.any _).bind fun values _ => (Action.Answers.any _).bind fun key? _ => ?_
  refine (Action.Answers.any _).bind ?_
  rintro ⟨_, filled⟩ - s fresh hanswer
  dsimp only at hanswer
  by_cases hsame : SlotStorage.size filled = SlotStorage.size old
  · rw [if_pos hsame] at hanswer
    cases hanswer
    exact hsame
  · rw [if_neg hsame] at hanswer
    cases hanswer

/-! ## Chains -/

namespace Chains

variable {L : Type}

/-- Whether at most so many more slots are live. -/
def Gains (count : Nat) (chains chains' : Chains L) : Prop :=
  chains'.size ≤ chains.size + count

instance (count : Nat) : Std.Refl (Gains (L := L) count) :=
  ⟨fun chains => Nat.le_add_right chains.size count⟩

instance : IsTrans (Chains L) (Gains 0) :=
  ⟨fun _ _ _ h h' => Nat.le_trans h' h⟩

theorem gains_bind_left {α γ : Type} {count : Nat} {act : Action (Chains L) α}
    (h : act.Moves (Gains count)) {f : α → Action (Chains L) γ}
    (hf : ∀ a, (f a).Moves (Gains 0)) : (act >>= f).Moves (Gains count) :=
  h.append hf (fun _ _ hgains => hgains) fun _ _ _ hgains hgains' => Nat.le_trans hgains' hgains

theorem gains_bind_right {α γ : Type} {count : Nat} {act : Action (Chains L) α}
    (h : act.Moves (Gains 0)) {f : α → Action (Chains L) γ}
    (hf : ∀ a, (f a).Moves (Gains count)) : (act >>= f).Moves (Gains count) := by
  refine h.append hf ?_ ?_
  · exact fun _ _ hgains => Nat.le_add_right_of_le hgains
  · exact fun _ _ _ hgains hgains' => Nat.le_trans hgains' (Nat.add_le_add_right hgains count)

/-- The counter is no part of the layout. -/
theorem gains_onLayout {α : Type} (act : Action L α) : (onLayout act).Moves (Gains 0) :=
  fun chains => Nat.le_refl chains.size

theorem gains_countUp : (countUp : Action (Chains L) Unit).Moves (Gains 1) := by
  rintro ⟨layout, size⟩
  by_cases h : size + 1 < wordLimit
  · rw [run_countUp_of_lt h]
    exact Nat.le_refl _
  · rw [run_countUp_of_le (Nat.le_of_not_lt h)]
    exact Nat.le_succ _

theorem gains_countDown : (countDown : Action (Chains L) Unit).Moves (Gains 0) := by
  rintro ⟨layout, _ | size⟩
  · exact Nat.le_refl _
  · rw [run_countDown]
    exact Nat.le_succ _

variable [Layout L]

theorem gains_place (memory : Memory) (bucket : Nat) (hash : UInt64) (key : Bytes) :
    (place memory bucket hash key : Action (Chains L) Nat).Moves (Gains 1) := by
  rw [place]
  refine gains_bind_right (.read _) fun item? => ?_
  rcases item? with _ | item
  · refine gains_bind_right (gains_onLayout _) fun _ => ?_
    exact gains_bind_left gains_countUp fun _ => .pure _
  · refine gains_bind_right (gains_onLayout _) fun _ => ?_
    exact gains_bind_left gains_countUp fun _ => .pure _

theorem gains_reserve (memory : Memory) (policy : Policy) (key : Bytes) :
    (reserve memory policy key : Action (Chains L) Reservation).Moves (Gains 1) := by
  rw [reserve]
  refine gains_bind_right (.read _) fun found => ?_
  obtain ⟨bucket, item?⟩ := found
  rcases item? with _ | item
  · exact gains_bind_left (gains_place memory bucket _ key) fun _ => .pure _
  · exact .pure _

theorem gains_insert (memory : Memory) (policy : Policy) (key value : Bytes) :
    (insert memory policy key value : Action (Chains L) Unit).Moves (Gains 1) := by
  rw [insert_eq]
  refine gains_bind_left (gains_reserve memory policy key) fun reservation => ?_
  exact (Action.Moves.read _).bind fun word => (gains_onLayout _).bind fun _ => gains_onLayout _

theorem gains_erase (policy : Policy) (key : Bytes) :
    (erase policy key : Action (Chains L) Unit).Moves (Gains 0) := by
  rw [erase]
  refine (Action.Moves.read _).bind fun slot? => ?_
  rcases slot? with _ | slot
  · exact .pure ()
  · exact (Action.Moves.read _).bind fun word => (gains_onLayout _).bind fun _ => gains_countDown

theorem gains_assign (slot : Slot) (value : Bytes) :
    (assign slot value : Action (Chains L) Unit).Moves (Gains 0) := by
  rw [assign]
  refine (Action.Moves.read _).bind fun word? => ?_
  rcases word? with _ | word
  · exact .note _
  · exact (gains_onLayout _).bind fun _ => gains_onLayout _

theorem gains_discard (slot : Slot) :
    (discard slot : Action (Chains L) Unit).Moves (Gains 0) := by
  rw [discard]
  refine (Action.Moves.read _).bind fun word? => ?_
  rcases word? with _ | word
  · exact .note _
  · exact (gains_onLayout _).bind fun _ => gains_countDown

theorem gains_rehashByRebuild (memory : Memory) (policy : Policy) (bucketCount : Nat) :
    (KeyedStorage.rehashByRebuild memory policy bucketCount : Action (Chains L) Unit).Moves
      (Gains 0) := by
  intro chains
  have hmoves : (KeyedStorage.rebuild memory chains policy bucketCount : Action (Chains L) _).Moves
      (Gains 0) := KeyedStorage.moves_rebuild memory chains policy bucketCount
  have hanswers : (KeyedStorage.rebuild memory chains policy bucketCount :
      Action (Chains L) _).Answers fun fresh => fresh.size = chains.size :=
    KeyedStorage.answers_rebuild memory chains policy bucketCount
  rw [KeyedStorage.run_rehashByRebuild_eq, Action.run_bind]
  have hsame := hmoves chains
  have hsize := hanswers chains
  generalize (KeyedStorage.rebuild memory chains policy bucketCount).run chains = outcome
    at hsame hsize
  obtain ⟨cause | fresh, chains', log⟩ := outcome
  · exact hsame
  · exact Nat.le_of_eq (hsize fresh rfl)

/-- Changing the number of buckets adds no key. -/
theorem gains_rehash (memory : Memory) (policy : Policy) (bucketCount : Nat) :
    (rehash memory policy bucketCount : Action (Chains L) Unit).Moves (Gains 0) := by
  rw [rehash]
  by_cases hpos : bucketCount < 1
  · rw [if_pos hpos]
    exact fun chains => Nat.le_refl chains.size
  rw [if_neg hpos]
  rcases (Layout.redistribute? : Option (Memory → Policy → Nat → Action L Unit)) with
    _ | redistribute
  · exact (Action.Moves.note _).bind fun _ => gains_rehashByRebuild memory policy bucketCount
  · intro chains
    obtain ⟨log, hrun⟩ := Action.run_andNote (onLayout (redistribute memory policy bucketCount))
      (.movedInPlace bucketCount) chains
    show Gains 0 chains (((onLayout (redistribute memory policy bucketCount)).andNote
      (.movedInPlace bucketCount)).run chains).state
    rw [hrun]
    exact gains_onLayout _ chains

end Chains

/-! ## Tables -/

namespace Table

variable {L : Type} [Layout L]

/-- Whether the number of buckets is the same, and at most so many more keys are live. -/
structure Gains (count : Nat) (table table' : Table (Chains L)) : Prop where
  bucketCount_eq : table'.bucketCount = table.bucketCount
  size_le : table'.size ≤ table.size + count

instance (count : Nat) : Std.Refl (Gains (L := L) count) :=
  ⟨fun table => ⟨rfl, Nat.le_add_right table.size count⟩⟩

theorem gains_onStorage {α : Type} {count : Nat} {act : Policy → Action (Chains L) α}
    (h : ∀ policy, (act policy).Moves (Chains.Gains count)) :
    (onStorage act).Moves (Gains count) :=
  fun table => ⟨rfl, h table.policy table.storage⟩

instance : IsTrans (Table (Chains L)) (Gains 0) :=
  ⟨fun _ _ _ h h' =>
    ⟨h'.bucketCount_eq.trans h.bucketCount_eq, Nat.le_trans h'.size_le h.size_le⟩⟩

theorem gains_insert (memory : Memory) (key value : Bytes) :
    (insert memory key value : Action (Table (Chains L)) Unit).Moves (Gains 1) := by
  rw [insert]
  intro table
  refine Action.Moves.read_bind_at fun _ _ => Action.Moves.read_bind_at fun _ _ => ?_
  exact gains_onStorage (fun policy => Chains.gains_insert memory policy key value) table

theorem gains_reserve (memory : Memory) (key : Bytes) :
    (reserve memory key : Action (Table (Chains L)) (Option Handle × Bool)).Moves (Gains 1) := by
  rw [reserve]
  intro table
  refine Action.Moves.read_bind_at fun _ _ => ?_
  have hreserve := gains_onStorage fun policy => Chains.gains_reserve (L := L) memory policy key
  refine hreserve.append (Q := Gains 0) (fun reservation => ?_) ?_ ?_ table
  · exact (Action.Moves.read _).bind fun bucketCount =>
      (Handle.moves_pack bucketCount reservation.slot).bind fun handle? => .pure _
  · exact fun _ _ h => h
  · exact fun _ _ _ h h' =>
      ⟨h'.bucketCount_eq.trans h.bucketCount_eq, Nat.le_trans h'.size_le h.size_le⟩

/-- A rehash changes the number of buckets to the new one, or it fails and leaves the old one. -/
theorem exists_run_rehash {bucketCount : Nat} (hpos : 0 < bucketCount) (memory : Memory)
    (table : Table (Chains L)) :
    ∃ answer table' log, (rehash memory bucketCount).run table = ⟨answer, table', log⟩ ∧
      table'.size ≤ table.size ∧
      (table'.bucketCount = bucketCount ∨
        table'.bucketCount = table.bucketCount ∧ ∃ cause, answer = .error cause) := by
  have hgains : ((Storage.rehash memory table.policy bucketCount).run table.storage).state.size ≤
      table.storage.size := Chains.gains_rehash memory table.policy bucketCount table.storage
  generalize hrun : (Storage.rehash memory table.policy bucketCount).run table.storage = outcome
    at hgains
  obtain ⟨cause | _, storage, log⟩ := outcome
  · obtain ⟨log', hrehash⟩ := run_rehash_of_error hpos hrun
    exact ⟨_, _, _, hrehash, hgains, .inr ⟨rfl, cause, rfl⟩⟩
  · rw [rehash, if_neg (Nat.not_lt.mpr hpos), Action.run_read_bind, Action.andThen_answer_ok,
      Action.run_read_bind, Action.andThen_answer_ok, Action.run_bind, Action.run_note,
      Outcome.andThen, Action.run_bind, run_onStorage, hrun, Outcome.andThen, Action.run_bind,
      Action.run_modify, Outcome.andThen_ok]
    refine ⟨_, _, _, rfl, ?_, .inl ?_⟩
    · rw [Action.state_run_read]
      exact hgains
    · rw [Action.state_run_read]

end Table

/-- Setting and reserving a key add one key at most, the other operations none, and none of them
changes the number of buckets but a rehash. -/
theorem Operation.gains_perform {L : Type} [Layout L] {op : Operation}
    (hop : ∀ bucketCount, op ≠ .rehash bucketCount) (memory : Memory) :
    (op.perform memory : Action (Table (Chains L)) Reply).Moves
      (Table.Gains (if op.mayGrow then 1 else 0)) := by
  cases op with
  | insert key value =>
    intro table
    rw [state_run_perform (perform_insert memory key value)]
    exact Table.gains_insert memory key value table
  | reserve key =>
    intro table
    rw [state_run_perform (perform_reserve memory key)]
    exact Table.gains_reserve memory key table
  | erase key =>
    show Action.Moves (Table.Gains 0) _
    refine Action.Moves.bind ?_ fun _ => .pure _
    refine (Action.Moves.read _).bind fun _ => Table.gains_onStorage fun policy => ?_
    exact Chains.gains_erase policy key
  | assign handle value =>
    show Action.Moves (Table.Gains 0) _
    refine Action.Moves.bind ?_ fun _ => .pure _
    refine (Action.Moves.read _).bind fun _ => (Action.Moves.read _).bind fun slot => ?_
    exact Table.gains_onStorage fun _ => Chains.gains_assign slot value
  | discard handle =>
    show Action.Moves (Table.Gains 0) _
    refine Action.Moves.bind ?_ fun _ => .pure _
    refine (Action.Moves.read _).bind fun slot => ?_
    exact Table.gains_onStorage fun _ => Chains.gains_discard slot
  | rehash bucketCount => exact absurd rfl (hop bucketCount)
  | get _ | find _ | isWritten _ | keyOf _ | valueOf _ | size | loadFactor | keys | values | pairs _
    | walk _ _ => exact moves_perform_of_reads (R := Table.Gains 0) rfl memory

/-! ## The storage's count -/

section

variable {kind : LayoutKind} {table table' : Table (Chains kind.Store)}

/-- Whether the table counts the buckets that its storage has. -/
def Table.InSync (table : Table (Chains kind.Store)) : Prop :=
  SlotStorage.bucketCount table.storage = table.bucketCount

theorem Table.Shows.inSync {policy : Policy} {bs : Buckets} (h : table.Shows policy bs) :
    table.InSync :=
  (LawfulSlotStorage.bucketCount_eq h.storage).trans h.bucketCount_eq.symm

theorem Table.InSync.of_opens (h : table.InSync) (hopens : table.Opens table') : table'.InSync := by
  have hstorage : SlotStorage.bucketCount table'.storage = SlotStorage.bucketCount table.storage :=
    hopens.layout.bucketCount_eq
  rw [InSync, hstorage, hopens.bucketCount_eq]
  exact h

theorem Table.InSync.rehash (h : table.InSync) (memory : Memory) (bucketCount : Nat) :
    ((rehash memory bucketCount).run table).state.InSync := by
  rcases swaps_rehash memory bucketCount table with ⟨_, -, hcount, hstorage⟩ | ⟨_, -, hsame⟩
  · exact hstorage.trans hcount.symm
  · rw [hsame]
    exact h

/-- No operation lets the two counts come apart, whether it answers, fails or crashes. -/
theorem Table.InSync.perform (h : table.InSync) (memory : Memory) (op : Operation) :
    ((op.perform memory).run table).state.InSync := by
  by_cases hop : ∃ bucketCount, op = .rehash bucketCount
  · obtain ⟨bucketCount, rfl⟩ := hop
    rw [Operation.state_run_perform rfl]
    exact h.rehash memory bucketCount
  · refine h.of_opens (Operation.moves_perform (fun bucketCount hrehash => ?_) memory table)
    exact hop ⟨bucketCount, hrehash⟩

end

end ByteTable
