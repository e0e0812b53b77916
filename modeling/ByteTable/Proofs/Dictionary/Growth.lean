import ByteTable.Proofs.Single
import ByteTable.Proofs.Table.Gains

/-!
# How full a dictionary gets

Along every run, steps that fail or crash included, the number of buckets goes up the list of sizes,
one entry at a time and only before a key is set or reserved, and there is never more than one key
above the threshold of three keys to four buckets (`Dictionary.inPace_after`).

The bound is kept by growing once before every insertion, since the next size is larger by two
buckets at least (`Growth.next_cases`).  It does not matter that the load factor is rounded, as
rounding does not pass the threshold (`Growth.lt_of_lt_threshold`); only beyond `2 ^ 24` buckets are
the counts themselves rounded in the wrong direction.  A growth that no insertion follows, because
it fails, because the key is refused, or because the table crashes, only makes room.
-/

namespace ByteTable

/-! ## Sizes -/

namespace Growth

/-- The next size is the next entry, and larger by two at least; the last size stays. -/
theorem next_cases {i bucketCount : Nat} (h : sizes[i]? = some bucketCount) :
    (sizes[i + 1]? = some (next bucketCount) ∧ bucketCount + 2 ≤ next bucketCount) ∨
      (next bucketCount = bucketCount ∧ 2 ^ 24 < bucketCount) := by
  have hall : ∀ i : Fin sizes.size,
      (sizes[i.val + 1]? = some (next sizes[i]) ∧ sizes[i] + 2 ≤ next sizes[i]) ∨
        (next sizes[i] = sizes[i] ∧ 2 ^ 24 < sizes[i]) := by
    decide +kernel
  obtain ⟨hlt, rfl⟩ := Array.getElem?_eq_some_iff.mp h
  exact hall ⟨i, hlt⟩

theorem pos_of_entry {i bucketCount : Nat} (h : sizes[i]? = some bucketCount) :
    0 < bucketCount := by
  have hall : ∀ i : Fin sizes.size, 0 < sizes[i] := by decide +kernel
  obtain ⟨hlt, rfl⟩ := Array.getElem?_eq_some_iff.mp h
  exact hall ⟨i, hlt⟩

theorem value_threshold : threshold.value = 3 / 4 := by
  rw [threshold, Single.value]
  norm_num

/-- A load factor below the threshold is that of a table that is less than three quarters full. -/
theorem lt_of_lt_threshold {size bucketCount : Nat} (hpos : 0 < bucketCount)
    (hcount : bucketCount ≤ 2 ^ 24)
    (h : ((Single.ofNat size).div (Single.ofNat bucketCount)).lt threshold = true) :
    4 * size < 3 * bucketCount := by
  by_contra hfull
  have hbuckets : (Single.ofNat bucketCount).value = bucketCount := Single.value_ofNat hcount
  have hpos' : (0 : ℚ) < bucketCount := by exact_mod_cast hpos
  have hsize : 3 / 4 * (bucketCount : ℚ) ≤ (Single.ofNat size).value := by
    rcases le_total size (2 ^ 24) with hfew | hmany
    · rw [Single.value_ofNat hfew]
      have hcast : (3 : ℚ) * bucketCount ≤ 4 * size := by exact_mod_cast Nat.le_of_not_lt hfull
      linarith
    · have hlarge := Single.le_value_ofNat le_rfl hmany
      have hcast : (bucketCount : ℚ) ≤ ((2 ^ 24 : Nat) : ℚ) := by exact_mod_cast hcount
      linarith
  have hquotient : ((0xc00000 : Nat) : ℚ) * 2 ^ (-24 : ℤ) ≤
      (Single.ofNat size).value / (Single.ofNat bucketCount).value := by
    rw [hbuckets, le_div_iff₀ hpos']
    refine le_trans (le_of_eq ?_) hsize
    norm_num
  have hload := Single.le_value_div (hbuckets.symm ▸ hpos') (by norm_num) hquotient
  rw [Single.lt_iff, value_threshold] at h
  norm_num at hload
  linarith

end Growth

/-- The entry of the list of sizes that a hint picks. -/
def SizeHint.entry : SizeHint → Nat
  | .small => 0
  | .medium => 7
  | .large => 12

theorem SizeHint.sizes_entry (hint : SizeHint) :
    Growth.sizes[hint.entry]? = some hint.bucketCount := by
  cases hint <;> rfl

namespace Dictionary

/-! ## Growing -/

section

variable {L : Type} [Layout L] {start : Nat} {table table' : Table (Chains L)}

/-- Whether a table has one of the sizes from an entry of the list on, and at most one key above the
threshold.  The threshold is not kept beyond `2 ^ 24` buckets. -/
structure InPace (start : Nat) (table : Table (Chains L)) : Prop where
  exists_entry : ∃ i, start ≤ i ∧ Growth.sizes[i]? = some table.bucketCount
  few : table.bucketCount ≤ 2 ^ 24 → table.size = 0 ∨ 4 * (table.size - 1) < 3 * table.bucketCount

/-- Whether a table is below the threshold. -/
def HasRoom (table : Table (Chains L)) : Prop :=
  table.bucketCount ≤ 2 ^ 24 → 4 * table.size < 3 * table.bucketCount

/-- Whether a number of buckets is still the same, or has become the next one of the list. -/
def StepsUp (bucketCount bucketCount' : Nat) : Prop :=
  bucketCount' = bucketCount ∨
    ∃ i, Growth.sizes[i]? = some bucketCount ∧ Growth.sizes[i + 1]? = some bucketCount'

theorem InPace.of_gains (h : InPace start table) (hgains : table.Gains 0 table') :
    InPace start table' := by
  have hsize := hgains.size_le
  constructor
  · rw [hgains.bucketCount_eq]
    exact h.exists_entry
  · intro hcount
    rw [hgains.bucketCount_eq] at hcount ⊢
    rcases h.few hcount with hnone | hfew
    · left
      omega
    · right
      omega

/-- One key may be added to a table that is below the threshold. -/
theorem InPace.of_gains_one (h : InPace start table) (hroom : HasRoom table)
    (hgains : table.Gains 1 table') : InPace start table' := by
  have hsize := hgains.size_le
  constructor
  · rw [hgains.bucketCount_eq]
    exact h.exists_entry
  · intro hcount
    rw [hgains.bucketCount_eq] at hcount ⊢
    have hless := hroom hcount
    right
    omega

/-- The next size makes room for the one key that may have been too many. -/
theorem InPace.of_next (h : InPace start table)
    (hnext : Growth.next table.bucketCount ≠ table.bucketCount)
    (hcount : table'.bucketCount = Growth.next table.bucketCount)
    (hsize : table'.size ≤ table.size) :
    InPace start table' ∧ HasRoom table' ∧ StepsUp table.bucketCount table'.bucketCount := by
  obtain ⟨i, hi, hentry⟩ := h.exists_entry
  obtain ⟨hsucc, hlarger⟩ := (Growth.next_cases hentry).resolve_right fun hlast => hnext hlast.1
  have hroom : HasRoom table' := by
    intro hsmall
    have hfew := h.few (by omega)
    omega
  refine ⟨⟨⟨i + 1, by omega, hcount ▸ hsucc⟩, fun hsmall => ?_⟩, hroom,
    .inr ⟨i, hentry, hcount ▸ hsucc⟩⟩
  have hless := hroom hsmall
  right
  omega

/-- A table that need not grow is below the threshold, one that cannot has too many buckets for
it. -/
theorem InPace.hasRoom (h : InPace start table) (hsettled : Settled table) : HasRoom table := by
  obtain ⟨i, -, hentry⟩ := h.exists_entry
  intro hcount
  rcases hsettled with hload | hlast
  · exact Growth.lt_of_lt_threshold (Growth.pos_of_entry hentry) hcount hload
  · rcases Growth.next_cases hentry with ⟨-, hlarger⟩ | ⟨-, hmany⟩
    · omega
    · omega

theorem InPace.growIfNeeded (h : InPace start table) (memory : Memory) :
    InPace start ((growIfNeeded memory).run table).state ∧
      StepsUp table.bucketCount ((growIfNeeded memory).run table).state.bucketCount ∧
      (((growIfNeeded memory).run table).answer = .ok () →
        HasRoom ((growIfNeeded memory).run table).state) := by
  by_cases hsettled : Settled table
  · obtain ⟨log, hrun⟩ := run_growIfNeeded_of_settled hsettled memory
    rw [hrun]
    exact ⟨h, .inl rfl, fun _ => h.hasRoom hsettled⟩
  · obtain ⟨log, hrun⟩ := run_growIfNeeded_of_not_settled hsettled memory
    have hnext := (not_or.mp hsettled).2
    have hpos : 0 < Growth.next table.bucketCount := Nat.zero_lt_of_lt (Growth.lt_next_of_ne hnext)
    obtain ⟨answer, table', log', hrehash, hsize, hcount | ⟨hcount, cause, hfailed⟩⟩ :=
      Table.exists_run_rehash hpos memory table
    · obtain ⟨hpace, hroom, hsteps⟩ := h.of_next hnext hcount hsize
      rw [hrun, hrehash]
      exact ⟨hpace, hsteps, fun _ => hroom⟩
    · rw [hrun, hrehash]
      refine ⟨h.of_gains ⟨hcount, hsize⟩, .inl hcount, fun hanswer => ?_⟩
      rw [hfailed] at hanswer
      cases hanswer

/-- Operations other than a rehash keep a table's number of buckets, and its pace with room for one
key more. -/
theorem InPace.perform (h : InPace start table) {op : Operation}
    (hroom : op.mayGrow = true → HasRoom table) (hop : ∀ bucketCount, op ≠ .rehash bucketCount)
    (memory : Memory) :
    InPace start ((op.perform memory).run table).state ∧
      ((op.perform memory).run table).state.bucketCount = table.bucketCount := by
  have hgains := Operation.gains_perform hop memory table
  refine ⟨?_, hgains.bucketCount_eq⟩
  by_cases hgrow : op.mayGrow
  · rw [if_pos hgrow] at hgains
    exact h.of_gains_one (hroom hgrow) hgains
  · rw [if_neg hgrow] at hgains
    exact h.of_gains hgains

end

/-! ## Runs -/

variable {kind : LayoutKind} {start : Nat} {dictionary : Dictionary (Chains kind.Store)}

/-- What a run of operations leaves of a dictionary, each with the memory that there is for it. -/
def after (dictionary : Dictionary (Chains kind.Store)) (run : List (Memory × Operation)) :
    Dictionary (Chains kind.Store) :=
  run.foldl (fun dictionary step => ((perform step.1 step.2).run dictionary).state) dictionary

theorem inPace_perform (h : InPace start dictionary.table) {op : Operation}
    (hop : ∀ bucketCount, op ≠ .rehash bucketCount) (memory : Memory) :
    InPace start ((perform memory op).run dictionary).state.table ∧
      StepsUp dictionary.table.bucketCount
        ((perform memory op).run dictionary).state.table.bucketCount ∧
      (op.mayGrow = false → ((perform memory op).run dictionary).state.table.bucketCount =
        dictionary.table.bucketCount) := by
  rw [perform_eq, table_run_onTable, prepare]
  by_cases hgrow : op.mayGrow
  · obtain ⟨hpace, hsteps, hroom⟩ := h.growIfNeeded memory
    rw [if_pos hgrow, Action.run_bind]
    generalize (growIfNeeded memory).run dictionary.table = outcome at hpace hsteps hroom
    obtain ⟨cause | _, table, log⟩ := outcome
    · refine ⟨hpace, hsteps, fun hstays => ?_⟩
      rw [hgrow] at hstays
      cases hstays
    · obtain ⟨hpace', hcount⟩ := hpace.perform (fun _ => hroom rfl) hop memory
      refine ⟨hpace', ?_, fun hstays => ?_⟩
      · show StepsUp _ ((op.perform memory).run table).state.bucketCount
        rw [hcount]
        exact hsteps
      · rw [hgrow] at hstays
        cases hstays
  · obtain ⟨hpace, hcount⟩ := h.perform (fun hgrow' => absurd hgrow' hgrow) hop memory
    rw [if_neg hgrow, pure_bind]
    exact ⟨hpace, .inl hcount, fun _ => hcount⟩

theorem inPace_after (h : InPace start dictionary.table) {run : List (Memory × Operation)}
    (hrun : ∀ step ∈ run, ∀ bucketCount, step.2 ≠ .rehash bucketCount) :
    InPace start (dictionary.after run).table := by
  induction run generalizing dictionary with
  | nil => exact h
  | cons step run ih =>
    obtain ⟨hstep, hrest⟩ := List.forall_mem_cons.mp hrun
    exact ih (inPace_perform h hstep step.1).1 hrest

/-- Neither growing nor what follows lets the table's count of buckets differ from the storage's. -/
theorem inSync_perform (h : dictionary.table.InSync) (memory : Memory) (op : Operation) :
    ((perform memory op).run dictionary).state.table.InSync := by
  rw [perform_eq, table_run_onTable, prepare]
  by_cases hgrow : op.mayGrow
  · have hgrown : ((growIfNeeded memory).run dictionary.table).state.InSync := by
      by_cases hsettled : Settled dictionary.table
      · obtain ⟨log, hrun⟩ := run_growIfNeeded_of_settled hsettled memory
        rw [hrun]
        exact h
      · obtain ⟨log, hrun⟩ := run_growIfNeeded_of_not_settled hsettled memory
        rw [hrun]
        exact h.rehash memory _
    rw [if_pos hgrow, Action.run_bind]
    generalize (growIfNeeded memory).run dictionary.table = outcome at hgrown
    obtain ⟨cause | _, table, log⟩ := outcome
    · exact hgrown
    · exact hgrown.perform memory op
  · rw [if_neg hgrow, pure_bind]
    exact h.perform memory op

theorem inSync_after (h : dictionary.table.InSync) (run : List (Memory × Operation)) :
    (dictionary.after run).table.InSync := by
  induction run generalizing dictionary with
  | nil => exact h
  | cons step run ih => exact ih (inSync_perform h step.1 step.2)

/-- A new dictionary has the size that its hint picks, and no key. -/
theorem inPace_of_run_create {memory : Memory} {policy : Policy} {hint : SizeHint}
    {log : List Event}
    (h : (create memory policy hint : Action Unit (Dictionary (Chains kind.Store))).run () =
      ⟨.ok dictionary, (), log⟩) : InPace hint.entry dictionary.table := by
  have hshows := Table.shows_of_run_create (run_table_create h)
  have hcount : dictionary.table.bucketCount = hint.bucketCount := by
    rw [hshows.bucketCount_eq, Buckets.length_empty]
  have hsize : dictionary.table.size = 0 := by
    exact hshows.chains.size_eq.trans (Buckets.liveCount_empty _)
  constructor
  · exact ⟨hint.entry, le_rfl, hcount ▸ hint.sizes_entry⟩
  · exact fun _ => .inl hsize

/-- Whatever has been done with a dictionary, it has one of the sizes from its hint's on, and at
most one key above the threshold of three keys to four buckets; its storage has just as many
buckets.  What is done next leaves the number of buckets as it is, but setting or reserving a key
may lead to the next size of the list. -/
theorem inPace_after_create {policy : Policy} {hint : SizeHint} {memory : Memory} {log : List Event}
    (hcreate : (create memory policy hint : Action Unit (Dictionary (Chains kind.Store))).run () =
      ⟨.ok dictionary, (), log⟩)
    {run : List (Memory × Operation)}
    (hrun : ∀ step ∈ run, ∀ bucketCount, step.2 ≠ .rehash bucketCount) :
    InPace hint.entry (dictionary.after run).table ∧ (dictionary.after run).table.InSync ∧
      ∀ memory op, (∀ bucketCount, op ≠ .rehash bucketCount) →
        StepsUp (dictionary.after run).table.bucketCount
            ((perform memory op).run (dictionary.after run)).state.table.bucketCount ∧
          (op.mayGrow = false →
            ((perform memory op).run (dictionary.after run)).state.table.bucketCount =
              (dictionary.after run).table.bucketCount) := by
  have hpace := inPace_after (inPace_of_run_create hcreate) hrun
  have hnew : dictionary.table.InSync :=
    (Table.shows_of_run_create (run_table_create hcreate)).inSync
  exact ⟨hpace, inSync_after hnew run, fun memory op hop => (inPace_perform hpace hop memory).2⟩

/-- A dictionary of three buckets gets three keys.  Growing for a fourth one is refused; a key of
the wrong length is refused too, but after growing to six buckets, where the fourth key and a
removal follow. -/
theorem inPace_after_create_of_one_growth :
    ∃ dictionary : Dictionary (Chains LayoutKind.fullySeparated.Store), ∃ run log,
      (create Memory.full (.standard 1 1) .small : Action Unit _).run () =
          ⟨.ok dictionary, (), log⟩ ∧
        run.map Prod.snd = [.reserve [1], .insert [2] [9], .reserve [3], .reserve [4], .reserve [],
          .reserve [4], .erase [2]] ∧
        (dictionary.after run).table.bucketCount = 6 ∧
        InPace 0 (dictionary.after run).table ∧ (dictionary.after run).table.InSync ∧
        StepsUp 6 ((perform Memory.full (.insert [5] [9])).run
          (dictionary.after run)).state.table.bucketCount := by
  obtain ⟨dictionary, run, log, hcreate, hops, hrun, hcount⟩ :
      ∃ dictionary : Dictionary (Chains LayoutKind.fullySeparated.Store), ∃ run log,
        (create Memory.full (.standard 1 1) .small : Action Unit _).run () =
            ⟨.ok dictionary, (), log⟩ ∧
          run.map Prod.snd = [.reserve [1], .insert [2] [9], .reserve [3], .reserve [4],
            .reserve [], .reserve [4], .erase [2]] ∧
          (∀ step ∈ run, ∀ bucketCount, step.2 ≠ .rehash bucketCount) ∧
          (dictionary.after run).table.bucketCount = 6 := by
    refine ⟨_, [(Memory.full, .reserve [1]), (Memory.full, .insert [2] [9]),
      (Memory.full, .reserve [3]), (⟨fun _ => 0, fun _ => Nat.zero_le _⟩, .reserve [4]),
      (Memory.full, .reserve []), (Memory.full, .reserve [4]), (Memory.full, .erase [2])], _,
      rfl, rfl, ?_, ?_⟩
    · simp
    · decide +kernel
  obtain ⟨hpace, hsync, hnext⟩ := inPace_after_create hcreate hrun
  have hgrown := (hnext Memory.full (.insert [5] [9]) fun _ hsame => by cases hsame).1
  rw [hcount] at hgrown
  exact ⟨dictionary, run, log, hcreate, hops, hcount, hpace, hsync, hgrown⟩

end Dictionary

end ByteTable
