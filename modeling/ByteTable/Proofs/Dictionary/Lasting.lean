import ByteTable.Proofs.Dictionary.Operation
import ByteTable.Proofs.Table.Lasting

/-!
# Handles of a dictionary

A dictionary that grows moves its keys, and then no handle serves any more.  It never comes to have
fewer buckets, so one that has as many as before has not grown in between; and what has not grown
has done nothing but operations of its table.  The handle of a key then lasts as it does in a table.

The dictionary may grow for a key that it has.  Reserving the key answers with its handle if growing
is not due, and otherwise leaves more buckets or is refused memory.
-/

namespace ByteTable

namespace Buckets

variable {policy : Policy} {bs bs' : Buckets} {key : Bytes}

/-- Buckets with the same live records hold the same values. -/
theorem Keyed.get?_congr (h : bs.Keyed policy) (h' : bs'.Keyed policy)
    (hrecords : bs'.liveRecords.Perm bs.liveRecords) (hkey : key.length = policy.keySize) :
    bs'.get? policy key = bs.get? policy key := by
  have hentries : bs.entries.Perm bs'.entries := hrecords.symm.map SlotRecord.entry
  rw [← h.get?_eq (.refl _) hkey, ← h'.get?_eq hentries hkey]

end Buckets

namespace Dictionary

/-! ## One operation and many -/

section

variable {β : Type} [Storage β] [LawfulStorage β] {policy : Policy} {bs : Buckets}
  {dictionary : Dictionary β} {key : Bytes} {handle : Handle} {op : Operation}

/-- After an operation that lets the key keep its slot a dictionary has more buckets, or the key is
still there. -/
theorem exists_binds_perform (h : dictionary.table.Shows policy bs) (hkeyed : bs.Keyed policy)
    (hroom : bs.liveCount + 1 < wordLimit) (memory : Memory) (hop : op.Respects policy key handle) :
    ∃ bs', ((perform memory op).run dictionary).state.table.Shows policy bs' ∧ bs'.Keyed policy ∧
      bs.length ≤ bs'.length ∧
      (bs'.length = bs.length → ∀ {stored value?}, bs.Binds policy handle key stored value? →
        bs'.Binds policy handle key stored (Operation.valueAfter policy key handle value?
          (op, ((perform memory op).run dictionary).answer))) := by
  have hgrows := h.grows_prepare hkeyed memory op
  rw [perform_eq, table_run_onTable, answer_run_onTable, Action.run_bind]
  generalize (prepare memory op).run dictionary.table = outcome at hgrows
  cases hgrows with
  | unchanged hshows =>
    obtain ⟨bs', hshows', hkeyed', hlength, hbinds⟩ := (op.run_perform hshows memory).exists_binds
      hkeyed (LawfulSlotStorage.length_lt hshows.storage) hroom hop
    exact ⟨bs', hshows', hkeyed', hlength.ge, fun _ => hbinds⟩
  | @grown table bs' log hshows hkeyed' hlarger hrecords =>
    rw [Buckets.liveCount_eq_length, ← hrecords.length_eq, ← Buckets.liveCount_eq_length] at hroom
    obtain ⟨bs'', hshows'', hkeyed'', hlength, -⟩ := (op.run_perform hshows memory).exists_binds
      hkeyed' (LawfulSlotStorage.length_lt hshows.storage) hroom hop
    exact ⟨bs'', hshows'', hkeyed'', by omega, fun hsame => by omega⟩
  | refused hshows =>
    refine ⟨bs, hshows, hkeyed, Nat.le_refl _, fun _ _ _ hbinds => ?_⟩
    rwa [Outcome.andThen, Operation.valueAfter_error]
  | oversized _ hshows =>
    refine ⟨bs, hshows, hkeyed, Nat.le_refl _, fun _ _ _ hbinds => ?_⟩
    rwa [Outcome.andThen, Operation.valueAfter_error]

theorem exists_binds_of_leads {dictionary' : Dictionary β}
    {trace : List (Operation × Except Failure Reply)}
    (h : Leads (wordLimit - 1) size perform (Operation.Respects policy key handle) dictionary trace
      dictionary')
    (hshows : dictionary.table.Shows policy bs) (hkeyed : bs.Keyed policy) :
    ∃ bs', dictionary'.table.Shows policy bs' ∧ bs'.Keyed policy ∧ bs.length ≤ bs'.length ∧
      (bs'.length = bs.length → ∀ {stored value?}, bs.Binds policy handle key stored value? →
        bs'.Binds policy handle key stored
          (Operation.lastWritten policy key handle value? trace)) := by
  induction h with
  | start => exact ⟨bs, hshows, hkeyed, Nat.le_refl _, fun _ => id⟩
  | @step dictionary' _ _ hroom memory op hop ih =>
    obtain ⟨bs', hshows', hkeyed', hlength, hbinds⟩ := ih
    have hsize : dictionary'.size = bs'.liveCount := LawfulSlotStorage.size_eq hshows'.storage
    have hroom' : bs'.liveCount + 1 < wordLimit := hsize ▸ Nat.add_lt_of_lt_sub hroom
    obtain ⟨bs'', hshows'', hkeyed'', hlength', hstep⟩ :=
      exists_binds_perform hshows' hkeyed' hroom' memory hop
    refine ⟨bs'', hshows'', hkeyed'', Nat.le_trans hlength hlength', fun hsame _ _ hbound => ?_⟩
    rw [Operation.lastWritten, List.foldl_append]
    exact hstep (by omega) (hbinds (by omega) hbound)

/-- The handle that a dictionary answers with is made after it has grown. -/
theorem exists_binds_of_obtains (h : dictionary.table.Shows policy bs) (hkeyed : bs.Keyed policy)
    (hkey : key.length = policy.keySize) {memory : Memory}
    (hobtains : Obtains key handle op ((perform memory op).run dictionary).answer) :
    ∃ bs' stored, ((perform memory op).run dictionary).state.table.Shows policy bs' ∧
      policy.keysEqual key stored = true ∧
      bs'.Binds policy handle key stored (bs.get? policy key) := by
  have hgrows := h.grows_prepare hkeyed memory op
  rw [perform_eq, answer_run_onTable, Action.run_bind] at hobtains
  rw [perform_eq, table_run_onTable, Action.run_bind]
  generalize (prepare memory op).run dictionary.table = outcome at hgrows hobtains ⊢
  cases hgrows with
  | unchanged hshows =>
    obtain ⟨bs', stored, hshows', -, hequal, hbinds⟩ :=
      (op.run_perform hshows memory).exists_binds_of_obtains hkeyed
        (LawfulSlotStorage.length_lt hshows.storage) hkey hobtains
    exact ⟨bs', stored, hshows', hequal, hbinds⟩
  | grown hshows hkeyed' _ hrecords =>
    obtain ⟨bs', stored, hshows', -, hequal, hbinds⟩ :=
      (op.run_perform hshows memory).exists_binds_of_obtains hkeyed'
        (LawfulSlotStorage.length_lt hshows.storage) hkey hobtains
    rw [hkeyed.get?_congr hkeyed' hrecords hkey] at hbinds
    exact ⟨bs', stored, hshows', hequal, hbinds⟩
  | refused _ => cases hobtains
  | oversized _ _ => cases hobtains

end

/-! ## What is seen of it -/

variable {kind : LayoutKind} {policy : Policy} {bs : Buckets}
  {dictionary : Dictionary (Chains kind.Store)} {handle : Handle} {key stored : Bytes}
  {value? : Option Bytes}

/-- What a dictionary shows of a key that a handle stands for. -/
structure Binds (dictionary : Dictionary (Chains kind.Store)) (handle : Handle) (key stored : Bytes)
    (value? : Option Bytes) : Prop where
  keyOf?_eq : dictionary.keyOf? handle = .ok (some stored)
  valueOf?_eq : dictionary.valueOf? handle = .ok value?
  get?_eq : dictionary.get? key = .ok value?
  answer_find? : ((find? key).run dictionary).answer = .ok (some handle)
  /-- The key is found if growing is not due. -/
  answer_reserve (memory : Memory) : Settled dictionary.table →
    ((reserve memory key).run dictionary).answer = .ok (some handle, false)
  /-- If it is due, the number of buckets stays the same only for want of memory. -/
  answer_reserve_of_eq (memory : Memory) :
    ((reserve memory key).run dictionary).state.table.bucketCount = dictionary.table.bucketCount →
      ((reserve memory key).run dictionary).answer = .ok (some handle, false) ∨
        ((reserve memory key).run dictionary).answer = .error (.error .allocation)

theorem binds_of_shows (h : dictionary.table.Shows policy bs)
    (hbinds : bs.Binds policy handle key stored value?) :
    dictionary.Binds handle key stored value? := by
  have htable := h.binds hbinds
  constructor
  · exact htable.keyOf?_eq
  · exact htable.valueOf?_eq
  · exact htable.get?_eq
  · exact htable.answer_find?
  · intro memory hsettled
    obtain ⟨log, hrun⟩ := run_growIfNeeded_of_settled hsettled memory
    rw [reserve, answer_run_onTable, Action.run_bind, hrun, Outcome.andThen]
    exact htable.answer_reserve memory
  · intro memory hsame
    have hgrows := h.grows hbinds.keyed memory
    rw [reserve, table_run_onTable, Action.run_bind, h.bucketCount_eq] at hsame
    rw [reserve, answer_run_onTable, Action.run_bind]
    obtain ⟨record, hmarks, -, -⟩ := hbinds.exists_marks
    generalize (growIfNeeded memory).run dictionary.table = outcome at hgrows hsame
    cases hgrows with
    | unchanged hshows => exact .inl ((hshows.binds hbinds).answer_reserve memory)
    | grown hshows hkeyed' hlarger hrecords =>
      -- The key is in some slot again, so that reserving it leaves the larger number of buckets.
      have hmem := hrecords.mem_iff.mpr (Buckets.mem_liveRecords_iff.mpr ⟨_, hmarks.live?_eq⟩)
      have hlookup :=
        (hkeyed'.lookup_eq_some_iff hbinds.length_key).mpr ⟨hmem, hmarks.keysEqual⟩
      obtain ⟨slot, hlocate, -⟩ := Option.bind_eq_some_iff.mp hlookup
      obtain ⟨log, hrun⟩ := hshows.run_reserve_of_eq_some hbinds.length_key hlocate memory
      rw [Outcome.andThen, hrun, hshows.bucketCount_eq] at hsame
      omega
    | refused _ => exact .inr rfl
    | oversized hsize _ =>
      have hat := (Buckets.live?_eq_some_iff.mp hmarks.live?_eq).1
      exact absurd (LawfulSlotStorage.fits_of_at? h.storage hat) hsize

end Dictionary

/-! ## Tables and dictionaries -/

/-- A handle that a search or a reservation answered with binds its key, and goes on to do so while
operations let the key keep its slot: in a table, until it is rehashed, and in a dictionary, until
it grows.  The value is the last one written. -/
theorem binds_of_obtains {kind : LayoutKind} {policy : Policy} (hconsistent : policy.Consistent)
    {key : Bytes} (hkey : key.length = policy.keySize) {handle : Handle} {memory : Memory}
    {op : Operation} :
    (∀ {table : Table (Chains kind.Store)}, table.Reachable policy →
      Obtains key handle op ((op.perform memory).run table).answer →
        ∃ stored value?, policy.keysEqual key stored = true ∧ table.get? key = .ok value? ∧
          ∀ {trace : List (Operation × Except Failure Reply)} {table' : Table (Chains kind.Store)},
            Leads (wordLimit - 1) Table.size Operation.perform
              (Operation.Respects policy key handle)
              ((op.perform memory).run table).state trace table' →
            table'.Binds handle key stored
              (Operation.lastWritten policy key handle value? trace)) ∧
      ∀ {dictionary : Dictionary (Chains kind.Store)}, dictionary.Reachable policy →
        Obtains key handle op ((Dictionary.perform memory op).run dictionary).answer →
          ∃ stored value?, policy.keysEqual key stored = true ∧
            dictionary.get? key = .ok value? ∧
            ∀ {trace : List (Operation × Except Failure Reply)}
              {dictionary' : Dictionary (Chains kind.Store)},
              Leads (wordLimit - 1) Dictionary.size Dictionary.perform
                (Operation.Respects policy key handle)
                ((Dictionary.perform memory op).run dictionary).state trace dictionary' →
              dictionary'.table.bucketCount =
                ((Dictionary.perform memory op).run dictionary).state.table.bucketCount →
              dictionary'.Binds handle key stored
                (Operation.lastWritten policy key handle value? trace) := by
  constructor
  · intro table h hobtains
    obtain ⟨bs, hshows, hkeyed⟩ := h.exists_keyed hconsistent
    obtain ⟨bs', stored, hshows', -, hequal, hbinds⟩ :=
      (op.run_perform hshows memory).exists_binds_of_obtains hkeyed
        (LawfulSlotStorage.length_lt hshows.storage) hkey hobtains
    refine ⟨stored, bs.get? policy key, hequal, hshows.get?_eq hkey, fun hleads => ?_⟩
    obtain ⟨bs'', hshows'', hbinds'⟩ := hleads.exists_binds hshows' hbinds
    exact hshows''.binds hbinds'
  · intro dictionary h hobtains
    obtain ⟨bs, hshows, hkeyed⟩ := h.table.exists_keyed hconsistent
    obtain ⟨bs', stored, hshows', hequal, hbinds⟩ :=
      Dictionary.exists_binds_of_obtains hshows hkeyed hkey hobtains
    refine ⟨stored, bs.get? policy key, hequal, hshows.get?_eq hkey, fun hleads hsame => ?_⟩
    obtain ⟨bs'', hshows'', -, -, hlast⟩ :=
      Dictionary.exists_binds_of_leads hleads hshows' hbinds.keyed
    rw [hshows''.bucketCount_eq, hshows'.bucketCount_eq] at hsame
    exact Dictionary.binds_of_shows hshows'' (hlast hsame hbinds)

/-- The handle 2 is that of the key 1 in a table of two buckets and in a dictionary of three.
Another key comes, a value is written through the handle, and in the table the other key is removed
again. -/
theorem binds_of_obtains_of_one_write :
    (∃ table table' : Table (Chains LayoutKind.interleaved.Store), ∃ trace stored,
      table.Reachable (.standard 1 1) ∧
        Leads (wordLimit - 1) Table.size Operation.perform
          (Operation.Respects (.standard 1 1) [1] ⟨2, by decide⟩)
          (((Operation.reserve [1]).perform Memory.full).run table).state trace table' ∧
        table'.Binds ⟨2, by decide⟩ [1] stored (some [9])) ∧
      ∃ dictionary dictionary' : Dictionary (Chains LayoutKind.fullySeparated.Store),
      ∃ trace stored,
        dictionary.Reachable (.standard 1 1) ∧
          Leads (wordLimit - 1) Dictionary.size Dictionary.perform
            (Operation.Respects (.standard 1 1) [1] ⟨2, by decide⟩)
            ((Dictionary.perform Memory.full (.reserve [1])).run dictionary).state trace
            dictionary' ∧
          dictionary'.Binds ⟨2, by decide⟩ [1] stored (some [9]) := by
  have hconsistent : (Policy.standard 1 1).Consistent := Policy.consistent_of_bytewise rfl
  constructor
  · have hcreate : (Table.create Memory.full (.standard 1 1) 2 :
        Action Unit (Table (Chains LayoutKind.interleaved.Store))).run () = ⟨.ok _, (), []⟩ := rfl
    obtain ⟨table, htable, hanswer, hnone, table', trace, hleads, hlast⟩ :
        ∃ table : Table (Chains LayoutKind.interleaved.Store), table.Reachable (.standard 1 1) ∧
          (((Operation.reserve [1]).perform Memory.full).run table).answer =
            .ok (.reserved (some ⟨2, by decide⟩) true) ∧
          table.get? [1] = .ok none ∧ ∃ table' trace,
            Leads (wordLimit - 1) Table.size Operation.perform
              (Operation.Respects (.standard 1 1) [1] ⟨2, by decide⟩)
              (((Operation.reserve [1]).perform Memory.full).run table).state trace table' ∧
            Operation.lastWritten (.standard 1 1) [1] ⟨2, by decide⟩ none trace = some [9] := by
      refine ⟨_, .created hcreate, by decide +kernel, by decide +kernel, _, _,
        (((Leads.start _).step ?_ Memory.full (.insert [2] [7]) trivial).step ?_ Memory.full
          (.assign ⟨2, by decide⟩ [9]) trivial).step ?_ Memory.full (.erase [2]) fun _ => rfl, ?_⟩
      · decide +kernel
      · decide +kernel
      · decide +kernel
      · decide +kernel
    have hobtains : Obtains [1] ⟨2, by decide⟩ (.reserve [1])
        (((Operation.reserve [1]).perform Memory.full).run table).answer := by
      rw [hanswer]
      exact .reserved true
    obtain ⟨stored, value?, -, hvalue, hbinds⟩ :=
      (binds_of_obtains hconsistent rfl).1 htable hobtains
    rw [hnone, Except.ok.injEq] at hvalue
    subst hvalue
    have hbound := hbinds hleads
    rw [hlast] at hbound
    exact ⟨table, table', trace, stored, htable, hleads, hbound⟩
  · have hcreate : (Dictionary.create Memory.full (.standard 1 1) .small :
        Action Unit (Dictionary (Chains LayoutKind.fullySeparated.Store))).run () =
          ⟨.ok _, (), []⟩ := rfl
    obtain ⟨dictionary, hdictionary, hanswer, hnone, dictionary', trace, hleads, hlast, hsame⟩ :
        ∃ dictionary : Dictionary (Chains LayoutKind.fullySeparated.Store),
          dictionary.Reachable (.standard 1 1) ∧
          ((Dictionary.perform Memory.full (.reserve [1])).run dictionary).answer =
            .ok (.reserved (some ⟨2, by decide⟩) true) ∧
          dictionary.get? [1] = .ok none ∧ ∃ dictionary' trace,
            Leads (wordLimit - 1) Dictionary.size Dictionary.perform
              (Operation.Respects (.standard 1 1) [1] ⟨2, by decide⟩)
              ((Dictionary.perform Memory.full (.reserve [1])).run dictionary).state trace
              dictionary' ∧
            Operation.lastWritten (.standard 1 1) [1] ⟨2, by decide⟩ none trace = some [9] ∧
            dictionary'.table.bucketCount =
              ((Dictionary.perform Memory.full (.reserve [1])).run
                dictionary).state.table.bucketCount := by
      refine ⟨_, .created hcreate, by decide +kernel, by decide +kernel, _, _,
        ((Leads.start _).step ?_ Memory.full (.insert [2] [7]) trivial).step ?_ Memory.full
          (.assign ⟨2, by decide⟩ [9]) trivial, ?_, ?_⟩
      · decide +kernel
      · decide +kernel
      · decide +kernel
      · decide +kernel
    have hobtains : Obtains [1] ⟨2, by decide⟩ (.reserve [1])
        ((Dictionary.perform Memory.full (.reserve [1])).run dictionary).answer := by
      rw [hanswer]
      exact .reserved true
    obtain ⟨stored, value?, -, hvalue, hbinds⟩ :=
      (binds_of_obtains hconsistent rfl).2 hdictionary hobtains
    rw [hnone, Except.ok.injEq] at hvalue
    subst hvalue
    have hbound := hbinds hleads hsame
    rw [hlast] at hbound
    exact ⟨dictionary, dictionary', trace, stored, hdictionary, hleads, hbound⟩

end ByteTable
