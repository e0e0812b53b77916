import ByteTable.Proofs.Dictionary.Lasting
import ByteTable.Proofs.Table.Refinement

/-!
# Growth cannot be seen

A session with a dictionary answers as one with a table does whose number of buckets never changes,
whatever the layouts of the two and the number of buckets of the table
(`Dictionary.Session.matches_history`).  Only the handles are different numbers.

Both are compared with the same map.  A dictionary's command is one on the table that growing has
left, which has the same live records in another order, and so the same map
(`Buckets.Mirrors.of_perm`); `Session.step_eq` does the rest.  Growing comes before commands that
use no handle only, so no handle is in hand while slots move.
-/

namespace ByteTable

/-- Buckets with the same live records mirror the same map. -/
theorem Buckets.Mirrors.of_perm {policy : Policy} {bs bs' : Buckets} {handle? : Option Handle}
    {s : KeyMap.Session} (h : bs.Mirrors policy handle? s) (hkeyed : bs'.Keyed policy)
    (hrecords : bs'.liveRecords.Perm bs.liveRecords) :
    bs'.Mirrors policy none ⟨s.map, none⟩ :=
  ⟨hkeyed, h.entries.trans (hrecords.symm.map SlotRecord.entry), trivial⟩

/-- The empty buckets of a new table mirror the empty map. -/
theorem Buckets.Mirrors.empty {β : Type} [Storage β] [LawfulStorage β] {policy : Policy}
    {table : Table β} {bucketCount : Nat} (hconsistent : policy.Consistent)
    (h : table.Shows policy (Buckets.empty bucketCount)) :
    (Buckets.empty bucketCount).Mirrors policy none ⟨[], none⟩ := by
  have hpos := LawfulSlotStorage.length_pos h.storage
  rw [Buckets.length_empty] at hpos
  have hentries : (Buckets.empty bucketCount).entries = [] := by
    unfold Buckets.entries Buckets.liveRecords Buckets.empty
    simp
  exact ⟨.empty hconsistent hpos, hentries ▸ .refl _, trivial⟩

/-- Unless something hinders it, growing leaves a table with the same live records. -/
theorem Dictionary.Grows.exists_prepared {β : Type} [Storage β] [LawfulStorage β] {policy : Policy}
    {bs : Buckets} {outcome : Outcome (Table β) Unit} (h : Dictionary.Grows policy bs outcome)
    (hkeyed : bs.Keyed policy) (hfits : LawfulSlotStorage.Fits β policy.keySize policy.valueSize)
    (hmemory : outcome.answer ≠ .error (.error .allocation)) :
    ∃ table bs' log, outcome = ⟨.ok (), table, log⟩ ∧ table.Shows policy bs' ∧
      bs'.Keyed policy ∧ bs'.liveRecords.Perm bs.liveRecords := by
  cases h with
  | unchanged hshows => exact ⟨_, bs, _, rfl, hshows, hkeyed, .refl _⟩
  | grown hshows hkeyed' _ hrecords => exact ⟨_, _, _, rfl, hshows, hkeyed', hrecords⟩
  | refused => exact absurd rfl hmemory
  | oversized hsize => exact absurd hfits hsize

/-! ## A dictionary in use -/

/-- A dictionary in use, and the handle that was just obtained. -/
structure Dictionary.Session (β : Type) where
  /-- The dictionary. -/
  dictionary : Dictionary β
  /-- The handle. -/
  handle? : Option Handle

namespace Dictionary.Session

variable {β : Type} [Storage β]

/-- Perform a command. -/
def step (session : Session β) (memory : Memory) (command : Command) :
    Except Failure Answer × Session β :=
  match command.operation? session.dictionary.size session.handle? with
  | none => (.ok .noHandle, session)
  | some op =>
    let outcome := (Dictionary.perform memory op).run session.dictionary
    (outcome.answer.map Reply.answer,
      ⟨outcome.state, command.keep session.handle? outcome.answer⟩)

/-- The answers of commands performed one after the other, and what each leaves. -/
def history (session : Session β) :
    List (Memory × Command) → List (Except Failure Answer × Session β)
  | [] => []
  | (memory, command) :: run =>
    session.step memory command :: (session.step memory command).2.history run

theorem step_of_eq_some {session : Session β} {command : Command} {op : Operation}
    (hop : command.operation? session.dictionary.size session.handle? = some op) (memory : Memory) :
    session.step memory command =
      (((Dictionary.perform memory op).run session.dictionary).answer.map Reply.answer,
        ⟨((Dictionary.perform memory op).run session.dictionary).state,
          command.keep session.handle?
            ((Dictionary.perform memory op).run session.dictionary).answer⟩) := by
  simp only [step, hop]

/-- A command is one on the table that growing leaves. -/
theorem step_eq_step {session : Session β} {memory : Memory} {command : Command} {op : Operation}
    (hop : command.operation? session.dictionary.size session.handle? = some op)
    {table : Table β} {log : List Event}
    (hprepare : (prepare memory op).run session.dictionary.table = ⟨.ok (), table, log⟩)
    {handle? : Option Handle} (hop' : command.operation? table.size handle? = some op)
    (hkeep : ∀ reply, command.keep session.handle? reply = command.keep handle? reply) :
    session.step memory command =
      (((⟨table, handle?⟩ : ByteTable.Session β).step memory command).1,
        ⟨⟨((⟨table, handle?⟩ : ByteTable.Session β).step memory command).2.table⟩,
          ((⟨table, handle?⟩ : ByteTable.Session β).step memory command).2.handle?⟩) := by
  have hrun : (Dictionary.perform memory op).run session.dictionary =
      ⟨((op.perform memory).run table).answer, ⟨((op.perform memory).run table).state⟩,
        log ++ ((op.perform memory).run table).log⟩ := by
    rw [perform_eq, Dictionary.onTable, Action.run_within rfl, Action.run_bind_of_ok hprepare]
  rw [step_of_eq_some hop, hrun, hkeep]
  simp only [ByteTable.Session.step, hop']

theorem fst_step_of_error {session : Session β} {memory : Memory} {command : Command}
    {op : Operation}
    (hop : command.operation? session.dictionary.size session.handle? = some op) {cause : Failure}
    (hprepare : ((prepare memory op).run session.dictionary.table).answer = .error cause) :
    (session.step memory command).1 = .error cause := by
  have hanswer : ((Dictionary.perform memory op).run session.dictionary).answer = .error cause := by
    rw [perform_eq, answer_run_onTable, Action.run_bind]
    generalize (prepare memory op).run session.dictionary.table = outcome at hprepare
    obtain ⟨answer, table, log⟩ := outcome
    cases hprepare
    rfl
  rw [step_of_eq_some hop, hanswer]
  rfl

end Dictionary.Session

/-! ## One command -/

/-- A command that a dictionary may grow for uses no handle and keeps none. -/
theorem Command.of_mayGrow {command : Command} {size : Nat} {handle? : Option Handle}
    {op : Operation} (hop : command.operation? size handle? = some op) (hgrow : op.mayGrow = true)
    (size' : Nat) (handle?' : Option Handle) :
    command.operation? size' handle?' = some op ∧
      (∀ reply, command.keep handle? reply = command.keep handle?' reply) ∧
      ∀ (policy : Policy) (s : KeyMap.Session),
        s.step policy command = KeyMap.Session.step policy ⟨s.map, none⟩ command := by
  cases command with
  | insert key value => exact ⟨hop, fun _ => rfl, fun _ _ => rfl⟩
  | reserve key => exact ⟨hop, fun _ => rfl, fun _ _ => rfl⟩
  | get key | find key | erase key | size | keys | pairs | rehash bucketCount =>
    cases hop
    cases hgrow
  | assign value | discard | isWritten | keyOf | valueOf =>
    obtain ⟨handle, -, rfl⟩ := Option.map_eq_some_iff.mp hop
    cases hgrow

/-- An answer that there is a handle comes from a reply that has one. -/
theorem Reply.exists_handle_of_answer {answer : Except Failure Reply} {created : Bool}
    (h : answer.map Reply.answer = .ok (.reserved true created)) :
    ∃ handle, answer = .ok (.reserved (some handle) created) := by
  obtain cause | reply := answer
  · cases h
  have hreply : reply.answer = .reserved true created := Except.ok.inj h
  cases reply with
  | reserved handle? created' =>
    cases handle? with
    | none => cases hreply
    | some handle =>
      cases hreply
      exact ⟨handle, rfl⟩
  | _ => cases hreply

namespace Dictionary.Session

variable {kind : LayoutKind} {session : Session (Chains kind.Store)} {policy : Policy}
  {bs : Buckets} {s : KeyMap.Session}

/-- Whether every item of every bucket of the dictionary can have a handle. -/
def isAddressable (session : Session (Chains kind.Store)) : Bool :=
  ByteTable.Session.isAddressable ⟨session.dictionary.table, session.handle?⟩

/-- A command answers as it does on the map, and the map is still the dictionary's afterwards. -/
theorem step_eq (h : session.dictionary.table.Shows policy bs)
    (hmirrors : bs.Mirrors policy session.handle? s)
    (hfits : 8 + policy.keySize + policy.valueSize < wordLimit)
    (hroom : bs.liveCount + 1 < wordLimit) {memory : Memory} {command : Command}
    (hsized : command.Sized policy)
    (hmemory : (session.step memory command).1 ≠ .error (.error .allocation))
    (haddressable : (session.step memory command).2.isAddressable = true) :
    (session.step memory command).1 = .ok (s.step policy command).1 ∧
      ∃ bs', (session.step memory command).2.dictionary.table.Shows policy bs' ∧
        bs'.Mirrors policy (session.step memory command).2.handle? (s.step policy command).2 ∧
        bs'.isAddressable = true := by
  rcases hop : command.operation? session.dictionary.size session.handle? with _ | op
  · have hstep : session.step memory command = (.ok .noHandle, session) := by
      simp only [step, hop]
    rw [hstep] at haddressable ⊢
    rw [KeyMap.Session.step_of_operation?_eq_none hmirrors.standing hop]
    refine ⟨rfl, bs, h, hmirrors, ?_⟩
    simpa only [isAddressable, ByteTable.Session.isAddressable, h.contents_eq] using haddressable
  by_cases hgrow : op.mayGrow = true
  · have hgrows := h.grows_prepare hmirrors.keyed memory op
    have hgranted : ((prepare memory op).run session.dictionary.table).answer ≠
        .error (.error .allocation) := by
      intro hrefused
      exact hmemory (fst_step_of_error hop hrefused)
    obtain ⟨table, bs', log, hprepare, hshows, hkeyed, hrecords⟩ := hgrows.exists_prepared
      hmirrors.keyed (LawfulSlotStorage.fits_of_lt hfits) hgranted
    have hcount : bs'.liveCount = bs.liveCount := by
      rw [Buckets.liveCount_eq_length, Buckets.liveCount_eq_length, hrecords.length_eq]
    obtain ⟨hop', hkeep, hmap⟩ := Command.of_mayGrow hop hgrow table.size none
    rw [step_eq_step hop hprepare hop' hkeep] at hmemory haddressable ⊢
    rw [hmap]
    exact ByteTable.Session.step_eq hshows (hmirrors.of_perm hkeyed hrecords) hfits
      (hcount.symm ▸ hroom) hsized hmemory haddressable
  · have hprepare : (prepare memory op).run session.dictionary.table =
        ⟨.ok (), session.dictionary.table, []⟩ := by
      rw [prepare, if_neg hgrow, Action.run_pure]
    rw [step_eq_step hop hprepare hop fun _ => rfl] at hmemory haddressable ⊢
    exact ByteTable.Session.step_eq h hmirrors hfits hroom hsized hmemory haddressable

/-- The handle that a reserved key is answered with binds the key, whatever grew before. -/
theorem exists_binds_step (h : session.dictionary.table.Shows policy bs) (hkeyed : bs.Keyed policy)
    {key : Bytes} (hkey : key.length = policy.keySize) {memory : Memory} {created : Bool}
    (hanswer : (session.step memory (.reserve key)).1 = .ok (.reserved true created)) :
    ∃ handle stored value?, (session.step memory (.reserve key)).2.handle? = some handle ∧
      policy.keysEqual key stored = true ∧
      (session.step memory (.reserve key)).2.dictionary.Binds handle key stored value? := by
  obtain ⟨op, hop⟩ : ∃ op, (Command.reserve key).operation? session.dictionary.size
      session.handle? = some op := ⟨_, rfl⟩
  have hreserve : op = .reserve key := (Option.some.inj hop).symm
  rw [step_of_eq_some hop] at hanswer ⊢
  obtain ⟨handle, hreply⟩ := Reply.exists_handle_of_answer hanswer
  have hobtains : Obtains key handle op
      ((Dictionary.perform memory op).run session.dictionary).answer := by
    rw [hreply, hreserve]
    exact .reserved created
  obtain ⟨bs', stored, hshows, hequal, hbinds⟩ := exists_binds_of_obtains h hkeyed hkey hobtains
  refine ⟨handle, stored, bs.get? policy key, ?_, hequal, binds_of_shows hshows hbinds⟩
  rw [hreply]
  rfl

/-! ## Runs -/

variable {kind' : LayoutKind}

/-- Whether a step of a dictionary and one of a table cannot be told apart but for the handles:
they answer the same and leave the same entries.  The handle of a reserved key serves the
dictionary as it has become. -/
structure Matches (policy : Policy) (command : Command)
    (step : Except Failure Answer × Session (Chains kind.Store))
    (step' : Except Failure Answer × ByteTable.Session (Chains kind'.Store)) : Prop where
  answer_eq : step.1 = step'.1
  exists_answer : ∃ answer, step.1 = .ok answer
  exists_entries : ∃ buckets buckets' : Buckets,
    step.2.dictionary.table.storage.contents = .ok buckets ∧
      step'.2.table.storage.contents = .ok buckets' ∧ buckets.entries.Perm buckets'.entries
  size_eq : step.2.dictionary.size = step'.2.table.size
  isEmpty_eq : step.2.dictionary.isEmpty = step'.2.table.isEmpty
  exists_binds {key : Bytes} : command = .reserve key → ∃ handle stored value?,
    step.2.handle? = some handle ∧ policy.keysEqual key stored = true ∧
      step.2.dictionary.Binds handle key stored value?

/-- Steps that leave the same map, and answer as it does, match. -/
theorem matches_of_mirrors {bs' : Buckets} {command : Command}
    {step : Except Failure Answer × Session (Chains kind.Store)}
    {step' : Except Failure Answer × ByteTable.Session (Chains kind'.Store)} {answer : Answer}
    (hanswer : step.1 = .ok answer) (hanswer' : step'.1 = .ok answer)
    (h : step.2.dictionary.table.Shows policy bs) (h' : step'.2.table.Shows policy bs')
    (hmirrors : bs.Mirrors policy step.2.handle? s)
    (hmirrors' : bs'.Mirrors policy step'.2.handle? s)
    (hbinds : ∀ {key : Bytes}, command = .reserve key → ∃ handle stored value?,
      step.2.handle? = some handle ∧ policy.keysEqual key stored = true ∧
        step.2.dictionary.Binds handle key stored value?) :
    Matches policy command step step' := by
  have hentries := hmirrors.entries.symm.trans hmirrors'.entries
  have hsize : step.2.dictionary.size = step'.2.table.size := by
    have hcount : step.2.dictionary.size = bs.liveCount := LawfulSlotStorage.size_eq h.storage
    have hcount' : step'.2.table.size = bs'.liveCount := LawfulSlotStorage.size_eq h'.storage
    rw [hcount, hcount', ← Buckets.length_entries, hentries.length_eq, Buckets.length_entries]
  refine ⟨hanswer.trans hanswer'.symm, ⟨answer, hanswer⟩,
    ⟨bs, bs', h.contents_eq, h'.contents_eq, hentries⟩, hsize, ?_, hbinds⟩
  rw [Dictionary.isEmpty, Table.isEmpty, Table.isEmpty]
  exact congrArg (· == 0) hsize

/-- Sessions that mirror one map go on to match. -/
theorem matches_history_of_mirrors {bs' : Buckets}
    {session' : ByteTable.Session (Chains kind'.Store)}
    (h : session.dictionary.table.Shows policy bs) (h' : session'.table.Shows policy bs')
    (hmirrors : bs.Mirrors policy session.handle? s)
    (hmirrors' : bs'.Mirrors policy session'.handle? s)
    (hfits : 8 + policy.keySize + policy.valueSize < wordLimit)
    (hnext : bs.isAddressable = true) (hnext' : bs'.isAddressable = true)
    {run run' : List (Memory × Command)} (hcommands : run'.map Prod.snd = run.map Prod.snd)
    (hsized : ∀ step ∈ run, step.2.Sized policy)
    (hmemory : ∀ step ∈ session.history run, step.1 ≠ .error (.error .allocation))
    (hmemory' : ∀ step ∈ session'.history run', step.1 ≠ .error (.error .allocation))
    (haddressable : ∀ step ∈ session.history run, step.2.isAddressable = true)
    (haddressable' : ∀ step ∈ session'.history run', step.2.isAddressable = true) :
    List.Forall₂ (fun command steps => Matches policy command steps.1 steps.2) (run.map Prod.snd)
      ((session.history run).zip (session'.history run')) := by
  induction run generalizing session session' bs bs' s run' with
  | nil =>
    obtain rfl : run' = [] := List.map_eq_nil_iff.mp hcommands
    exact .nil
  | cons step run ih =>
    obtain ⟨memory, command⟩ := step
    obtain ⟨⟨memory', _⟩, run', rfl, rfl, hrest⟩ := List.map_eq_cons_iff.mp hcommands
    rw [history] at hmemory haddressable ⊢
    rw [ByteTable.Session.history] at hmemory' haddressable' ⊢
    have hroom := Buckets.liveCount_lt_of_isAddressable hnext
      (LawfulSlotStorage.length_lt h.storage)
    have hroom' := Buckets.liveCount_lt_of_isAddressable hnext'
      (LawfulSlotStorage.length_lt h'.storage)
    have hcommandSized := hsized _ List.mem_cons_self
    obtain ⟨hanswer, next, hshows, hmirrors₁, hnext₁⟩ := step_eq h hmirrors hfits hroom
      hcommandSized (hmemory _ List.mem_cons_self) (haddressable _ List.mem_cons_self)
    obtain ⟨hanswer', next', hshows', hmirrors₁', hnext₁'⟩ := ByteTable.Session.step_eq h' hmirrors'
      hfits hroom' hcommandSized (hmemory' _ List.mem_cons_self)
      (haddressable' _ List.mem_cons_self)
    refine .cons ?_ ?_
    · refine matches_of_mirrors hanswer hanswer' hshows hshows' hmirrors₁ hmirrors₁' ?_
      rintro key rfl
      exact exists_binds_step h hmirrors.keyed hcommandSized hanswer
    · exact ih hshows hshows' hmirrors₁ hmirrors₁' hnext₁ hnext₁' hrest
        (fun step hstep => hsized step (List.mem_cons_of_mem _ hstep))
        (fun step hstep => hmemory step (List.mem_cons_of_mem _ hstep))
        (fun step hstep => hmemory' step (List.mem_cons_of_mem _ hstep))
        (fun step hstep => haddressable step (List.mem_cons_of_mem _ hstep))
        (fun step hstep => haddressable' step (List.mem_cons_of_mem _ hstep))

/-- A new dictionary and a new table match in every run of the same commands, whatever the layouts,
the size hint and the number of buckets, and each with a memory of its own, if no memory is refused
and no chain grows beyond what handles can address. -/
theorem matches_history {hint : SizeHint} {bucketCount : Nat} {memory memory' : Memory}
    {dictionary : Dictionary (Chains kind.Store)} {table : Table (Chains kind'.Store)}
    {log log' : List Event}
    (hdictionary : (Dictionary.create memory policy hint :
      Action Unit (Dictionary (Chains kind.Store))).run () = ⟨.ok dictionary, (), log⟩)
    (htable : (Table.create memory' policy bucketCount :
      Action Unit (Table (Chains kind'.Store))).run () = ⟨.ok table, (), log'⟩)
    (hfits : 8 + policy.keySize + policy.valueSize < wordLimit)
    (hconsistent : policy.Consistent) {run run' : List (Memory × Command)}
    (hcommands : run'.map Prod.snd = run.map Prod.snd)
    (hsized : ∀ step ∈ run, step.2.Sized policy)
    (hmemory : ∀ step ∈ history ⟨dictionary, none⟩ run, step.1 ≠ .error (.error .allocation))
    (hmemory' : ∀ step ∈ ByteTable.Session.history ⟨table, none⟩ run',
      step.1 ≠ .error (.error .allocation))
    (haddressable : ∀ step ∈ history ⟨dictionary, none⟩ run, step.2.isAddressable = true)
    (haddressable' : ∀ step ∈ ByteTable.Session.history ⟨table, none⟩ run',
      step.2.isAddressable = true) :
    List.Forall₂ (fun command steps => Matches policy command steps.1 steps.2) (run.map Prod.snd)
      ((history ⟨dictionary, none⟩ run).zip (ByteTable.Session.history ⟨table, none⟩ run')) := by
  have hshows := Table.shows_of_run_create (run_table_create hdictionary)
  have hshows' := Table.shows_of_run_create htable
  exact matches_history_of_mirrors hshows hshows' (.empty hconsistent hshows)
    (.empty hconsistent hshows') hfits (Buckets.isAddressable_empty _)
    (Buckets.isAddressable_empty _) hcommands hsized hmemory hmemory' haddressable haddressable'

/-- The fourth key makes a dictionary of three buckets grow, while a table keeps its only one.  The
key is removed again through the handle that it got. -/
theorem matches_history_of_eight_commands :
    ∃ (dictionary : Dictionary (Chains LayoutKind.fullySeparated.Store))
      (table : Table (Chains LayoutKind.interleaved.Store)) (run : List (Memory × Command)),
      (Dictionary.create Memory.full (.standard 1 1) .small : Action Unit _).run () =
        ⟨.ok dictionary, (), []⟩ ∧
      (Table.create Memory.full (.standard 1 1) 1 : Action Unit _).run () = ⟨.ok table, (), []⟩ ∧
      ((history ⟨dictionary, none⟩ run).map fun step => step.2.dictionary.table.bucketCount) =
        [3, 3, 3, 3, 6, 6, 6, 6] ∧
      List.Forall₂ (fun command steps => Matches (.standard 1 1) command steps.1 steps.2)
        (run.map Prod.snd)
        ((history ⟨dictionary, none⟩ run).zip (ByteTable.Session.history ⟨table, none⟩ run)) := by
  have hdictionary : (Dictionary.create Memory.full (.standard 1 1) .small :
      Action Unit (Dictionary (Chains LayoutKind.fullySeparated.Store))).run () =
        ⟨.ok _, (), []⟩ := rfl
  have htable : (Table.create Memory.full (.standard 1 1) 1 :
      Action Unit (Table (Chains LayoutKind.interleaved.Store))).run () = ⟨.ok _, (), []⟩ := rfl
  exact ⟨_, _, [(.full, .reserve [1]), (.full, .assign [9]), (.full, .insert [2] [5]),
      (.full, .insert [3] [6]), (.full, .reserve [4]), (.full, .discard), (.full, .get [1]),
      (.full, .size)],
    hdictionary, htable, by decide +kernel,
    matches_history hdictionary htable (by decide) (Policy.consistent_of_bytewise rfl) rfl
      (by simp [Command.Sized, Policy.standard]) (by decide +kernel) (by decide +kernel)
      (by decide +kernel) (by decide +kernel)⟩

end Dictionary.Session

end ByteTable
