import ByteTable.Proofs.Buckets.Marks
import ByteTable.Proofs.Table.Leads

/-!
# Handles that last

A handle that a search for a key gave, or a reservation, stands for the key for as long as nobody
removes the key, takes it away through that very handle, or rehashes the table.  In all this time
the key is found under the same handle, and what is read through the handle is the value that was
written last, be it by the key or through the handle.

`Table.Binds` is what such a handle shows of its key, and `Operation.valueAfter` follows the value
from one operation to the next.  The invariant of a run is that the buckets are marked
(`Buckets.Marks`); `Operation.Ends.exists_binds` is its step, and `Leads.exists_binds` the
induction.
-/

namespace ByteTable

/-! ## Operations beside a key -/

/-- Whether a search or a reservation answered with a handle. -/
inductive Obtains (key : Bytes) (handle : Handle) : Operation → Except Failure Reply → Prop where
  | found : Obtains key handle (.find key) (.ok (.handle (some handle)))
  | reserved (created : Bool) :
    Obtains key handle (.reserve key) (.ok (.reserved (some handle) created))

namespace Operation

/-- Whether an operation lets a key keep its slot: it does not remove the key, whose handle is
given, and does not rehash.  A key that is erased has to be another one under the policy. -/
def Respects (policy : Policy) (key : Bytes) (handle : Handle) : Operation → Prop
  | erase other => other.length = policy.keySize → policy.keysEqual key other = false
  | discard other => other ≠ handle
  | rehash _ => False
  | _ => True

/-- The value of a key, whose handle is given, after an operation that was answered in some way.
Only writes that worked count. -/
def valueAfter (policy : Policy) (key : Bytes) (handle : Handle) (value? : Option Bytes) :
    Operation × Except Failure Reply → Option Bytes
  | (insert other value, .ok _) => if policy.keysEqual key other then some value else value?
  | (assign other value, .ok _) => if other = handle then some value else value?
  | _ => value?

theorem valueAfter_error (policy : Policy) (key : Bytes) (handle : Handle) (value? : Option Bytes)
    (op : Operation) (cause : Failure) :
    valueAfter policy key handle value? (op, .error cause) = value? := by
  cases op <;> rfl

theorem length_after {policy : Policy} {bs : Buckets} {key : Bytes} {handle : Handle}
    {op : Operation} (hop : op.Respects policy key handle) :
    (op.after policy bs).length = bs.length := by
  cases op with
  | insert other value => exact Buckets.length_insert bs policy other value
  | reserve other => exact Buckets.length_reserve bs policy other
  | erase other => exact Buckets.length_erase bs policy other
  | assign other value => exact Buckets.length_assign bs _ value
  | discard other => exact Buckets.length_discard bs _
  | rehash bucketCount => exact hop.elim
  | _ => rfl

/-- The value that was written last, or else the one that there was before. -/
def lastWritten (policy : Policy) (key : Bytes) (handle : Handle) (value? : Option Bytes)
    (trace : List (Operation × Except Failure Reply)) : Option Bytes :=
  trace.foldl (valueAfter policy key handle) value?

end Operation

theorem SlotRecord.value?_written (value : Bytes) (record : SlotRecord) :
    (record.written value).value? = some value := by
  rw [value?, isWritten_written, if_pos rfl]
  rfl

/-! ## Marked buckets -/

namespace Buckets

variable {policy : Policy} {bs : Buckets} {key : Bytes} {handle : Handle} {record : SlotRecord}

/-- A key that was reserved has the value it had before, none if it is new. -/
theorem get?_reserve_self (hpos : 0 < bs.length) (policy : Policy) (key : Bytes)
    (hlocate : (bs.reserve policy key).2.locate policy key = some (bs.reserve policy key).1.slot) :
    (bs.reserve policy key).2.get? policy key = bs.get? policy key := by
  rcases hbefore : bs.locate policy key with _ | slot
  · have hclaimed := live?_claim (home_lt policy hpos key) (SlotRecord.isLive_reserved policy key)
      (bs.claim (home policy bs.length key) (.reserved policy key)).1
    rw [if_pos rfl] at hclaimed
    simp only [reserve, hbefore] at hlocate ⊢
    rw [get?_eq_lookup, lookup, hlocate, Option.bind_some, hclaimed, Option.bind_some, get?,
      hbefore, SlotRecord.value?, SlotRecord.isWritten_reserved]
    rfl
  · simp only [reserve, hbefore]

namespace Keyed

/-- The handle that a search answers with marks the key's slot. -/
theorem exists_marks_of_find (h : bs.Keyed policy) (hlength : bs.length + 1 < wordLimit)
    (hkey : key.length = policy.keySize)
    (hfound : (bs.locate policy key).bind (Handle.packed? bs.length) = some handle) :
    ∃ record, bs.Marks policy handle key record ∧ record.value? = bs.get? policy key := by
  obtain ⟨slot, hlocate, hpacked⟩ := Option.bind_eq_some_iff.mp hfound
  obtain ⟨record, hrecord, hequal⟩ := (h.locate_eq_some_iff hkey).mp hlocate
  have hmarks := Marks.of_packed?_eq_some hlength hrecord hpacked hequal
  exact ⟨record, hmarks, (hmarks.get?_eq h hkey).symm⟩

theorem exists_marks_of_reserve (h : bs.Keyed policy) (hlength : bs.length + 1 < wordLimit)
    (hkey : key.length = policy.keySize)
    (hreserved : Handle.packed? bs.length (bs.reserve policy key).1.slot = some handle) :
    ∃ record, (bs.reserve policy key).2.Marks policy handle key record ∧
      record.value? = bs.get? policy key := by
  have hlocate := h.locate_reserve hkey
  have hlength' := length_reserve bs policy key
  obtain ⟨record, hmarks, hvalue⟩ := (h.reserve hkey).exists_marks_of_find (hlength'.symm ▸ hlength)
    hkey (by rw [hlocate, Option.bind_some, hlength', hreserved])
  exact ⟨record, hmarks, hvalue.trans (get?_reserve_self h.length_pos policy key hlocate)⟩

end Keyed

/-- Whether buckets hold a key where its handle says, with this value. -/
structure Binds (policy : Policy) (bs : Buckets) (handle : Handle) (key stored : Bytes)
    (value? : Option Bytes) : Prop where
  keyed : bs.Keyed policy
  length_key : key.length = policy.keySize
  exists_marks : ∃ record, bs.Marks policy handle key record ∧ record.key = stored ∧
    record.value? = value?

/-- An operation that does its work and lets the key keep its slot keeps the slot marked. -/
theorem Marks.after (h : bs.Marks policy handle key record) (hkeyed : bs.Keyed policy)
    (hlength : bs.length + 1 < wordLimit) (hkey : key.length = policy.keySize) {op : Operation}
    (hop : op.Respects policy key handle) (hfault : op.fault? policy = none) (reply : Reply) :
    ∃ record', (op.after policy bs).Marks policy handle key record' ∧ record'.key = record.key ∧
      record'.value? = Operation.valueAfter policy key handle record.value? (op, .ok reply) := by
  cases op with
  | insert other value =>
    obtain ⟨hother, -⟩ := Operation.length_of_fault?_insert hfault
    by_cases hsame : policy.keysEqual key other
    · refine ⟨record.written value, h.insert_self hkeyed hkey hother hsame value, rfl, ?_⟩
      rw [Operation.valueAfter, if_pos hsame, SlotRecord.value?_written]
    · have hdiffers := Bool.eq_false_iff.mpr hsame
      refine ⟨record, h.insert_of_ne hkeyed hkey hother hdiffers value, rfl, ?_⟩
      rw [Operation.valueAfter, if_neg hsame]
  | reserve other =>
    exact ⟨record, h.reserve hkeyed.length_pos other, rfl, rfl⟩
  | erase other =>
    have hother : other.length = policy.keySize := Operation.length_of_fault?_reserve hfault
    exact ⟨record, h.erase_of_ne hkeyed hkey hother (hop hother), rfl, rfl⟩
  | assign other value =>
    by_cases hsame : other = handle
    · refine ⟨record.written value, hsame ▸ h.assign_self value, rfl, ?_⟩
      rw [Operation.valueAfter, if_pos hsame, SlotRecord.value?_written]
    · have hne := mt (Handle.slotAt_inj hlength).mp hsame
      refine ⟨record, h.assign_of_ne hne value, rfl, ?_⟩
      rw [Operation.valueAfter, if_neg hsame]
  | discard other =>
    have hne := mt (Handle.slotAt_inj hlength).mp hop
    exact ⟨record, h.discard_of_ne hne, rfl, rfl⟩
  | rehash bucketCount => exact hop.elim
  | _ => exact ⟨record, h, rfl, rfl⟩

end Buckets

/-! ## One operation and many -/

section

variable {β : Type} [Storage β] [LawfulStorage β] {policy : Policy} {bs : Buckets} {table : Table β}
  {key stored : Bytes} {handle : Handle} {value? : Option Bytes} {op : Operation}
  {outcome : Outcome (Table β) Reply}

/-- After an operation that lets the key keep its slot, whether it worked or not, the key is still
there and has the value that it should. -/
theorem Operation.Ends.exists_binds (h : op.Ends policy bs outcome) (hkeyed : bs.Keyed policy)
    (hlength : bs.length + 1 < wordLimit) (hroom : bs.liveCount + 1 < wordLimit)
    (hop : op.Respects policy key handle) :
    ∃ bs', outcome.state.Shows policy bs' ∧ bs'.Keyed policy ∧ bs'.length = bs.length ∧
      ∀ {stored value?}, bs.Binds policy handle key stored value? →
        bs'.Binds policy handle key stored
          (valueAfter policy key handle value? (op, outcome.answer)) := by
  -- A failure leaves the buckets, and has written nothing.
  have hfailed : ∀ {cause : Failure} {table : Table β}, table.Shows policy bs →
      ∃ bs' : Buckets, table.Shows policy bs' ∧ bs'.Keyed policy ∧ bs'.length = bs.length ∧
        ∀ {stored value?}, bs.Binds policy handle key stored value? →
          bs'.Binds policy handle key stored
            (valueAfter policy key handle value? (op, .error cause)) := by
    intro cause table hshows
    refine ⟨bs, hshows, hkeyed, rfl, fun hbinds => ?_⟩
    rwa [valueAfter_error]
  cases h with
  | answered hfault h =>
    have hafter := hkeyed.after hfault h
    refine ⟨_, h, hafter, length_after hop, fun hbinds => ?_⟩
    obtain ⟨record, hmarks, rfl, rfl⟩ := hbinds.exists_marks
    obtain ⟨record', hmarks', hstored, hwritten⟩ :=
      hmarks.after hkeyed hlength hbinds.length_key hop hfault (op.reply policy bs)
    exact ⟨hafter, hbinds.length_key, record', hmarks', hstored, hwritten⟩
  | faulted _ h => exact hfailed h
  | refused h => exact hfailed h
  | oversized _ h => exact hfailed h
  | full hfault hfull =>
    have hcount := op.liveCount_after_le hkeyed.length_pos hfault
    omega
  | merged _ _ h => exact hfailed h

/-- The key of a handle that was answered is where the handle says, and has the value that it
had. -/
theorem Operation.Ends.exists_binds_of_obtains (h : op.Ends policy bs outcome)
    (hkeyed : bs.Keyed policy) (hlength : bs.length + 1 < wordLimit)
    (hkey : key.length = policy.keySize) (hobtains : Obtains key handle op outcome.answer) :
    ∃ bs' stored, outcome.state.Shows policy bs' ∧ bs'.length = bs.length ∧
      policy.keysEqual key stored = true ∧
      bs'.Binds policy handle key stored (bs.get? policy key) := by
  generalize hanswer : outcome.answer = answer at hobtains
  cases hobtains with
  | found =>
    cases h with
    | answered hfault h =>
      have hreply := Reply.handle.inj (Except.ok.inj hanswer)
      obtain ⟨record, hmarks, hvalue⟩ := hkeyed.exists_marks_of_find hlength hkey hreply
      exact ⟨bs, record.key, h, rfl, hmarks.keysEqual, hkeyed, hkey, record, hmarks, rfl, hvalue⟩
    | faulted _ _ | refused _ | oversized _ _ | full _ _ | merged _ _ _ => cases hanswer
  | reserved created =>
    cases h with
    | answered hfault h =>
      have hreply := (Reply.reserved.inj (Except.ok.inj hanswer)).1
      obtain ⟨record, hmarks, hvalue⟩ := hkeyed.exists_marks_of_reserve hlength hkey hreply
      exact ⟨_, record.key, h, Buckets.length_reserve bs policy key, hmarks.keysEqual,
        hkeyed.reserve hkey, hkey, record, hmarks, rfl, hvalue⟩
    | faulted _ _ | refused _ | oversized _ _ | full _ _ | merged _ _ _ => cases hanswer

theorem Leads.exists_binds {table' : Table β} {trace : List (Operation × Except Failure Reply)}
    (h : Leads (wordLimit - 1) Table.size Operation.perform (Operation.Respects policy key handle)
      table trace table')
    (hshows : table.Shows policy bs) (hbinds : bs.Binds policy handle key stored value?) :
    ∃ bs', table'.Shows policy bs' ∧ bs'.Binds policy handle key stored
      (Operation.lastWritten policy key handle value? trace) := by
  induction h with
  | start => exact ⟨bs, hshows, hbinds⟩
  | @step table' _ _ hroom memory op hop ih =>
    obtain ⟨bs', hshows', hbinds'⟩ := ih
    have hsize : table'.size = bs'.liveCount := LawfulSlotStorage.size_eq hshows'.storage
    have hroom' : bs'.liveCount + 1 < wordLimit := hsize ▸ Nat.add_lt_of_lt_sub hroom
    obtain ⟨bs'', hshows'', -, -, hstep⟩ := (op.run_perform hshows' memory).exists_binds
      hbinds'.keyed (LawfulSlotStorage.length_lt hshows'.storage) hroom' hop
    refine ⟨bs'', hshows'', ?_⟩
    rw [Operation.lastWritten, List.foldl_append]
    exact hstep hbinds'

end

/-! ## What is seen of it -/

namespace Table

variable {kind : LayoutKind} {policy : Policy} {bs : Buckets} {table : Table (Chains kind.Store)}
  {handle : Handle} {key stored : Bytes} {value? : Option Bytes}

/-- What a table shows of a key that a handle stands for: the bytes of the key and its value through
the handle, and the handle by the key. -/
structure Binds (table : Table (Chains kind.Store)) (handle : Handle) (key stored : Bytes)
    (value? : Option Bytes) : Prop where
  keyOf?_eq : table.keyOf? handle = .ok (some stored)
  valueOf?_eq : table.valueOf? handle = .ok value?
  get?_eq : table.get? key = .ok value?
  answer_find? : ((find? key).run table).answer = .ok (some handle)
  answer_reserve (memory : Memory) :
    ((reserve memory key).run table).answer = .ok (some handle, false)

/-- Reserving a key that has a slot packs the slot, whatever memory there is. -/
theorem Shows.run_reserve_eq_pack (h : table.Shows policy bs) (hkey : key.length = policy.keySize)
    {slot : Slot} (hlocate : bs.locate policy key = some slot) (memory : Memory) :
    (reserve memory key).run table =
      ((Handle.pack bs.length slot).run table).andThen fun handle? => pure (handle?, false) := by
  have hstorage : (SlotStorage.reserve memory table.policy key).run table.storage =
      ⟨.ok ⟨slot, false⟩, table.storage, []⟩ := by
    rw [h.policy_eq]
    exact h.chains.run_reserve_of_eq_some hlocate memory
  rw [reserve, Action.run_read_bind, h.checkKey_eq hkey, Action.andThen_answer_ok, Action.run_bind,
    run_onStorage, hstorage, Outcome.andThen_ok, Action.run_read_bind, Action.andThen_answer_ok,
    Action.run_bind, ← h.bucketCount_eq]

theorem Shows.run_reserve_of_eq_some (h : table.Shows policy bs)
    (hkey : key.length = policy.keySize) {slot : Slot} (hlocate : bs.locate policy key = some slot)
    (memory : Memory) :
    ∃ log, (reserve memory key).run table =
      ⟨.ok (Handle.packed? bs.length slot, false), table, log⟩ := by
  have hbucket : slot.bucket < bs.length := by
    rw [(Buckets.of_locate_eq_some hlocate).1]
    exact Buckets.home_lt policy h.chains.length_pos key
  rw [h.run_reserve_eq_pack hkey hlocate,
    Handle.run_pack (LawfulSlotStorage.length_lt h.storage) hbucket]
  exact ⟨_, rfl⟩

theorem Shows.binds (h : table.Shows policy bs)
    (hbinds : bs.Binds policy handle key stored value?) :
    table.Binds handle key stored value? := by
  obtain ⟨record, hmarks, rfl, rfl⟩ := hbinds.exists_marks
  have hkey := hbinds.length_key
  have hlocate := hmarks.locate_eq hbinds.keyed hkey
  constructor
  · rw [h.keyOf?_eq, hmarks.live?_eq, Option.map_some]
  · rw [h.valueOf?_eq, hmarks.live?_eq, Option.bind_some]
  · rw [h.get?_eq hkey, hmarks.get?_eq hbinds.keyed hkey]
  · obtain ⟨log, hrun⟩ := h.run_find? hkey
    rw [hrun, hlocate, Option.bind_some, hmarks.packed?_eq]
  · intro memory
    obtain ⟨log, hrun⟩ := h.run_reserve_of_eq_some hkey hlocate memory
    rw [hrun, hmarks.packed?_eq]

end Table

end ByteTable
