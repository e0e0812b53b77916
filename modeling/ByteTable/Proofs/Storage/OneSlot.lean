import ByteTable.Proofs.Storage.Exact

/-!
# One operation, one slot

Reserving a key that has a slot changes nothing.  A key that has none is given the first tombstone
of its bucket, or a new place at the end, and the slot is filled anew: nothing is left of the key,
the value or the flags that were there.  Setting a value is to reserve the key and then to write to
its slot.  Removing a key changes the two flags of its slot.  No other slot of any bucket is
touched, whatever the hash and the comparison do.

`Buckets.Fills` is the frame: one slot holds a given record, every other one what it held before.
`Chains.TouchesOneSlot` states it of what reading all slots of a layout gives, before and after.
-/

namespace ByteTable

/-- Whether a word is another one with its flags set anew. -/
structure SlotWord.Flagged (word word' : SlotWord) (tombstone written : Bool) : Prop where
  truncated_eq : word'.truncated = word.truncated
  isTombstone_eq : word'.isTombstone = tombstone
  isWritten_eq : word'.isWritten = written

theorem SlotWord.flagged_markWritten {word : SlotWord} (h : word.isTombstone = false) :
    word.Flagged word.markWritten false true :=
  ⟨truncated_markWritten word, (isTombstone_markWritten word).trans h, isWritten_markWritten word⟩

theorem SlotWord.flagged_tombstoned (word : SlotWord) : word.Flagged word.tombstoned true false :=
  ⟨truncated_tombstoned word, isTombstone_tombstoned word, isWritten_tombstoned word⟩

/-- A search for a key that equals itself stops at a slot just made for it. -/
theorem SlotRecord.holds_reserved {policy : Policy} {key : Bytes}
    (h : policy.keysEqual key key = true) : (reserved policy key).holds policy key = true := by
  rw [holds, reserved, SlotWord.agrees_live_self, h]
  rfl

/-! ## Filling a slot -/

namespace Buckets

variable {policy : Policy} {bs bs' : Buckets} {key : Bytes} {slot : Slot} {record : SlotRecord}

/-- Whether some buckets are others with one slot filled. -/
structure Fills (bs bs' : Buckets) (slot : Slot) (record : SlotRecord) : Prop where
  length_eq : bs'.length = bs.length
  at?_eq (place : Slot) : bs'.at? place = if place = slot then some record else bs.at? place

theorem fills_claim {bucket : Nat} (hbucket : bucket < bs.length) (record : SlotRecord) :
    bs.Fills (bs.claim bucket record).2 (bs.claim bucket record).1 record :=
  ⟨length_claim bs bucket record, at?_claim hbucket record⟩

/-- A change of one slot fills it with what the change makes of its record. -/
theorem fills_update (hslot : bs.at? slot = some record) (change : SlotRecord → SlotRecord) :
    bs.Fills (bs.update slot change) slot (change record) := by
  refine ⟨Grid.length_update bs slot change, fun place => ?_⟩
  rw [Grid.at?_update]
  by_cases hplace : place = slot
  · rw [if_pos hplace, if_pos hplace, hplace, hslot, Option.map_some]
  · rw [if_neg hplace, if_neg hplace]

/-- If the search for a key found nothing, it finds a slot of the home bucket that was filled with
what it looks for. -/
theorem Fills.locate_eq_some (h : bs.Fills bs' slot record)
    (hbucket : slot.bucket = home policy bs.length key) (hlocate : bs.locate policy key = none)
    (hholds : record.holds policy key = true) : bs'.locate policy key = some slot := by
  rcases hfound : bs'.locate policy key with _ | found
  · -- The search would have stopped at the filled slot.
    have hat : bs'.at? slot = some record := by rw [h.at?_eq, if_pos rfl]
    rw [← h.length_eq] at hbucket
    rw [holds_eq_false_of_locate_eq_none hfound hbucket hat] at hholds
    cases hholds
  · -- Any other slot that it stops at was there before.
    obtain ⟨hhome, other, hother, hstops⟩ := of_locate_eq_some hfound
    have hat := (live?_eq_some_iff.mp hother).1
    by_contra hne
    rw [h.at?_eq, if_neg fun hsame => hne (congrArg some hsame)] at hat
    rw [h.length_eq] at hhome
    rw [holds_eq_false_of_locate_eq_none hlocate hhome hat] at hstops
    cases hstops

/-- The slot that is claimed is the first tombstone of the bucket, or the end of it. -/
theorem item_claim (bs : Buckets) (bucket : Nat) (record : SlotRecord) :
    (bs.claim bucket record).1.item = (bs.row bucket).findIdx (·.word.isTombstone) := by
  have hdead : (fun old : SlotRecord => !old.isLive) = (·.word.isTombstone) :=
    funext fun old => Bool.not_not _
  rcases h : (bs.row bucket).findIdx? (fun old => !old.isLive) with _ | item
  · rw [claim_of_eq_none h, ← hdead]
    exact (List.findIdx?_eq_none_iff_findIdx_eq.mp h).symm
  · rw [claim_of_eq_some h, ← hdead]
    exact (List.findIdx?_eq_some_iff_findIdx_eq.mp h).2.symm

end Buckets

/-! ## What is done to the chains -/

namespace Chains

section

variable {L : Type} [Layout L]

/-- Whether chains hold what some buckets do, but for one slot, which holds this record. -/
def HoldsBut (chains : Chains L) (buckets : Buckets) (slot : Slot) (record : SlotRecord) : Prop :=
  ∃ buckets' : Buckets, chains.contents = .ok buckets' ∧ buckets.Fills buckets' slot record

/-- Whether inserting and removing a key touch one slot of some chains, and which.  The answers of
`reserve` and `insert` are those of a memory that does not refuse; the only other thing that could
stop them is a counter that is full. -/
structure TouchesOneSlot (policy : Policy) (chains : Chains L) (key value : Bytes)
    (buckets : Buckets) : Prop where
  contents_eq : chains.contents = .ok buckets
  exists_locate : ∃ slot?, chains.locate policy key = .ok slot?
  run_reserve {slot : Slot} : chains.locate policy key = .ok (some slot) → ∀ memory,
    (reserve memory policy key).run chains = ⟨.ok ⟨slot, false⟩, chains, []⟩
  /-- The slot of a new key. -/
  exists_reserved : chains.locate policy key = .ok none → chains.size + 1 < wordLimit → ∀ memory,
    ((reserve memory policy key).run chains).answer ≠ .error (.error .allocation) →
    ∃ slot after, (reserve memory policy key).run chains = ⟨.ok ⟨slot, true⟩, after, []⟩ ∧
      slot.bucket = (policy.hash key).toNat % SlotStorage.bucketCount chains ∧
      slot.item = (buckets.row slot.bucket).findIdx (·.word.isTombstone) ∧
      after.HoldsBut buckets slot
        ⟨.live (policy.hash key), key, Bytes.zeroes policy.valueSize⟩ ∧
      after.size = chains.size + 1 ∧
      (policy.keysEqual key key = true → after.locate policy key = .ok (some slot))
  /-- An insertion goes on where the reservation ends: the written flag is set, and the value. -/
  exists_inserted {memory : Memory} {reservation : Reservation} {reserved : Chains L}
    {log : List Event} :
    (reserve memory policy key).run chains = ⟨.ok reservation, reserved, log⟩ →
    ∃ (buckets' : Buckets) (record : SlotRecord) (word : SlotWord) (after : Chains L),
      reserved.contents = .ok buckets' ∧ buckets'.at? reservation.slot = some record ∧
      record.word.Flagged word false true ∧
      (insert memory policy key value).run chains = ⟨.ok (), after, log⟩ ∧
      after.HoldsBut buckets' reservation.slot ⟨word, record.key, value⟩ ∧
      after.size = reserved.size
  /-- It fails as the reservation does. -/
  run_insert_of_error {memory : Memory} {cause : Failure} {reserved : Chains L}
    {log : List Event} :
    (reserve memory policy key).run chains = ⟨.error cause, reserved, log⟩ →
    (insert memory policy key value).run chains = ⟨.error cause, reserved, log⟩
  run_erase : chains.locate policy key = .ok none →
    (erase policy key).run chains = ⟨.ok (), chains, []⟩
  /-- A removal changes the flags of the slot that the search finds. -/
  exists_erased {slot : Slot} : chains.locate policy key = .ok (some slot) →
    ∃ record word after, buckets.at? slot = some record ∧ record.word.Flagged word true false ∧
      (erase policy key).run chains = ⟨.ok (), after, []⟩ ∧
      after.HoldsBut buckets slot ⟨word, record.key, record.value⟩ ∧
      after.size + 1 = chains.size

end

namespace Shows

variable {L : Type} [Layout L] [LawfulLayout L] {chains after reserved : Chains L}
  {keySize valueSize : Nat} {bs bs' : Buckets} {policy : Policy} {key value : Bytes} {slot : Slot}
  {record : SlotRecord} {reservation : Reservation} {memory : Memory} {log : List Event}

theorem contents_eq (h : chains.Shows keySize valueSize bs) : chains.contents = .ok bs :=
  LawfulLayout.contents_eq h.layout

theorem holdsBut (h : after.Shows keySize valueSize bs') (hfills : bs.Fills bs' slot record) :
    after.HoldsBut bs slot record :=
  ⟨bs', h.contents_eq, hfills⟩

theorem exists_reserved (h : chains.Shows keySize valueSize bs)
    (hfits : LawfulLayout.Fits L keySize valueSize) (hkey : key.length = keySize)
    (hvalueSize : policy.valueSize = valueSize) (hlocate : bs.locate policy key = none)
    (hroom : chains.size + 1 < wordLimit) (memory : Memory)
    (hgranted : ((reserve memory policy key).run chains).answer ≠ .error (.error .allocation)) :
    ∃ slot after bs', (reserve memory policy key).run chains = ⟨.ok ⟨slot, true⟩, after, []⟩ ∧
      slot.bucket = Buckets.home policy bs.length key ∧
      slot.item = (bs.row slot.bucket).findIdx (·.word.isTombstone) ∧
      after.Shows keySize valueSize bs' ∧ bs.Fills bs' slot (.reserved policy key) ∧
      bs'.liveCount = bs.liveCount + 1 := by
  have hhome := Buckets.home_lt policy h.length_pos key
  have hcount := Buckets.liveCount_claim hhome (SlotRecord.isLive_reserved policy key)
  have hreserve := h.run_reserve hkey hvalueSize memory
  simp only [Buckets.reserve, hlocate] at hreserve
  generalize (reserve memory policy key).run chains = outcome at hgranted hreserve
  cases hreserve with
  | done hafter =>
    have hbucket := (Buckets.claim_fst bs (Buckets.home policy bs.length key)
      (.reserved policy key)).1
    refine ⟨_, _, _, rfl, hbucket, ?_, hafter, Buckets.fills_claim hhome _, hcount⟩
    rw [Buckets.item_claim, hbucket]
  | refused _ => exact absurd rfl hgranted
  | oversized hsize _ => exact absurd hfits hsize
  | full hfull =>
    rw [hcount, ← h.size_eq] at hfull
    omega

theorem of_run_reserve (h : chains.Shows keySize valueSize bs) (hkey : key.length = keySize)
    (hvalueSize : policy.valueSize = valueSize)
    (hrun : (reserve memory policy key).run chains = ⟨.ok reservation, reserved, log⟩) :
    reservation = (bs.reserve policy key).1 ∧ log = [] ∧
      reserved.Shows keySize valueSize (bs.reserve policy key).2 := by
  have hreserve := h.run_reserve hkey hvalueSize memory
  rw [hrun] at hreserve
  cases hreserve with
  | done hreserved => exact ⟨rfl, rfl, hreserved⟩

/-- An insertion goes on where the reservation ends. -/
theorem run_insert_of_run_reserve (h : chains.Shows keySize valueSize bs)
    (hkey : key.length = keySize) (hvalue : value.length = valueSize)
    (hvalueSize : policy.valueSize = valueSize)
    (hrun : (reserve memory policy key).run chains = ⟨.ok reservation, reserved, log⟩) :
    ∃ after, (insert memory policy key value).run chains = ⟨.ok (), after, log⟩ ∧
      after.Shows keySize valueSize (bs.insert policy key value) := by
  obtain ⟨rfl, rfl, hreserved⟩ := h.of_run_reserve hkey hvalueSize hrun
  obtain ⟨after, hwrite, hafter⟩ := hreserved.run_writeSlot_of_reserve h.length_pos hvalue
  refine ⟨after, ?_, hafter⟩
  rw [insert_eq, Action.run_bind, hrun, Outcome.andThen_ok, hwrite]

theorem touchesOneSlot (h : chains.Shows policy.keySize policy.valueSize bs)
    (hfits : LawfulLayout.Fits L policy.keySize policy.valueSize)
    (hkey : key.length = policy.keySize) (hvalue : value.length = policy.valueSize) :
    chains.TouchesOneSlot policy key value bs := by
  have hlocate := h.locate_eq policy key
  have hfound : ∀ {slot?}, chains.locate policy key = .ok slot? → bs.locate policy key = slot? := by
    intro slot? hslot
    rw [hlocate, Except.ok.injEq] at hslot
    exact hslot
  constructor
  case contents_eq => exact h.contents_eq
  case exists_locate => exact ⟨_, hlocate⟩
  case run_reserve =>
    intro slot hslot memory
    exact h.run_reserve_of_eq_some (hfound hslot) memory
  case exists_reserved =>
    intro hnone hroom memory hgranted
    obtain ⟨slot, after, bs', hrun, hbucket, hitem, hafter, hfills, hcount⟩ :=
      h.exists_reserved hfits hkey rfl (hfound hnone) hroom memory hgranted
    have hhome : (policy.hash key).toNat % SlotStorage.bucketCount chains =
        Buckets.home policy bs.length key := by
      rw [LawfulSlotStorage.bucketCount_eq (β := Chains L) h, Buckets.home]
    refine ⟨slot, after, hrun, hbucket.trans hhome.symm, hitem, hafter.holdsBut hfills, ?_, ?_⟩
    · rw [hafter.size_eq, hcount, h.size_eq]
    · intro hequal
      rw [hafter.locate_eq,
        hfills.locate_eq_some hbucket (hfound hnone) (SlotRecord.holds_reserved hequal)]
  case exists_inserted =>
    intro memory reservation reserved log hrun
    obtain ⟨after, hinsert, hafter⟩ := h.run_insert_of_run_reserve hkey hvalue rfl hrun
    obtain ⟨rfl, -, hreserved⟩ := h.of_run_reserve hkey rfl hrun
    obtain ⟨-, record, hslot⟩ := Buckets.live?_reserve h.length_pos policy key
    obtain ⟨hat, htombstone⟩ := Buckets.live?_eq_some_iff_isTombstone.mp hslot
    refine ⟨_, record, _, after, hreserved.contents_eq, hat,
      SlotWord.flagged_markWritten htombstone, hinsert,
      hafter.holdsBut (Buckets.fills_update hat (.written value)), ?_⟩
    rw [hafter.size_eq, Buckets.insert, Buckets.liveCount_write hat, hreserved.size_eq]
  case run_insert_of_error =>
    intro memory cause reserved log hrun
    rw [insert_eq, Action.run_bind, hrun, Outcome.andThen_error]
  case run_erase =>
    intro hnone
    exact h.run_erase_of_eq_none (hfound hnone)
  case exists_erased =>
    intro slot hsome
    obtain ⟨-, record, hslot, -⟩ := Buckets.of_locate_eq_some (hfound hsome)
    obtain ⟨after, hrun, hafter⟩ := h.run_erase_of_eq_some (hfound hsome)
    have hat := (Buckets.live?_eq_some_iff.mp hslot).1
    refine ⟨record, _, after, hat, SlotWord.flagged_tombstoned record.word, hrun,
      hafter.holdsBut (Buckets.fills_update hat _), ?_⟩
    rw [hafter.size_eq, Buckets.liveCount_bury hslot, h.size_eq]

end Shows

end Chains

/-- Inserting and removing a key touch one slot of the chains that operations led to, under any
policy. -/
theorem Storage.Reachable.exists_touchesOneSlot {kind : LayoutKind} {policy : Policy}
    {chains : Chains kind.Store} (h : Storage.Reachable policy chains)
    (hbytes : 8 + policy.keySize + policy.valueSize < wordLimit) {key value : Bytes}
    (hkey : key.length = policy.keySize) (hvalue : value.length = policy.valueSize) :
    ∃ buckets, chains.TouchesOneSlot policy key value buckets := by
  obtain ⟨bs, hkeeps⟩ := h.exists_keeps
  have hshows : chains.Shows policy.keySize policy.valueSize bs := hkeeps.shows
  exact ⟨bs, hshows.touchesOneSlot (LawfulLayout.fits_of_lt hbytes) hkey hvalue⟩

/-- Of two keys of a bucket the first was removed, so a third takes its slot. -/
theorem Storage.touchesOneSlot_of_tombstone :
    ∃ (chains : Chains LayoutKind.hashSeparated.Store) (buckets : Buckets),
      Storage.Reachable (.standard 1 1) chains ∧ 8 + 1 + 1 < wordLimit ∧
        chains.TouchesOneSlot (.standard 1 1) [3] [9] buckets ∧
        ((chains.locate (.standard 1 1) [3]).toOption,
          ((Chains.reserve Memory.full (.standard 1 1) [3]).run chains).answer.toOption) =
            (some none, some ⟨⟨0, 0⟩, true⟩) := by
  have hcreate : (SlotStorage.create Memory.full 1 1 1 :
      Except TableError (Chains LayoutKind.hashSeparated.Store)) = .ok _ := rfl
  have hnew : Storage.Reachable (.standard 1 1) _ := .created (by decide) hcreate
  have hkey : ∀ byte : UInt8, List.length [byte] = (Policy.standard 1 1).keySize := fun _ => rfl
  have hvalue : ∀ byte : UInt8, List.length [byte] = (Policy.standard 1 1).valueSize := fun _ => rfl
  have hone := hnew.insert (by decide +kernel) Memory.full (hkey 1) (hvalue 7)
  have htwo := hone.insert (by decide +kernel) Memory.full (hkey 2) (hvalue 8)
  have hremoved := htwo.erase [1]
  obtain ⟨buckets, htouches⟩ :=
    Storage.Reachable.exists_touchesOneSlot hremoved (by decide) (hkey 3) (hvalue 9)
  exact ⟨_, buckets, hremoved, by decide, htouches, by decide +kernel⟩

end ByteTable
