import ByteTable.Chains
import ByteTable.Proofs.Chains.Walk
import ByteTable.Proofs.Storage.Lawful

/-!
# Chains are a lawful storage

Over a lawful layout, every operation of `Chains` is the operation of the same name on the buckets
that the layout shows.  The proofs run each operation on the laws of the layout; no layout is
looked into.

The count of live slots is kept beside the layout.  That it is their number (`Chains.Shows.size_eq`)
is what `countUp` and `countDown` restore after each change, and the reason why `countDown` never
meets a zero.
-/

namespace ByteTable

namespace Chains

open LawfulLayout (Shows Fits)

variable {L : Type}

theorem run_onLayout {α : Type} (act : Action L α) (chains : Chains L) :
    (onLayout act).run chains =
      ⟨(act.run chains.layout).answer, { chains with layout := (act.run chains.layout).state },
        (act.run chains.layout).log⟩ := rfl

theorem run_countUp_of_lt {size : Nat} (h : size + 1 < wordLimit) (layout : L) :
    countUp.run ⟨layout, size⟩ = ⟨.ok (), ⟨layout, size + 1⟩, []⟩ := by
  rw [countUp, Action.run_read_bind, Action.andThen_answer_ok, addSizes_of_lt h,
    Action.liftM_ok_bind, Action.run_modify]

theorem run_countUp_of_le {size : Nat} (h : wordLimit ≤ size + 1) (layout : L) :
    countUp.run ⟨layout, size⟩ = ⟨.error (.crash .overflow), ⟨layout, size⟩, []⟩ := by
  rw [countUp, Action.run_read_bind, Action.andThen_answer_ok, addSizes_of_le h, Action.run_bind,
    Action.run_liftM_crash, Action.answer_error, Outcome.andThen_error]

theorem run_countDown (layout : L) (size : Nat) :
    countDown.run ⟨layout, size + 1⟩ = ⟨.ok (), ⟨layout, size⟩, []⟩ := by
  simp only [countDown, Action.run_read_bind, Action.andThen_answer_ok, Action.run_modify]

variable [Layout L]

/-- Mark a slot written and write its value, without a look at whether it is live. -/
def writeSlot (slot : Slot) (value : Bytes) : Action (Chains L) Unit := do
  let word ← Action.read fun chains => Layout.wordAt chains.layout slot
  onLayout (Layout.setWord slot word.markWritten)
  onLayout (Layout.setValue slot value)

/-- Setting the value of a key is reserving its slot and writing to it. -/
theorem insert_eq (memory : Memory) (policy : Policy) (key value : Bytes) :
    (insert memory policy key value : Action (Chains L) Unit) =
      reserve memory policy key >>= fun reservation => writeSlot reservation.slot value := by
  rw [insert, reserve, bind_assoc]
  refine congrArg _ (funext fun found => ?_)
  obtain ⟨bucket, item?⟩ := found
  rcases item? with _ | item
  · dsimp only
    rw [bind_assoc]
    simp only [pure_bind]
    rfl
  · dsimp only
    rw [pure_bind, pure_bind]
    rfl

variable [LawfulLayout L]

/-- Whether chains keep exactly these slots and count those that are live. -/
structure Shows (chains : Chains L) (keySize valueSize : Nat) (bs : Buckets) : Prop where
  layout : LawfulLayout.Shows chains.layout keySize valueSize bs
  size_eq : chains.size = bs.liveCount
  size_lt : chains.size < wordLimit
  length_pos : 0 < bs.length

namespace Shows

variable {chains : Chains L} {keySize valueSize : Nat} {bs : Buckets} {slot : Slot}
  {record : SlotRecord}

/-! ## Looking at a slot -/

theorem contains_eq (h : chains.Shows keySize valueSize bs) (slot : Slot) :
    chains.contains slot = .ok (bs.at? slot).isSome := by
  rw [contains, LawfulLayout.bucketCount_eq h.layout]
  by_cases hbucket : slot.bucket < bs.length
  · rw [if_pos hbucket, LawfulLayout.bucketLength_eq h.layout hbucket, ok_bind]
    refine congrArg Except.ok ?_
    rw [Bool.eq_iff_iff, decide_eq_true_iff, Grid.at?, isSome_getElem?]
  · rw [if_neg hbucket, Grid.at?, Grid.row_eq_nil_of_le (Nat.not_lt.mp hbucket)]
    rfl

theorem liveWord?_eq (h : chains.Shows keySize valueSize bs) (slot : Slot) :
    chains.liveWord? slot = .ok ((bs.live? slot).map SlotRecord.word) := by
  rw [liveWord?, h.contains_eq, ok_bind, Buckets.live?]
  rcases hslot : bs.at? slot with _ | record
  · rfl
  · rw [Option.isSome_some, if_pos rfl, LawfulLayout.wordAt_eq h.layout hslot, ok_bind,
      Option.filter_some, SlotRecord.isLive]
    cases record.word.isTombstone with
    | true => rfl
    | false => rfl

theorem keyAt_eq (h : chains.Shows keySize valueSize bs) (slot : Slot) :
    SlotStorage.keyAt chains slot = .ok ((bs.live? slot).map SlotRecord.key) := by
  simp only [SlotStorage.keyAt, h.liveWord?_eq, ok_bind]
  rcases hslot : bs.live? slot with _ | record
  · rfl
  · rw [Option.map_some, LawfulLayout.keyAt_eq h.layout (Buckets.live?_eq_some_iff.mp hslot).1]
    rfl

theorem valueAt_eq (h : chains.Shows keySize valueSize bs) (slot : Slot) :
    SlotStorage.valueAt chains slot = .ok ((bs.live? slot).map SlotRecord.value) := by
  simp only [SlotStorage.valueAt, h.liveWord?_eq, ok_bind]
  rcases hslot : bs.live? slot with _ | record
  · rfl
  · rw [Option.map_some, LawfulLayout.valueAt_eq h.layout (Buckets.live?_eq_some_iff.mp hslot).1]
    rfl

theorem isWritten_eq (h : chains.Shows keySize valueSize bs) (slot : Slot) :
    SlotStorage.isWritten chains slot = .ok ((bs.live? slot).any SlotRecord.isWritten) := by
  simp only [SlotStorage.isWritten, h.liveWord?_eq, ok_bind, Option.any_map]
  rfl

/-! ## Searching -/

theorem search_eq (h : chains.Shows keySize valueSize bs) (policy : Policy) (key : Bytes) :
    chains.search policy key = .ok (Buckets.home policy bs.length key,
      (bs.row (Buckets.home policy bs.length key)).findIdx? (SlotRecord.holds policy key)) := by
  have hbucket : chains.bucketOf (policy.hash key) = .ok (Buckets.home policy bs.length key) := by
    rw [bucketOf, LawfulLayout.bucketCount_eq h.layout, Policy.bucketOf,
      if_neg (Nat.ne_of_gt h.length_pos), Buckets.home]
  rw [search]
  simp only [hbucket, ok_bind]
  rw [Layout.probe_eq h.layout (Buckets.home_lt policy h.length_pos key)]
  rfl

theorem locate_eq (h : chains.Shows keySize valueSize bs) (policy : Policy) (key : Bytes) :
    chains.locate policy key = .ok (bs.locate policy key) := by
  rw [locate, h.search_eq, ok_bind]
  rfl

theorem get?_eq (h : chains.Shows keySize valueSize bs) (policy : Policy) (key : Bytes) :
    chains.get? policy key = .ok (bs.get? policy key) := by
  rw [get?, h.locate_eq, ok_bind, Buckets.get?]
  rcases hlocate : bs.locate policy key with _ | slot
  · rfl
  · obtain ⟨-, record, hrecord, -⟩ := Buckets.of_locate_eq_some hlocate
    have hat := (Buckets.live?_eq_some_iff.mp hrecord).1
    simp only [LawfulLayout.wordAt_eq h.layout hat, LawfulLayout.valueAt_eq h.layout hat, ok_bind,
      Option.bind_some, hat]
    have hvalue : record.value? = if record.word.isWritten then some record.value else none := rfl
    by_cases hwritten : record.word.isWritten
    · rw [hvalue, if_pos hwritten, if_pos hwritten]
      rfl
    · rw [hvalue, if_neg hwritten, if_neg hwritten]
      rfl

/-! ## Making a slot -/

/-- The slot of an existing record may be changed without being counted anew. -/
theorem of_layout (h : chains.Shows keySize valueSize bs) {layout : L} {bs' : Buckets}
    (hlayout : LawfulLayout.Shows layout keySize valueSize bs')
    (hcount : bs'.liveCount = bs.liveCount) (hlength : bs'.length = bs.length) :
    Shows { chains with layout } keySize valueSize bs' :=
  ⟨hlayout, h.size_eq.trans hcount.symm, h.size_lt, hlength ▸ h.length_pos⟩

theorem serves_countUp (h : chains.Shows keySize valueSize bs) {layout : L} {bs' : Buckets}
    (hlayout : LawfulLayout.Shows layout keySize valueSize bs')
    (hcount : bs'.liveCount = bs.liveCount + 1) (hlength : bs'.length = bs.length)
    (oversized : Prop) :
    (countUp.run { chains with layout }).Serves () [] (·.Shows keySize valueSize bs')
      (·.Shows keySize valueSize bs) oversized (wordLimit ≤ bs'.liveCount) := by
  by_cases hroom : chains.size + 1 < wordLimit
  · rw [run_countUp_of_lt hroom]
    exact .done ⟨hlayout, by rw [hcount, h.size_eq], hroom, hlength ▸ h.length_pos⟩
  · rw [run_countUp_of_le (Nat.not_lt.mp hroom)]
    refine .full ?_
    rw [hcount, ← h.size_eq]
    exact Nat.not_lt.mp hroom

theorem serves_append (h : chains.Shows keySize valueSize bs) {bucket : Nat}
    (hbucket : bucket < bs.length) {key : Bytes} (hkey : key.length = keySize) (word : SlotWord)
    (memory : Memory) (full : Prop) :
    ((onLayout (Layout.append memory bucket word key)).run chains).Serves (bs.row bucket).length []
      (fun after => ∃ layout, after = { chains with layout } ∧
        LawfulLayout.Shows layout keySize valueSize
          (bs.push bucket ⟨word, key, Bytes.zeroes valueSize⟩))
      (·.Shows keySize valueSize bs) (¬Fits L keySize valueSize) full := by
  by_cases hfits : Fits L keySize valueSize
  · have hgrows := LawfulLayout.run_append h.layout hfits hbucket hkey memory word
    refine .of_grows ?_ _ _
    unfold onLayout
    refine hgrows.within (fun layout => ⟨layout, chains.size⟩) _ _ rfl rfl ?_ ?_
    · exact fun layout hlayout => ⟨layout, rfl, hlayout.1⟩
    · exact fun layout hlayout => h.of_layout hlayout.1 rfl rfl
  · rw [run_onLayout, LawfulLayout.run_append_of_not_fits h.layout hfits]
    exact .oversized hfits h

theorem run_place (h : chains.Shows keySize valueSize bs) {policy : Policy} {key : Bytes}
    (hkey : key.length = keySize) (hvalueSize : policy.valueSize = valueSize) (memory : Memory) :
    ((place memory (Buckets.home policy bs.length key) (policy.hash key) key).run chains).Serves
      (bs.claim (Buckets.home policy bs.length key) (.reserved policy key)).1.item []
      (·.Shows keySize valueSize
        (bs.claim (Buckets.home policy bs.length key) (.reserved policy key)).2)
      (·.Shows keySize valueSize bs) (¬Fits L keySize valueSize)
      (wordLimit ≤
        (bs.claim (Buckets.home policy bs.length key) (.reserved policy key)).2.liveCount) := by
  have hhome := Buckets.home_lt policy h.length_pos key
  have hcount := Buckets.liveCount_claim hhome (SlotRecord.isLive_reserved policy key)
  have hlength := Buckets.length_claim bs (Buckets.home policy bs.length key)
    (.reserved policy key)
  have hreserved : SlotRecord.reserved policy key =
      ⟨.live (policy.hash key), key, Bytes.zeroes valueSize⟩ := by
    rw [SlotRecord.reserved, hvalueSize]
  have htombstone := Layout.firstTombstone?_eq h.layout hhome
  rcases hfind : (bs.row (Buckets.home policy bs.length key)).findIdx? (fun old => !old.isLive)
    with _ | item
  · -- The chain is made longer.
    rw [Buckets.claim_of_eq_none hfind] at hcount hlength ⊢
    rw [hfind] at htombstone
    rw [place, Action.run_read_bind, htombstone, Action.andThen_answer_ok]
    dsimp only
    rw [Action.run_bind]
    have happend := h.serves_append hhome hkey (.live (policy.hash key)) memory
      (wordLimit ≤ Buckets.liveCount
        (bs.push (Buckets.home policy bs.length key) (.reserved policy key)))
    rw [← hreserved] at happend
    refine happend.andThen ?_
    intro after hafter
    obtain ⟨layout, rfl, hlayout⟩ := hafter
    rw [Action.run_bind]
    exact (h.serves_countUp hlayout hcount hlength _).andThen_of_ok fun s hs => ⟨s, rfl, hs⟩
  · -- A tombstone is used again.
    obtain ⟨old, hold, -⟩ := Buckets.exists_tombstone hfind
    obtain ⟨layout, hrun, hlayout⟩ :=
      LawfulLayout.run_overwrite h.layout hold hkey (.live (policy.hash key))
    rw [← hreserved] at hlayout
    rw [Buckets.claim_of_eq_some hfind] at hcount hlength ⊢
    rw [hfind] at htombstone
    rw [place, Action.run_read_bind, htombstone, Action.andThen_answer_ok]
    dsimp only
    rw [Action.run_bind, run_onLayout, hrun, Outcome.andThen_ok, pure_bind, Action.run_bind]
    exact (h.serves_countUp hlayout hcount hlength _).andThen_of_ok fun s hs => ⟨s, rfl, hs⟩

/-- A key that has a slot keeps it, and nothing else happens. -/
theorem run_reserve_of_eq_some (h : chains.Shows keySize valueSize bs) {policy : Policy}
    {key : Bytes} (hlocate : bs.locate policy key = some slot) (memory : Memory) :
    (reserve memory policy key).run chains = ⟨.ok ⟨slot, false⟩, chains, []⟩ := by
  have hsearch := h.search_eq policy key
  obtain ⟨item, hfind, rfl⟩ := Option.map_eq_some_iff.mp hlocate
  rw [hfind] at hsearch
  rw [reserve, Action.run_read_bind, hsearch, Action.andThen_answer_ok]
  rfl

/-- A new key in a bucket without tombstones gets a slot at the end of the chain. -/
theorem run_reserve_of_eq_none (h : chains.Shows keySize valueSize bs) {policy : Policy}
    {key : Bytes} (hlocate : bs.locate policy key = none)
    (htombstone : (bs.row (Buckets.home policy bs.length key)).findIdx? (fun old => !old.isLive) =
      none) (memory : Memory) :
    (reserve memory policy key).run chains =
      ((onLayout (Layout.append memory (Buckets.home policy bs.length key)
        (.live (policy.hash key)) key)).run chains).andThen fun item =>
          countUp >>= fun _ => pure ⟨⟨Buckets.home policy bs.length key, item⟩, true⟩ := by
  have hsearch := h.search_eq policy key
  have hfirst := Layout.firstTombstone?_eq h.layout (Buckets.home_lt policy h.length_pos key)
  rw [Buckets.locate, Option.map_eq_none_iff] at hlocate
  rw [hlocate] at hsearch
  rw [htombstone] at hfirst
  rw [reserve, Action.run_read_bind, hsearch, Action.andThen_answer_ok]
  dsimp only
  rw [place]
  simp only [bind_assoc]
  rw [Action.run_read_bind, hfirst, Action.andThen_answer_ok]
  dsimp only
  rw [← Action.run_bind]
  simp only [bind_assoc, pure_bind]

theorem run_reserve (h : chains.Shows keySize valueSize bs) {policy : Policy} {key : Bytes}
    (hkey : key.length = keySize) (hvalueSize : policy.valueSize = valueSize) (memory : Memory) :
    ((reserve memory policy key).run chains).Serves (bs.reserve policy key).1 []
      (·.Shows keySize valueSize (bs.reserve policy key).2) (·.Shows keySize valueSize bs)
      (¬Fits L keySize valueSize) (wordLimit ≤ (bs.reserve policy key).2.liveCount) := by
  rcases hlocate : bs.locate policy key with _ | slot
  · have hsearch := h.search_eq policy key
    have hfind := hlocate
    rw [Buckets.locate, Option.map_eq_none_iff] at hfind
    rw [hfind] at hsearch
    rw [reserve, Action.run_read_bind, hsearch, Action.andThen_answer_ok]
    dsimp only
    rw [Action.run_bind]
    simp only [Buckets.reserve, hlocate]
    refine (h.run_place hkey hvalueSize memory).andThen_of_ok fun after hafter =>
      ⟨after, ?_, hafter⟩
    rw [Action.run_pure, Buckets.mk_item_claim]
  · rw [h.run_reserve_of_eq_some hlocate]
    simp only [Buckets.reserve, hlocate]
    exact .done h

/-! ## Working on a slot -/

theorem run_write (h : chains.Shows keySize valueSize bs) (hslot : bs.at? slot = some record)
    {value : Bytes} (hvalue : value.length = valueSize) :
    ∃ chains', (onLayout (Layout.setWord slot record.word.markWritten) >>= fun _ =>
        onLayout (Layout.setValue slot value)).run chains = ⟨.ok (), chains', []⟩ ∧
      chains'.Shows keySize valueSize (bs.write slot value) := by
  obtain ⟨marked, hmark, hmarked⟩ :=
    LawfulLayout.run_setWord h.layout hslot record.word.markWritten
  obtain ⟨layout, hset, hlayout⟩ := LawfulLayout.run_setValue hmarked
    (Grid.at?_update_of_eq_some hslot _) hvalue
  have hwrite : Grid.update (Grid.update bs slot fun old =>
      { old with word := record.word.markWritten }) slot (fun old => { old with value }) =
      bs.write slot value := by
    rw [Grid.update_update, Buckets.write]
    refine Grid.update_congr ?_
    intro old hold
    rw [hslot, Option.some.injEq] at hold
    rw [← hold]
    rfl
  rw [hwrite] at hlayout
  refine ⟨{ chains with layout }, ?_,
    h.of_layout hlayout (Buckets.liveCount_write hslot value) (Buckets.length_write _ _ _)⟩
  rw [Action.run_bind, run_onLayout, hmark, Outcome.andThen_ok, run_onLayout, hset]

theorem run_bury (h : chains.Shows keySize valueSize bs) (hslot : bs.live? slot = some record) :
    ∃ chains', (onLayout (Layout.setWord slot record.word.tombstoned) >>= fun _ => countDown).run
        chains = ⟨.ok (), chains', []⟩ ∧ chains'.Shows keySize valueSize (bs.bury slot) := by
  have hat := (Buckets.live?_eq_some_iff.mp hslot).1
  obtain ⟨layout, hset, hlayout⟩ := LawfulLayout.run_setWord h.layout hat record.word.tombstoned
  have hbury : Grid.update bs slot (fun old => { old with word := record.word.tombstoned }) =
      bs.bury slot := by
    unfold Buckets.bury
    refine Grid.update_congr ?_
    intro old hold
    rw [hat, Option.some.injEq] at hold
    rw [← hold]
    rfl
  rw [hbury] at hlayout
  have hcount := Buckets.liveCount_bury hslot
  have hsize : chains.size = (bs.bury slot).liveCount + 1 := h.size_eq.trans hcount.symm
  refine ⟨⟨layout, (bs.bury slot).liveCount⟩, ?_, hlayout, rfl, ?_, ?_⟩
  · rw [Action.run_bind, run_onLayout, hset, Outcome.andThen_ok, hsize, run_countDown]
  · have hlt := h.size_lt
    dsimp only
    omega
  · rw [Buckets.length_bury]
    exact h.length_pos

/-- There is nothing to write to a slot that is not live. -/
theorem run_assign_of_eq_none (h : chains.Shows keySize valueSize bs)
    (hslot : bs.live? slot = none) (value : Bytes) :
    (assign slot value).run chains = ⟨.ok (), chains, [.nothingToWrite slot]⟩ := by
  have hword := h.liveWord?_eq slot
  rw [hslot, Option.map_none] at hword
  rw [assign, Action.run_read_bind, hword, Action.andThen_answer_ok]
  rfl

theorem run_assign (h : chains.Shows keySize valueSize bs) {value : Bytes}
    (hvalue : value.length = valueSize) (slot : Slot) :
    ∃ chains', (assign slot value).run chains =
        ⟨.ok (), chains', if (bs.live? slot).isSome then [] else [.nothingToWrite slot]⟩ ∧
      chains'.Shows keySize valueSize (bs.assign slot value) := by
  have hword := h.liveWord?_eq slot
  rcases hslot : bs.live? slot with _ | record
  · refine ⟨chains, h.run_assign_of_eq_none hslot value, ?_⟩
    simpa only [Buckets.assign, hslot] using h
  · rw [hslot, Option.map_some] at hword
    obtain ⟨chains', hrun, hshows⟩ := h.run_write (Buckets.live?_eq_some_iff.mp hslot).1 hvalue
    refine ⟨chains', ?_, ?_⟩
    · rw [assign, Action.run_read_bind, hword, Action.andThen_answer_ok]
      exact hrun
    · simpa only [Buckets.assign, hslot] using hshows

/-- There is nothing to remove from a slot that is not live. -/
theorem run_discard_of_eq_none (h : chains.Shows keySize valueSize bs)
    (hslot : bs.live? slot = none) :
    (discard slot).run chains = ⟨.ok (), chains, [.nothingToRemove slot]⟩ := by
  have hword := h.liveWord?_eq slot
  rw [hslot, Option.map_none] at hword
  rw [discard, Action.run_read_bind, hword, Action.andThen_answer_ok]
  rfl

theorem run_discard (h : chains.Shows keySize valueSize bs) (slot : Slot) :
    ∃ chains', (discard slot).run chains =
        ⟨.ok (), chains', if (bs.live? slot).isSome then [] else [.nothingToRemove slot]⟩ ∧
      chains'.Shows keySize valueSize (bs.discard slot) := by
  have hword := h.liveWord?_eq slot
  rcases hslot : bs.live? slot with _ | record
  · refine ⟨chains, h.run_discard_of_eq_none hslot, ?_⟩
    simpa only [Buckets.discard, hslot] using h
  · rw [hslot, Option.map_some] at hword
    obtain ⟨chains', hrun, hshows⟩ := h.run_bury hslot
    refine ⟨chains', ?_, ?_⟩
    · rw [discard, Action.run_read_bind, hword, Action.andThen_answer_ok]
      exact hrun
    · simpa only [Buckets.discard, hslot] using hshows

/-! ## Working on a key -/

/-- A live slot is written as by a write that looks first. -/
theorem run_writeSlot (h : chains.Shows keySize valueSize bs) (hslot : bs.live? slot = some record)
    (value : Bytes) : (writeSlot slot value).run chains = (assign slot value).run chains := by
  have hword := h.liveWord?_eq slot
  rw [hslot, Option.map_some] at hword
  rw [writeSlot, assign, Action.run_read_bind, Action.run_read_bind, hword,
    LawfulLayout.wordAt_eq h.layout (Buckets.live?_eq_some_iff.mp hslot).1]
  rfl

/-- Writing to the slot that was just reserved for a key is what is left of its insertion. -/
theorem run_writeSlot_of_reserve {policy : Policy} {key value : Bytes} (hpos : 0 < bs.length)
    (h : chains.Shows keySize valueSize (bs.reserve policy key).2)
    (hvalue : value.length = valueSize) :
    ∃ chains', (writeSlot (bs.reserve policy key).1.slot value).run chains =
        ⟨.ok (), chains', []⟩ ∧
      chains'.Shows keySize valueSize (bs.insert policy key value) := by
  obtain ⟨-, record, hrecord⟩ := Buckets.live?_reserve hpos policy key
  obtain ⟨chains', hrun, hshows⟩ := h.run_assign hvalue (bs.reserve policy key).1.slot
  refine ⟨chains', ?_, ?_⟩
  · rw [h.run_writeSlot hrecord, hrun, hrecord]
    rfl
  · simpa only [Buckets.insert, Buckets.assign, hrecord] using hshows

theorem run_insert (h : chains.Shows keySize valueSize bs) {policy : Policy} {key value : Bytes}
    (hkey : key.length = keySize) (hvalue : value.length = valueSize)
    (hvalueSize : policy.valueSize = valueSize) (memory : Memory) :
    ((insert memory policy key value).run chains).Serves () []
      (·.Shows keySize valueSize (bs.insert policy key value)) (·.Shows keySize valueSize bs)
      (¬Fits L keySize valueSize) (wordLimit ≤ (bs.insert policy key value).liveCount) := by
  obtain ⟨-, record, hrecord⟩ := Buckets.live?_reserve h.length_pos policy key
  have hcount : (bs.insert policy key value).liveCount = (bs.reserve policy key).2.liveCount :=
    Buckets.liveCount_write (Buckets.live?_eq_some_iff.mp hrecord).1 value
  rw [hcount, insert_eq, Action.run_bind]
  refine (h.run_reserve hkey hvalueSize memory).andThen_of_ok ?_
  intro after hafter
  exact hafter.run_writeSlot_of_reserve h.length_pos hvalue

/-- An insertion fails if the slot of its key cannot be had, and not otherwise. -/
theorem answer_insert (h : chains.Shows keySize valueSize bs) {policy : Policy} {key value : Bytes}
    (hkey : key.length = keySize) (hvalue : value.length = valueSize)
    (hvalueSize : policy.valueSize = valueSize) (memory : Memory) :
    ((insert memory policy key value).run chains).answer =
      ((reserve memory policy key).run chains).answer.map fun _ => () := by
  have hreserve := h.run_reserve hkey hvalueSize memory
  rw [insert_eq, Action.run_bind]
  generalize (reserve memory policy key).run chains = outcome at hreserve
  cases hreserve with
  | done hafter =>
    obtain ⟨after, hrun, -⟩ := hafter.run_writeSlot_of_reserve h.length_pos hvalue
    rw [Outcome.andThen_ok, hrun]
    rfl
  | refused _ => rfl
  | oversized _ _ => rfl
  | full _ => rfl

theorem run_erase_of_eq_none (h : chains.Shows keySize valueSize bs) {policy : Policy} {key : Bytes}
    (hlocate : bs.locate policy key = none) :
    (erase policy key).run chains = ⟨.ok (), chains, []⟩ := by
  have hsearch := h.locate_eq policy key
  rw [hlocate] at hsearch
  rw [erase, Action.run_read_bind, hsearch, Action.andThen_answer_ok]
  rfl

theorem run_erase_of_eq_some (h : chains.Shows keySize valueSize bs) {policy : Policy} {key : Bytes}
    (hlocate : bs.locate policy key = some slot) :
    ∃ chains', (erase policy key).run chains = ⟨.ok (), chains', []⟩ ∧
      chains'.Shows keySize valueSize (bs.bury slot) := by
  have hsearch := h.locate_eq policy key
  rw [hlocate] at hsearch
  obtain ⟨-, record, hrecord, -⟩ := Buckets.of_locate_eq_some hlocate
  obtain ⟨chains', hrun, hshows⟩ := h.run_bury hrecord
  refine ⟨chains', ?_, hshows⟩
  rw [erase, Action.run_read_bind, hsearch, Action.andThen_answer_ok]
  dsimp only
  rw [Action.run_read_bind,
    LawfulLayout.wordAt_eq h.layout (Buckets.live?_eq_some_iff.mp hrecord).1,
    Action.andThen_answer_ok]
  exact hrun

theorem run_erase (h : chains.Shows keySize valueSize bs) (policy : Policy) (key : Bytes) :
    ∃ chains', (erase policy key).run chains = ⟨.ok (), chains', []⟩ ∧
      chains'.Shows keySize valueSize (bs.erase policy key) := by
  rcases hfound : bs.locate policy key with _ | slot
  · simp only [Buckets.erase, hfound]
    exact ⟨chains, h.run_erase_of_eq_none hfound, h⟩
  · simp only [Buckets.erase, hfound]
    exact h.run_erase_of_eq_some hfound

/-! ## Walking -/

theorem step_eq (h : chains.Shows keySize valueSize bs) {cursor : Cursor}
    (hstanding : bs.Standing cursor) (direction : Direction) :
    chains.step cursor direction = .ok (bs.step cursor direction) := by
  cases cursor with
  | head =>
    cases direction with
    | next =>
      rw [step, Layout.scanForward_eq h.layout h.length_pos, Buckets.slotsFrom_zero h.length_pos,
        Buckets.step, Buckets.liveSlots, List.head?_filter, Buckets.slots, List.range_eq_range']
      rfl
    | previous => rfl
  | tail =>
    cases direction with
    | next => rfl
    | previous =>
      obtain ⟨last, hlast⟩ := Nat.exists_eq_add_one_of_ne_zero (Nat.ne_of_gt h.length_pos)
      have hlt : last < bs.length := by omega
      have hcount := LawfulLayout.bucketCount_eq h.layout
      rw [hlast] at hcount
      rw [step, hcount]
      dsimp only
      rw [LawfulLayout.bucketLength_eq h.layout hlt, ok_bind,
        Layout.scanBackward_eq h.layout hlt (Nat.le_refl _), Buckets.slotsBelow_length,
        Buckets.step, Buckets.liveSlots, Buckets.slots, hlast]
  | on slot =>
    have hmem := hstanding slot rfl
    have hsplit := Buckets.liveSlots_eq_append hmem
    obtain ⟨record, hrecord⟩ := Buckets.mem_liveSlots_iff.mp hmem
    have hat := (Buckets.live?_eq_some_iff.mp hrecord).1
    have hbucket := Grid.bucket_lt_of_at? hat
    have hitem := Grid.item_lt_of_at? hat
    cases direction with
    | next =>
      have hlt := LawfulLayout.length_row_lt h.layout slot.bucket
      rw [step, addSizes_of_lt (by omega), ok_bind, Layout.scanForward_eq h.layout hbucket,
        Buckets.step_next_of_eq hsplit, List.head?_filter]
    | previous =>
      rw [step, Layout.scanBackward_eq h.layout hbucket (Nat.le_of_lt hitem),
        Buckets.step_previous_of_eq hsplit]
  | exhausted => rfl

theorem keys_eq (h : chains.Shows keySize valueSize bs) :
    chains.keys = .ok (bs.liveRecords.map SlotRecord.key) := by
  rw [keys, Layout.liveSlots_eq h.layout, ok_bind, ← Buckets.filterMap_liveSlots]
  refine mapM_eq_ok_filterMap ?_
  intro slot hslot
  obtain ⟨record, hrecord⟩ := Buckets.mem_liveSlots_iff.mp hslot
  exact ⟨record, hrecord, LawfulLayout.keyAt_eq h.layout (Buckets.live?_eq_some_iff.mp hrecord).1⟩

theorem values_eq (h : chains.Shows keySize valueSize bs) :
    chains.values = .ok (bs.liveRecords.map SlotRecord.value) := by
  rw [values, Layout.liveSlots_eq h.layout, ok_bind, ← Buckets.filterMap_liveSlots]
  refine mapM_eq_ok_filterMap ?_
  intro slot hslot
  obtain ⟨record, hrecord⟩ := Buckets.mem_liveSlots_iff.mp hslot
  exact ⟨record, hrecord, LawfulLayout.valueAt_eq h.layout (Buckets.live?_eq_some_iff.mp hrecord).1⟩

/-! ## Creating -/

theorem of_create {memory : Memory} {bucketCount : Nat}
    (h : create memory keySize valueSize bucketCount = .ok chains) :
    chains.Shows keySize valueSize (Buckets.empty bucketCount) := by
  by_cases hpos : bucketCount < 1
  · rw [create, if_pos hpos] at h
    cases h
  · rw [create, if_neg hpos] at h
    obtain ⟨layout, hlayout, h⟩ := exists_of_bind_eq_ok h
    cases h
    refine ⟨LawfulLayout.create_eq_ok hlayout, ?_, Nat.zero_lt_succ _, ?_⟩
    · rw [Buckets.liveCount_empty]
    · rw [Buckets.length_empty]
      omega

end Shows

theorem create_eq_error {memory : Memory} {keySize valueSize bucketCount : Nat} {cause : TableError}
    (h : (create memory keySize valueSize bucketCount : Except TableError (Chains L)) =
      .error cause) (hpos : 0 < bucketCount) : cause = .allocation := by
  rw [create, if_neg (by omega)] at h
  rcases eq_error_or_of_bind_eq_error h with hlayout | ⟨layout, -, h⟩
  · exact LawfulLayout.create_eq_error hlayout
  · cases h

instance : LawfulKeyedStorage (Chains L) where
  Shows := Shows
  Fits := Fits L
  fits_of_lt := LawfulLayout.fits_of_lt
  sized h := LawfulLayout.sized h.layout
  fits_of_at? h hslot := LawfulLayout.fits_of_at? h.layout hslot
  length_pos := Shows.length_pos
  length_lt h := LawfulLayout.length_lt h.layout
  length_row_lt h := LawfulLayout.length_row_lt h.layout
  liveCount_lt h := h.size_eq ▸ h.size_lt
  create_eq_ok := Shows.of_create
  create_eq_error := create_eq_error
  size_eq := Shows.size_eq
  bucketCount_eq h := LawfulLayout.bucketCount_eq h.layout
  isWritten_eq := Shows.isWritten_eq
  keyAt_eq := Shows.keyAt_eq
  valueAt_eq := Shows.valueAt_eq
  locate_eq := Shows.locate_eq
  run_reserve h hkey hvalueSize memory := h.run_reserve hkey hvalueSize memory
  run_assign h hvalue slot := h.run_assign hvalue slot
  run_discard h slot := h.run_discard slot
  step_eq h hstanding direction := h.step_eq hstanding direction
  length_liveSlots_le {_ _ _ bs} h :=
    Nat.le_trans bs.length_liveSlots_le (Nat.le_of_eq (Layout.slotCount_eq h.layout).symm)
  get?_eq := Shows.get?_eq
  run_insert h hkey hvalue hvalueSize memory := h.run_insert hkey hvalue hvalueSize memory
  run_erase := Shows.run_erase
  keys_eq := Shows.keys_eq
  values_eq := Shows.values_eq

end Chains

end ByteTable
