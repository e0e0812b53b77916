import ByteTable.Proofs.Table.Invariant

/-!
# What a handle can do

A handle is a number, and every number but zero is a handle: one from before a rehash, one of
another table, one that was made up.  It is read as some slot, with the present number of buckets.
If that slot is live, the handle shows it and can change it, and it alone.  If it is not, because it
is a tombstone, or lies past the end of its chain or in a bucket that the table does not have, the
handle shows nothing, and an attempt to change something through it is a line in the log.

`Table.Serves` and `Table.Ignores` are the two cases, and `Table.Reachable.exists_served` says which
of them a handle is in.  No policy is assumed to be consistent: keys are not compared here.
-/

namespace ByteTable

namespace Table

variable {kind : LayoutKind} {policy : Policy} {bs : Buckets}
  {table table' : Table (Chains kind.Store)} {handle : Handle} {slot : Slot} {record : SlotRecord}
  {value : Bytes}

/-! ## A change of one slot -/

/-- Whether a second table is the first one with one slot changed.  No slot comes or goes or
moves. -/
structure Alters (table table' : Table (Chains kind.Store)) (slot : Slot)
    (change : SlotRecord → SlotRecord) : Prop where
  policy_eq : table'.policy = table.policy
  bucketCount_eq : table'.bucketCount = table.bucketCount
  exists_contents : ∃ buckets buckets' : Buckets,
    table.storage.contents = .ok buckets ∧ table'.storage.contents = .ok buckets' ∧
      buckets'.length = buckets.length ∧
      (∀ bucket, (buckets'.row bucket).length = (buckets.row bucket).length) ∧
      ∀ place, buckets'.at? place =
        if place = slot then (buckets.at? place).map change else buckets.at? place

theorem Shows.alters {change : SlotRecord → SlotRecord} (h : table.Shows policy bs)
    (h' : table'.Shows policy (bs.update slot change)) : table.Alters table' slot change := by
  have hlength := Grid.length_update bs slot change
  constructor
  · exact h'.policy_eq.trans h.policy_eq.symm
  · rw [h'.bucketCount_eq, h.bucketCount_eq, hlength]
  · exact ⟨bs, _, h.contents_eq, h'.contents_eq, hlength, Grid.length_row_update bs slot change,
      fun place => Grid.at?_update bs slot place change⟩

theorem Shows.of_storage (h : table.Shows policy bs) {storage : Chains kind.Store} {bs' : Buckets}
    (hstorage : LawfulSlotStorage.Shows storage policy.keySize policy.valueSize bs')
    (hlength : bs'.length = bs.length) (hplaced : bs'.Placed policy) :
    Table.Shows { table with storage } policy bs' :=
  ⟨h.policy_eq, h.bucketCount_eq.trans hlength.symm, hstorage, hplaced⟩

/-! ## Running -/

/-- Writing through a handle is writing to its slot, in the storage. -/
theorem Shows.run_assign (h : table.Shows policy bs) (hvalue : value.length = policy.valueSize)
    (handle : Handle) :
    (assign handle value).run table =
      (onStorage fun _ => SlotStorage.assign (handle.slotAt bs.length) value).run table := by
  rw [assign, Action.run_read_bind, h.checkValue_eq hvalue, Action.andThen_answer_ok,
    Action.run_read_bind, slotOf_eq h, Action.andThen_answer_ok]

theorem Shows.run_discard (h : table.Shows policy bs) (handle : Handle) :
    (discard handle).run table =
      (onStorage fun _ => SlotStorage.discard (handle.slotAt bs.length)).run table := by
  rw [discard, Action.run_read_bind, slotOf_eq h, Action.andThen_answer_ok]

/-! ## Handles of slots that are not live -/

/-- What a handle does if its slot is not live: it shows nothing, and an attempt to change something
changes nothing and is logged. -/
structure Ignores (table : Table (Chains kind.Store)) (handle : Handle) (slot : Slot) : Prop where
  keyOf?_eq : table.keyOf? handle = .ok none
  isWritten_eq : table.isWritten handle = .ok false
  valueOf?_eq : table.valueOf? handle = .ok none
  run_assign (value : Bytes) : value.length = table.policy.valueSize →
    (assign handle value).run table = ⟨.ok (), table, [.nothingToWrite slot]⟩
  run_discard : (discard handle).run table = ⟨.ok (), table, [.nothingToRemove slot]⟩

theorem Shows.ignores (h : table.Shows policy bs)
    (hslot : bs.live? (handle.slotAt bs.length) = none) :
    table.Ignores handle (handle.slotAt bs.length) := by
  constructor
  · rw [h.keyOf?_eq, hslot, Option.map_none]
  · rw [h.isWritten_eq, hslot, Option.any_none]
  · rw [h.valueOf?_eq, hslot, Option.bind_none]
  · intro value hvalue
    have hstorage : (SlotStorage.assign (handle.slotAt bs.length) value).run table.storage = _ :=
      h.chains.run_assign_of_eq_none hslot value
    rw [h.run_assign (h.policy_eq ▸ hvalue), run_onStorage, hstorage]
  · have hstorage : (SlotStorage.discard (handle.slotAt bs.length)).run table.storage = _ :=
      h.chains.run_discard_of_eq_none hslot
    rw [h.run_discard, run_onStorage, hstorage]

/-! ## Handles of live slots -/

/-- What a handle does if its slot is live: it shows the slot, it writes the value and the mark that
it was written, and it turns the slot into a tombstone.  Nothing is logged. -/
structure Serves (table : Table (Chains kind.Store)) (handle : Handle) (slot : Slot)
    (record : SlotRecord) : Prop where
  keyOf?_eq : table.keyOf? handle = .ok (some record.key)
  isWritten_eq : table.isWritten handle = .ok record.word.isWritten
  valueOf?_eq : table.valueOf? handle =
    .ok (if record.word.isWritten then some record.value else none)
  run_assign (value : Bytes) : value.length = table.policy.valueSize →
    ∃ table', (assign handle value).run table = ⟨.ok (), table', []⟩ ∧ table'.size = table.size ∧
      table.Alters table' slot fun old => ⟨old.word.markWritten, old.key, value⟩
  /-- The handle is ignored from then on. -/
  run_discard : ∃ table', (discard handle).run table = ⟨.ok (), table', []⟩ ∧
    table'.size + 1 = table.size ∧
    (table.Alters table' slot fun old => ⟨old.word.tombstoned, old.key, old.value⟩) ∧
    table'.Ignores handle slot

theorem Shows.serves (h : table.Shows policy bs)
    (hslot : bs.live? (handle.slotAt bs.length) = some record) :
    table.Serves handle (handle.slotAt bs.length) record := by
  have hat := (Buckets.live?_eq_some_iff.mp hslot).1
  have hpresent : (bs.live? (handle.slotAt bs.length)).isSome = true := by
    rw [hslot, Option.isSome_some]
  constructor
  · rw [h.keyOf?_eq, hslot, Option.map_some]
  · rw [h.isWritten_eq, hslot, Option.any_some, SlotRecord.isWritten]
  · rw [h.valueOf?_eq, hslot, Option.bind_some, SlotRecord.value?, SlotRecord.isWritten]
  · intro value hvalue
    have hvalue' : value.length = policy.valueSize := h.policy_eq ▸ hvalue
    obtain ⟨storage', hrun, hshows⟩ :=
      LawfulSlotStorage.run_assign h.storage hvalue' (handle.slotAt bs.length)
    have hwritten : bs.assign (handle.slotAt bs.length) value =
        bs.write (handle.slotAt bs.length) value := by
      simp only [Buckets.assign, hslot]
    rw [hwritten] at hshows
    rw [if_pos hpresent] at hrun
    have hshows' := h.of_storage hshows (Buckets.length_write bs _ value)
      (h.placed.write hslot value)
    refine ⟨{ table with storage := storage' }, ?_, ?_, h.alters hshows'⟩
    · rw [h.run_assign hvalue', run_onStorage, hrun]
    · have hcount := Buckets.liveCount_write hat value
      exact (hshows'.chains.size_eq.trans hcount).trans h.chains.size_eq.symm
  · obtain ⟨storage', hrun, hshows⟩ :=
      LawfulSlotStorage.run_discard h.storage (handle.slotAt bs.length)
    have hburied : bs.discard (handle.slotAt bs.length) = bs.bury (handle.slotAt bs.length) := by
      simp only [Buckets.discard, hslot]
    rw [hburied] at hshows
    rw [if_pos hpresent] at hrun
    have hlength := Buckets.length_bury bs (handle.slotAt bs.length)
    have hshows' := h.of_storage hshows hlength (h.placed.bury _)
    refine ⟨{ table with storage := storage' }, ?_, ?_, h.alters hshows', ?_⟩
    · rw [h.run_discard, run_onStorage, hrun]
    · have hcount := Buckets.liveCount_bury hslot
      rw [← hshows'.chains.size_eq, ← h.chains.size_eq] at hcount
      exact hcount
    · have hgone : (bs.bury (handle.slotAt bs.length)).live?
          (handle.slotAt (bs.bury (handle.slotAt bs.length)).length) = none := by
        rw [hlength, Buckets.live?_bury, if_pos rfl]
      have hignores := hshows'.ignores hgone
      rwa [hlength] at hignores

/-! ## Every handle -/

/-- A handle serves a reachable table exactly if it stands for a live slot, and is ignored
otherwise.  In both cases removing twice through it does no more than removing once. -/
theorem Reachable.exists_served (h : table.Reachable policy) (handle : Handle) :
    ∃ slot buckets, table.slotOf handle = .ok slot ∧ table.storage.contents = .ok buckets ∧
      (∀ record, Grid.at? buckets slot = some record → record.word.isTombstone = false →
        table.Serves handle slot record) ∧
      ((∀ record, Grid.at? buckets slot = some record → record.word.isTombstone = true) →
        table.Ignores handle slot) ∧
      ((discard handle).run ((discard handle).run table).state).state =
        ((discard handle).run table).state := by
  obtain ⟨bs, hshows⟩ := h.exists_shows
  refine ⟨handle.slotAt bs.length, bs, slotOf_eq hshows handle, hshows.contents_eq, ?_, ?_, ?_⟩
  · intro record hat htombstone
    refine hshows.serves (Buckets.live?_eq_some_iff.mpr ⟨hat, ?_⟩)
    rw [SlotRecord.isLive, htombstone, Bool.not_false]
  · intro hdead
    refine hshows.ignores (Option.eq_none_iff_forall_ne_some.mpr fun record hrecord => ?_)
    obtain ⟨hat, hlive⟩ := Buckets.live?_eq_some_iff.mp hrecord
    rw [SlotRecord.isLive, hdead record hat] at hlive
    cases hlive
  · rcases hslot : bs.live? (handle.slotAt bs.length) with _ | record
    · rw [(hshows.ignores hslot).run_discard, (hshows.ignores hslot).run_discard]
    · obtain ⟨table', hrun, -, -, hignores⟩ := (hshows.serves hslot).run_discard
      rw [hrun, hignores.run_discard]

/-- A table with one key, in the second of two buckets.  The handle 2 stands for its slot, and the
field of the handle 4 for no bucket at all. -/
theorem exists_served_of_two_handles :
    ∃ table : Table (Chains LayoutKind.interleaved.Store),
      table.Reachable (.standard 1 1) ∧
        (∃ record, table.Serves ⟨2, by decide⟩ ⟨1, 0⟩ record) ∧
        table.Ignores ⟨4, by decide⟩ ⟨wordLimit - 1, 1⟩ := by
  have hcreate : (create Memory.full (.standard 1 1) 2 :
      Action Unit (Table (Chains LayoutKind.interleaved.Store))).run () = ⟨.ok _, (), []⟩ := rfl
  have hone := (Reachable.created hcreate).step (by decide) Memory.full (.insert [7] [9])
  let record : SlotRecord :=
    ⟨(SlotWord.live ((Policy.standard 1 1).hash [7])).markWritten, [7], [9]⟩
  obtain ⟨table, htable, hslot, hslot', hcontents⟩ :
      ∃ table : Table (Chains LayoutKind.interleaved.Store), table.Reachable (.standard 1 1) ∧
        table.slotOf ⟨2, by decide⟩ = .ok ⟨1, 0⟩ ∧
        table.slotOf ⟨4, by decide⟩ = .ok ⟨wordLimit - 1, 1⟩ ∧
        table.storage.contents = .ok [[], [record]] :=
    ⟨_, hone, by decide +kernel, by decide +kernel, by decide +kernel⟩
  refine ⟨table, htable, ⟨record, ?_⟩, ?_⟩
  · obtain ⟨slot, buckets, hread, hall, hserves, -, -⟩ := htable.exists_served ⟨2, by decide⟩
    rw [hslot, Except.ok.injEq] at hread
    rw [hcontents, Except.ok.injEq] at hall
    subst hread hall
    exact hserves record rfl (by decide +kernel)
  · obtain ⟨slot, buckets, hread, hall, -, hignores, -⟩ := htable.exists_served ⟨4, by decide⟩
    rw [hslot', Except.ok.injEq] at hread
    rw [hcontents, Except.ok.injEq] at hall
    subst hread hall
    exact hignores fun record hrecord => by cases hrecord

end Table

end ByteTable
