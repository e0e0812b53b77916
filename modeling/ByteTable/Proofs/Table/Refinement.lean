import ByteTable.Proofs.Buckets.Entries
import ByteTable.Proofs.Table.Leads
import Mathlib.Data.Multiset.Defs

/-!
# A table is a finite map

A session uses a table as a map: by key, and through the handle that the last search for a key gave.
`Session.step` performs a `Command` on a table, and `KeyMap.Session.step` says what it means for a
`KeyMap`, where the handle is just the key it was got for.  The two answer alike in every run
(`Session.map_answer_history`) as long as memory suffices and no chain grows beyond what a handle
can address.  A map has no order, so the answers that list its keys or its pairs are multisets.

The relation between them is `Mirrors`.  The entries of the live slots are those of the map in some
order, and a handle in hand stands for the slot of its key, or for no live slot if the key is absent
(`Buckets.StandsFor`).  Each command has a lemma on buckets and maps alone; that the table does the
same is `Operation.run_perform` once for all.
-/

namespace ByteTable

/-! ## Commands -/

/-- What is asked of a table that is used as a map. -/
inductive Command where
  /-- Set the value of a key. -/
  | insert (key value : Bytes)
  /-- Look up the value of a key. -/
  | get (key : Bytes)
  /-- Look for a key, and keep its handle. -/
  | find (key : Bytes)
  /-- Make a key present, and keep its handle. -/
  | reserve (key : Bytes)
  /-- Remove a key. -/
  | erase (key : Bytes)
  /-- Write a value through the handle. -/
  | assign (value : Bytes)
  /-- Remove the key of the handle. -/
  | discard
  /-- Ask whether the key of the handle has a value. -/
  | isWritten
  /-- Read the key of the handle. -/
  | keyOf
  /-- Read the value of the handle. -/
  | valueOf
  /-- Count the keys. -/
  | size
  /-- List the keys. -/
  | keys
  /-- Iterate over the pairs to their end. -/
  | pairs
  /-- Change the number of buckets. -/
  | rehash (bucketCount : Nat)

/-- What a map answers to a command.  A map does not order its keys. -/
inductive Answer where
  | done
  | value (value? : Option Bytes)
  | present (present : Bool)
  /-- Whether there is a handle, and whether the key was absent. -/
  | reserved (handle created : Bool)
  | count (count : Nat)
  | keys (keys : Multiset Bytes)
  | pairs (pairs : Multiset (Bytes × Bytes))
  /-- There is no handle to go through. -/
  | noHandle
  deriving DecidableEq

/-- What a reply says about the map. -/
def Reply.answer : Reply → Answer
  | bytes value? => .value value?
  | flag value => .present value
  | handle handle? => .present handle?.isSome
  | reserved handle? created => .reserved handle?.isSome created
  | number count => .count count
  | list elements => .keys elements
  | pairs shown => .pairs (shown.filterMap id)
  | _ => .done

namespace Command

/-- Whether keys and values have the lengths of the policy, and there is to be a bucket. -/
def Sized (policy : Policy) : Command → Prop
  | insert key value => key.length = policy.keySize ∧ value.length = policy.valueSize
  | get key | find key | reserve key | erase key => key.length = policy.keySize
  | assign value => value.length = policy.valueSize
  | rehash bucketCount => 0 < bucketCount
  | _ => True

/-- The operation that a command stands for in a table of so many keys, unless it lacks a handle.
After one call for each key an iterator has nothing left to show. -/
def operation? (size : Nat) (handle? : Option Handle) : Command → Option Operation
  | insert key value => some (.insert key value)
  | get key => some (.get key)
  | find key => some (.find key)
  | reserve key => some (.reserve key)
  | erase key => some (.erase key)
  | assign value => handle?.map (.assign · value)
  | discard => handle?.map .discard
  | isWritten => handle?.map .isWritten
  | keyOf => handle?.map .keyOf
  | valueOf => handle?.map .valueOf
  | .size => some .size
  | keys => some .keys
  | pairs => some (.pairs (size + 1))
  | rehash bucketCount => some (.rehash bucketCount)

/-- The handle that is kept.  One that is in hand serves until the table is changed by key. -/
def keep (handle? : Option Handle) (reply : Except Failure Reply) : Command → Option Handle
  | find _ | reserve _ =>
    match reply with
    | .ok (.handle found?) => found?
    | .ok (.reserved found? _) => found?
    | _ => none
  | insert _ _ | erase _ | rehash _ => none
  | _ => handle?

end Command

/-- A table in use, and the handle that was just obtained. -/
structure Session (β : Type) where
  /-- The table. -/
  table : Table β
  /-- The handle. -/
  handle? : Option Handle

namespace Session

variable {β : Type} [Storage β]

/-- Perform a command. -/
def step (session : Session β) (memory : Memory) (command : Command) :
    Except Failure Answer × Session β :=
  match command.operation? session.table.size session.handle? with
  | none => (.ok .noHandle, session)
  | some op =>
    let outcome := (op.perform memory).run session.table
    (outcome.answer.map Reply.answer,
      ⟨outcome.state, command.keep session.handle? outcome.answer⟩)

/-- The answers of commands performed one after the other, and what each leaves. -/
def history (session : Session β) :
    List (Memory × Command) → List (Except Failure Answer × Session β)
  | [] => []
  | (memory, command) :: run =>
    session.step memory command :: (session.step memory command).2.history run

end Session

/-! ## The same on a map -/

/-- A map in use, and the key whose handle was just obtained. -/
structure KeyMap.Session where
  /-- The map. -/
  map : KeyMap
  /-- The key. -/
  key? : Option Bytes

namespace KeyMap.Session

/-- What a command answers and does, by the key that its handle was obtained for. -/
def through (s : Session) (answer : Bytes → Answer) (change : Bytes → KeyMap) : Answer × Session :=
  match s.key? with
  | none => (.noHandle, s)
  | some key => (answer key, { s with map := change key })

theorem through_of_eq_some {s : Session} {key : Bytes} (h : s.key? = some key)
    (answer : Bytes → Answer) (change : Bytes → KeyMap) :
    s.through answer change = (answer key, { s with map := change key }) := by
  simp only [through, h]

theorem through_of_eq_none {s : Session} (h : s.key? = none) (answer : Bytes → Answer)
    (change : Bytes → KeyMap) : s.through answer change = (.noHandle, s) := by
  simp only [through, h]

/-- Perform a command. -/
def step (policy : Policy) (s : Session) : Command → Answer × Session
  | .insert key value => (.done, ⟨s.map.insert policy key value, none⟩)
  | .get key => (.value (s.map.get? policy key), s)
  | .find key =>
    (.present (s.map.contains policy key),
      ⟨s.map, if s.map.contains policy key then some key else none⟩)
  | .reserve key =>
    (.reserved true (!s.map.contains policy key), ⟨s.map.reserve policy key, some key⟩)
  | .erase key => (.done, ⟨s.map.erase policy key, none⟩)
  | .assign value => s.through (fun _ => .done) (s.map.assign policy · value)
  | .discard => s.through (fun _ => .done) (s.map.erase policy ·)
  | .isWritten => s.through (fun key => .present (s.map.get? policy key).isSome) fun _ => s.map
  | .keyOf =>
    s.through (fun key => .value ((s.map.held? policy key).map Entry.key)) fun _ => s.map
  | .valueOf => s.through (fun key => .value (s.map.get? policy key)) fun _ => s.map
  | .size => (.count s.map.length, s)
  | .keys => (.keys (s.map.map Entry.key), s)
  | .pairs => (.pairs (s.map.filterMap Entry.pair?), s)
  | .rehash _ => (.done, ⟨s.map, none⟩)

/-- The answers to commands performed one after the other. -/
def answers (policy : Policy) (s : Session) : List Command → List Answer
  | [] => []
  | command :: commands =>
    (s.step policy command).1 :: (s.step policy command).2.answers policy commands

end KeyMap.Session

/-! ## Handles in hand -/

namespace Buckets

/-- Whether every item of every bucket can have a handle. -/
def isAddressable (bs : Buckets) : Bool :=
  bs.all fun row => row.length ≤ 1 <<< (64 - Handle.bitLength (bs.length + 1))

/-- Whether a handle stands for the slot of a key, or for no live slot if the key has none. -/
def StandsFor (policy : Policy) (bs : Buckets) : Option Handle → Option Bytes → Prop
  | none, none => True
  | some handle, some key => key.length = policy.keySize ∧
    bs.locate policy key =
      (bs.live? (handle.slotAt bs.length)).map fun _ => handle.slotAt bs.length
  | _, _ => False

variable {policy : Policy} {bs : Buckets} {key : Bytes} {handle : Handle}

theorem isAddressable_empty (bucketCount : Nat) : (empty bucketCount).isAddressable = true := by
  rw [isAddressable, List.all_eq_true]
  intro row hrow
  rw [List.eq_of_mem_replicate hrow]
  exact decide_eq_true (Nat.zero_le _)

theorem item_lt_of_isAddressable (h : bs.isAddressable = true) {slot : Slot} {record : SlotRecord}
    (hslot : bs.at? slot = some record) :
    slot.item < 1 <<< (64 - Handle.bitLength (bs.length + 1)) := by
  have hbucket := Grid.bucket_lt_of_at? hslot
  have hmem : bs.row slot.bucket ∈ bs :=
    List.mem_of_getElem? (Grid.getElem?_eq_some_row hbucket)
  have hlength := of_decide_eq_true (List.all_eq_true.mp h _ hmem)
  exact Nat.lt_of_lt_of_le (Grid.item_lt_of_at? hslot) hlength

/-- Buckets whose slots can all have handles hold fewer than a machine word counts. -/
theorem liveCount_lt_of_isAddressable (h : bs.isAddressable = true)
    (hlength : bs.length + 1 < wordLimit) : bs.liveCount + 1 < wordLimit := by
  have hrows : ∀ row ∈ bs, row.length ≤ 2 ^ (64 - Handle.bitLength (bs.length + 1)) := by
    intro row hrow
    rw [← Nat.one_shiftLeft]
    exact of_decide_eq_true (List.all_eq_true.mp h row hrow)
  have hcount : bs.liveCount ≤ bs.flatten.length := List.countP_le_length
  have hslots := Grid.length_flatten_le hrows
  have hfield := Handle.lt_shiftLeft_bitLength (bs.length + 1)
  rw [Nat.one_shiftLeft] at hfield
  have hwidth := Handle.bitLength_le hlength
  generalize Handle.bitLength (bs.length + 1) = width at hslots hfield hwidth
  have hpos := Nat.two_pow_pos (64 - width)
  have hall : (bs.length + 1) * 2 ^ (64 - width) < wordLimit := by
    calc (bs.length + 1) * 2 ^ (64 - width) < 2 ^ width * 2 ^ (64 - width) :=
          Nat.mul_lt_mul_of_pos_right hfield hpos
      _ = 2 ^ 64 := by rw [← Nat.pow_add, Nat.add_sub_cancel' hwidth]
      _ = wordLimit := rfl
  rw [Nat.add_mul, Nat.one_mul] at hall
  omega

/-- The handle of a key's slot stands for the key. -/
theorem Keyed.exists_handle (h : bs.Keyed policy) (haddressable : bs.isAddressable = true)
    (hlength : bs.length + 1 < wordLimit) (hkey : key.length = policy.keySize) {slot : Slot}
    (hslot : bs.locate policy key = some slot) :
    ∃ handle, Handle.packed? bs.length slot = some handle ∧
      bs.StandsFor policy (some handle) (some key) := by
  obtain ⟨record, hrecord, -⟩ := (h.locate_eq_some_iff hkey).mp hslot
  have hat := (live?_eq_some_iff.mp hrecord).1
  obtain ⟨handle, hpacked, hslotAt⟩ := Handle.exists_packed?_eq_some hlength
    (Grid.bucket_lt_of_at? hat) (item_lt_of_isAddressable haddressable hat)
  refine ⟨handle, hpacked, hkey, ?_⟩
  rw [hslotAt, hrecord, hslot, Option.map_some]

theorem StandsFor.exists_key {key? : Option Bytes} (h : bs.StandsFor policy (some handle) key?) :
    ∃ key, key? = some key := by
  cases key? with
  | none => exact h.elim
  | some key => exact ⟨key, rfl⟩

theorem StandsFor.lookup_eq (h : bs.StandsFor policy (some handle) (some key)) :
    bs.lookup policy key = bs.live? (handle.slotAt bs.length) := by
  rw [lookup, h.2]
  rcases hlive : bs.live? (handle.slotAt bs.length) with _ | record
  · rfl
  · rw [Option.map_some, Option.bind_some, hlive]

/-! ## One command -/

/-- Whether a map in use is what buckets and a handle in hand say. -/
structure Mirrors (policy : Policy) (bs : Buckets) (handle? : Option Handle) (s : KeyMap.Session) :
    Prop where
  keyed : bs.Keyed policy
  /-- The entries are the same, in some order. -/
  entries : s.map.Perm bs.entries
  standing : bs.StandsFor policy handle? s.key?

namespace Mirrors

variable {s : KeyMap.Session} {handle? : Option Handle} {value : Bytes}

theorem find (h : bs.Mirrors policy handle? s) (hlength : bs.length + 1 < wordLimit)
    (haddressable : bs.isAddressable = true) (hkey : key.length = policy.keySize) :
    (Operation.reply policy bs (.find key)).answer = (s.step policy (.find key)).1 ∧
      bs.Mirrors policy ((bs.locate policy key).bind (Handle.packed? bs.length))
        (s.step policy (.find key)).2 := by
  have hcontains := h.keyed.contains_eq h.entries hkey
  rw [KeyMap.Session.step, Operation.reply, Reply.answer, hcontains]
  rcases hslot : bs.locate policy key with _ | slot
  · exact ⟨rfl, h.keyed, h.entries, trivial⟩
  · obtain ⟨handle, hpacked, hstands⟩ :=
      h.keyed.exists_handle haddressable hlength hkey hslot
    rw [Option.bind_some, hpacked]
    exact ⟨rfl, h.keyed, h.entries, hstands⟩

theorem reserve (h : bs.Mirrors policy handle? s) (hlength : bs.length + 1 < wordLimit)
    (haddressable : (bs.reserve policy key).2.isAddressable = true)
    (hkey : key.length = policy.keySize) :
    (Operation.reply policy bs (.reserve key)).answer = (s.step policy (.reserve key)).1 ∧
      (bs.reserve policy key).2.Mirrors policy
        (Handle.packed? bs.length (bs.reserve policy key).1.slot)
        (s.step policy (.reserve key)).2 := by
  have hkeyed := h.keyed.reserve hkey
  have hcontains := h.keyed.contains_eq h.entries hkey
  have hentries := (KeyMap.reserve_perm h.entries key).trans (h.keyed.entries_reserve hkey).symm
  have hcreated : (bs.reserve policy key).1.created = !(bs.locate policy key).isSome := by
    rcases hslot : bs.locate policy key with _ | slot
    · simp only [Buckets.reserve, hslot]
      rfl
    · simp only [Buckets.reserve, hslot]
      rfl
  have hlength' := length_reserve bs policy key
  obtain ⟨handle, hpacked, hstands⟩ := hkeyed.exists_handle haddressable (hlength'.symm ▸ hlength)
    hkey (h.keyed.locate_reserve hkey)
  rw [hlength'] at hpacked
  rw [KeyMap.Session.step, Operation.reply, Reply.answer, hcontains, hcreated, hpacked]
  exact ⟨rfl, hkeyed, hentries, hstands⟩

theorem assign (h : bs.Mirrors policy (some handle) s)
    (hkeyed : (bs.assign (handle.slotAt bs.length) value).Keyed policy) {key : Bytes}
    (hhand : s.key? = some key) :
    (bs.assign (handle.slotAt bs.length) value).Mirrors policy (some handle)
      { s with map := s.map.assign policy key value } := by
  have hstands := h.standing
  rw [hhand] at hstands
  obtain ⟨hkey, hlocate⟩ := hstands
  rcases hlive : bs.live? (handle.slotAt bs.length) with _ | record
  · rw [hlive, Option.map_none] at hlocate
    have habsent : s.map.contains policy key = false := by
      rw [h.keyed.contains_eq h.entries hkey, hlocate]
      rfl
    rw [KeyMap.assign_of_contains_eq_false habsent]
    simpa only [Buckets.assign, hlive] using h
  · rw [hlive, Option.map_some] at hlocate
    simp only [Buckets.assign, hlive] at hkeyed ⊢
    have hentries : (s.map.assign policy key value).Perm
        (bs.write (handle.slotAt bs.length) value).entries := by
      rw [h.keyed.entries_write hkey hlocate]
      exact KeyMap.assign_perm h.entries key value
    refine ⟨hkeyed, hentries, ?_⟩
    rw [hhand]
    refine ⟨hkey, ?_⟩
    have hwritten : (bs.write (handle.slotAt bs.length) value).live? (handle.slotAt bs.length) =
        some (record.written value) := by
      rw [live?_write, if_pos rfl, hlive, Option.map_some]
    obtain ⟨record', hrecord', hequal⟩ := (h.keyed.locate_eq_some_iff hkey).mp hlocate
    rw [hlive, Option.some.injEq] at hrecord'
    rw [length_write, hwritten, Option.map_some]
    exact (hkeyed.locate_eq_some_iff hkey).mpr ⟨record.written value, hwritten, hrecord' ▸ hequal⟩

theorem discard (h : bs.Mirrors policy (some handle) s)
    (hkeyed : (bs.discard (handle.slotAt bs.length)).Keyed policy) {key : Bytes}
    (hhand : s.key? = some key) :
    (bs.discard (handle.slotAt bs.length)).Mirrors policy (some handle)
      { s with map := s.map.erase policy key } := by
  have hstands := h.standing
  rw [hhand] at hstands
  obtain ⟨hkey, hlocate⟩ := hstands
  rcases hlive : bs.live? (handle.slotAt bs.length) with _ | record
  · rw [hlive, Option.map_none] at hlocate
    have habsent : s.map.contains policy key = false := by
      rw [h.keyed.contains_eq h.entries hkey, hlocate]
      rfl
    rw [KeyMap.erase_of_contains_eq_false habsent]
    simpa only [Buckets.discard, hlive] using h
  · rw [hlive, Option.map_some] at hlocate
    simp only [Buckets.discard, hlive] at hkeyed ⊢
    have hentries : (s.map.erase policy key).Perm (bs.bury (handle.slotAt bs.length)).entries := by
      rw [h.keyed.entries_bury hkey hlocate]
      exact KeyMap.erase_perm h.entries key
    refine ⟨hkeyed, hentries, ?_⟩
    rw [hhand]
    refine ⟨hkey, ?_⟩
    rw [length_bury, live?_bury, if_pos rfl, Option.map_none, Option.eq_none_iff_forall_ne_some]
    -- Any other slot that the search could find would have held the key before.
    intro place hplace
    obtain ⟨record', hrecord', hequal⟩ := (hkeyed.locate_eq_some_iff hkey).mp hplace
    obtain ⟨hne, hbefore⟩ := live?_bury_eq_some_iff.mp hrecord'
    have hfound := (h.keyed.locate_eq_some_iff hkey).mpr ⟨record', hbefore, hequal⟩
    rw [hlocate, Option.some.injEq] at hfound
    exact hne hfound.symm

/-- A command that goes through a handle has one, and a key for it. -/
theorem exists_hand (h : bs.Mirrors policy handle? s) {f : Handle → Operation} {op : Operation}
    (hop : handle?.map f = some op) :
    ∃ handle key, handle? = some handle ∧ f handle = op ∧ s.key? = some key := by
  obtain ⟨handle, rfl, hf⟩ := Option.map_eq_some_iff.mp hop
  obtain ⟨key, hhand⟩ := h.standing.exists_key
  exact ⟨handle, key, rfl, hf, hhand⟩

/-- What is read through a handle is what the map has for its key. -/
theorem live?_slotAt (h : bs.Mirrors policy (some handle) s) {key : Bytes}
    (hhand : s.key? = some key) :
    s.map.held? policy key =
        (bs.live? (handle.slotAt bs.length)).map SlotRecord.entry ∧
      s.map.get? policy key = (bs.live? (handle.slotAt bs.length)).bind SlotRecord.value? := by
  have hstands := h.standing
  rw [hhand] at hstands
  have hlookup := hstands.lookup_eq
  constructor
  · rw [h.keyed.held?_eq h.entries hstands.1, hlookup]
  · rw [h.keyed.get?_eq h.entries hstands.1, get?_eq_lookup, hlookup]

/-- An operation does to the buckets what its command does to the map. -/
theorem after (h : bs.Mirrors policy handle? s) (hlength : bs.length + 1 < wordLimit)
    {command : Command} (hsized : command.Sized policy)
    {op : Operation} (hop : command.operation? bs.liveCount handle? = some op)
    (hkeyed : (op.after policy bs).Keyed policy)
    (haddressable : (op.after policy bs).isAddressable = true) :
    (op.reply policy bs).answer = (s.step policy command).1 ∧
      (op.after policy bs).Mirrors policy (command.keep handle? (.ok (op.reply policy bs)))
        (s.step policy command).2 := by
  cases command with
  | insert key value =>
    cases hop
    have hentries := (KeyMap.insert_perm h.entries key value).trans
      (h.keyed.entries_insert hsized.1 value).symm
    exact ⟨rfl, hkeyed, hentries, trivial⟩
  | get key =>
    cases hop
    have hget := h.keyed.get?_eq h.entries hsized
    exact ⟨congrArg Answer.value hget.symm, h⟩
  | find key =>
    cases hop
    exact h.find hlength haddressable hsized
  | reserve key =>
    cases hop
    exact h.reserve hlength haddressable hsized
  | erase key =>
    cases hop
    have hentries : (s.map.erase policy key).Perm (bs.erase policy key).entries := by
      rw [h.keyed.entries_erase hsized]
      exact KeyMap.erase_perm h.entries key
    exact ⟨rfl, hkeyed, hentries, trivial⟩
  | size =>
    cases hop
    have hcount := h.entries.length_eq
    rw [length_entries] at hcount
    exact ⟨congrArg Answer.count hcount.symm, h⟩
  | keys =>
    cases hop
    have hkeys := h.entries.map Entry.key
    rw [Buckets.entries, List.map_map] at hkeys
    exact ⟨congrArg Answer.keys (Multiset.coe_eq_coe.mpr hkeys.symm), h⟩
  | pairs =>
    cases hop
    have hpairs := h.entries.filterMap Entry.pair?
    rw [Buckets.entries, List.filterMap_map] at hpairs
    have hcalls : (bs.liveRecords.filterMap SlotRecord.pair?).length ≤ bs.liveCount + 1 := by
      rw [liveCount_eq_length]
      exact Nat.le_succ_of_le (List.length_filterMap_le _ _)
    refine ⟨congrArg Answer.pairs ?_, h⟩
    rw [Pairs.filterMap_id_shown hcalls]
    exact Multiset.coe_eq_coe.mpr hpairs.symm
  | rehash bucketCount =>
    cases hop
    have hentries := h.entries.trans (entries_spread policy hsized bs).symm
    exact ⟨rfl, hkeyed, hentries, trivial⟩
  | assign value =>
    obtain ⟨handle, key, rfl, rfl, hhand⟩ := h.exists_hand hop
    rw [KeyMap.Session.step, KeyMap.Session.through_of_eq_some hhand]
    exact ⟨rfl, h.assign hkeyed hhand⟩
  | discard =>
    obtain ⟨handle, key, rfl, rfl, hhand⟩ := h.exists_hand hop
    rw [KeyMap.Session.step, KeyMap.Session.through_of_eq_some hhand]
    exact ⟨rfl, h.discard hkeyed hhand⟩
  | isWritten =>
    obtain ⟨handle, key, rfl, rfl, hhand⟩ := h.exists_hand hop
    rw [KeyMap.Session.step, KeyMap.Session.through_of_eq_some hhand, (h.live?_slotAt hhand).2]
    refine ⟨congrArg Answer.present ?_, h⟩
    rcases bs.live? (handle.slotAt bs.length) with _ | record
    · rfl
    · rw [Option.any_some, Option.bind_some, SlotRecord.value?]
      cases record.isWritten <;> rfl
  | keyOf =>
    obtain ⟨handle, key, rfl, rfl, hhand⟩ := h.exists_hand hop
    rw [KeyMap.Session.step, KeyMap.Session.through_of_eq_some hhand, (h.live?_slotAt hhand).1,
      Option.map_map]
    exact ⟨rfl, h⟩
  | valueOf =>
    obtain ⟨handle, key, rfl, rfl, hhand⟩ := h.exists_hand hop
    rw [KeyMap.Session.step, KeyMap.Session.through_of_eq_some hhand, (h.live?_slotAt hhand).2]
    exact ⟨rfl, h⟩

end Mirrors

end Buckets

/-! ## Runs -/

/-- An operation that nothing hinders or refuses does its work, and keys stay distinct. -/
theorem Operation.Ends.keyed {β : Type} [Storage β] [LawfulStorage β] {policy : Policy}
    {bs : Buckets} {op : Operation} {outcome : Outcome (Table β) Reply}
    (h : op.Ends policy bs outcome) (hkeyed : bs.Keyed policy) (hfault : op.fault? policy = none)
    (hunhindered : outcome.Unhindered) :
    outcome.answer = .ok (op.reply policy bs) ∧ outcome.state.Shows policy (op.after policy bs) ∧
      (op.after policy bs).Keyed policy := by
  have hsettled := h.settled hunhindered fun _ _ => hkeyed.distinct
  rw [Operation.settle_of_eq_none hfault] at hsettled
  obtain ⟨hanswer, hshows⟩ := hsettled
  exact ⟨hanswer, hshows, hkeyed.after hfault hshows⟩

/-- A command on keys and values of the right lengths is not refused. -/
theorem Command.fault?_eq_none {policy : Policy} {command : Command} (h : command.Sized policy)
    {size : Nat} {handle? : Option Handle} {op : Operation}
    (hop : command.operation? size handle? = some op) :
    op.fault? policy = none := by
  cases command with
  | insert key value =>
    cases hop
    rw [Operation.fault?, if_neg (not_not_intro h.1), if_neg (not_not_intro h.2)]
  | get key | find key | reserve key | erase key =>
    cases hop
    exact if_neg (not_not_intro h)
  | assign value =>
    obtain ⟨handle, -, rfl⟩ := Option.map_eq_some_iff.mp hop
    exact if_neg (not_not_intro h)
  | rehash bucketCount =>
    cases hop
    exact if_neg (Nat.not_lt.mpr h)
  | size | keys | pairs =>
    cases hop
    rfl
  | discard | isWritten | keyOf | valueOf =>
    obtain ⟨handle, -, rfl⟩ := Option.map_eq_some_iff.mp hop
    rfl

/-- A command that lacks a handle does nothing. -/
theorem KeyMap.Session.step_of_operation?_eq_none {policy : Policy} {bs : Buckets}
    {s : KeyMap.Session} {handle? : Option Handle} (h : bs.StandsFor policy handle? s.key?)
    {command : Command} {size : Nat} (hop : command.operation? size handle? = none) :
    s.step policy command = (.noHandle, s) := by
  have hnone : ∀ {f : Handle → Operation}, handle?.map f = none → s.key? = none := by
    intro f hmap
    rw [Option.map_eq_none_iff] at hmap
    rw [hmap] at h
    rcases hkey : s.key? with _ | key
    · rfl
    · rw [hkey] at h
      exact h.elim
  cases command with
  | insert key value | get key | find key | reserve key | erase key | size | keys | pairs
    | rehash bucketCount => cases hop
  | assign value | discard | isWritten | keyOf | valueOf =>
    exact through_of_eq_none (hnone hop) _ _

namespace Session

variable {kind : LayoutKind} {session : Session (Chains kind.Store)} {policy : Policy}
  {bs : Buckets} {s : KeyMap.Session}

/-- Whether every item of every bucket of the table can have a handle. -/
def isAddressable (session : Session (Chains kind.Store)) : Bool :=
  match session.table.storage.contents with
  | .ok buckets => Buckets.isAddressable buckets
  | .error _ => true

/-- A command answers as it does on the map, and the map is still the table's afterwards. -/
theorem step_eq (h : session.table.Shows policy bs) (hmirrors : bs.Mirrors policy session.handle? s)
    (hfits : 8 + policy.keySize + policy.valueSize < wordLimit)
    (hroom : bs.liveCount + 1 < wordLimit) {memory : Memory} {command : Command}
    (hsized : command.Sized policy)
    (hmemory : (session.step memory command).1 ≠ .error (.error .allocation))
    (haddressable : (session.step memory command).2.isAddressable = true) :
    (session.step memory command).1 = .ok (s.step policy command).1 ∧
      ∃ bs', (session.step memory command).2.table.Shows policy bs' ∧
        bs'.Mirrors policy (session.step memory command).2.handle? (s.step policy command).2 ∧
        bs'.isAddressable = true := by
  have hsize : session.table.size = bs.liveCount := LawfulSlotStorage.size_eq h.storage
  rcases hop : command.operation? session.table.size session.handle? with _ | op
  · have hstep : session.step memory command = (.ok .noHandle, session) := by
      simp only [step, hop]
    rw [hstep] at haddressable ⊢
    rw [KeyMap.Session.step_of_operation?_eq_none hmirrors.standing hop]
    refine ⟨rfl, bs, h, hmirrors, ?_⟩
    simpa only [isAddressable, h.contents_eq] using haddressable
  have hstep : session.step memory command =
      (((op.perform memory).run session.table).answer.map Reply.answer,
        ⟨((op.perform memory).run session.table).state,
          command.keep session.handle? ((op.perform memory).run session.table).answer⟩) := by
    simp only [step, hop]
  rw [hstep] at hmemory haddressable ⊢
  have hpos := LawfulSlotStorage.length_pos h.storage
  have hlength := LawfulSlotStorage.length_lt h.storage
  have hfault := Command.fault?_eq_none hsized hop
  have hends := op.run_perform h memory
  generalize (op.perform memory).run session.table = outcome at hends hmemory haddressable ⊢
  have hroom' : (op.after policy bs).liveCount < wordLimit :=
    Nat.lt_of_le_of_lt (op.liveCount_after_le hpos hfault) hroom
  have hgranted : outcome.answer ≠ .error (.error .allocation) := by
    intro hrefused
    rw [hrefused] at hmemory
    exact hmemory rfl
  have hunhindered := hends.unhindered hfault (LawfulSlotStorage.fits_of_lt hfits) hroom' hgranted
  obtain ⟨hanswer, hshows, hkeyed⟩ := hends.keyed hmirrors.keyed hfault hunhindered
  have hafter : (op.after policy bs).isAddressable = true := by
    simpa only [isAddressable, hshows.contents_eq] using haddressable
  rw [hanswer] at hmemory ⊢
  obtain ⟨hreply, hmirrors'⟩ := hmirrors.after hlength hsized (hsize ▸ hop) hkeyed hafter
  exact ⟨congrArg Except.ok hreply, op.after policy bs, hshows, hmirrors', hafter⟩

/-- A session answers as the map does that it mirrors. -/
theorem map_answer_history_of_mirrors (h : session.table.Shows policy bs)
    (hmirrors : bs.Mirrors policy session.handle? s)
    (hfits : 8 + policy.keySize + policy.valueSize < wordLimit)
    (haddressable : bs.isAddressable = true) {run : List (Memory × Command)}
    (hsized : ∀ step ∈ run, step.2.Sized policy)
    (hmemory : ∀ step ∈ session.history run, step.1 ≠ .error (.error .allocation))
    (haddressable' : ∀ step ∈ session.history run, step.2.isAddressable = true) :
    (session.history run).map Prod.fst = (s.answers policy (run.map Prod.snd)).map .ok := by
  induction run generalizing session bs s with
  | nil => rfl
  | cons step run ih =>
    obtain ⟨memory, command⟩ := step
    rw [history] at hmemory haddressable' ⊢
    have hroom := Buckets.liveCount_lt_of_isAddressable haddressable
      (LawfulSlotStorage.length_lt h.storage)
    obtain ⟨hanswer, bs', hshows, hmirrors', hnext⟩ := step_eq h hmirrors hfits hroom
      (hsized _ List.mem_cons_self) (hmemory _ List.mem_cons_self)
      (haddressable' _ List.mem_cons_self)
    have hrest := ih hshows hmirrors' hnext
      (fun step hstep => hsized step (List.mem_cons_of_mem _ hstep))
      (fun step hstep => hmemory step (List.mem_cons_of_mem _ hstep))
      (fun step hstep => haddressable' step (List.mem_cons_of_mem _ hstep))
    rw [List.map_cons, List.map_cons, KeyMap.Session.answers, List.map_cons, hanswer, hrest]

/-- A new table answers every run of commands as an empty map does, if no memory is refused and no
chain grows beyond what handles can address. -/
theorem map_answer_history {table : Table (Chains kind.Store)} {memory : Memory}
    {bucketCount : Nat} {log : List Event}
    (hcreate : (Table.create memory policy bucketCount :
      Action Unit (Table (Chains kind.Store))).run () = ⟨.ok table, (), log⟩)
    (hfits : 8 + policy.keySize + policy.valueSize < wordLimit)
    (hconsistent : policy.Consistent) {run : List (Memory × Command)}
    (hsized : ∀ step ∈ run, step.2.Sized policy)
    (hmemory : ∀ step ∈ history ⟨table, none⟩ run, step.1 ≠ .error (.error .allocation))
    (haddressable : ∀ step ∈ history ⟨table, none⟩ run, step.2.isAddressable = true) :
    (history ⟨table, none⟩ run).map Prod.fst =
      (KeyMap.Session.answers policy ⟨[], none⟩ (run.map Prod.snd)).map .ok := by
  have hshows := Table.shows_of_run_create hcreate
  have hpos := LawfulSlotStorage.length_pos hshows.storage
  rw [Buckets.length_empty] at hpos
  have hentries : (Buckets.empty bucketCount).entries = [] := by
    unfold Buckets.entries Buckets.liveRecords Buckets.empty
    simp
  have hmirrors : (Buckets.empty bucketCount).Mirrors policy none ⟨[], none⟩ :=
    ⟨.empty hconsistent hpos, hentries ▸ .refl _, trivial⟩
  exact map_answer_history_of_mirrors hshows hmirrors hfits
    (Buckets.isAddressable_empty bucketCount) hsized hmemory haddressable

/-- A key gets its value through its handle, another loses its own, and the table is rehashed. -/
theorem map_answer_history_of_eleven_commands :
    ∃ table : Table (Chains LayoutKind.hashSeparated.Store),
      (Table.create Memory.full (.standard 1 1) 2 : Action Unit _).run () = ⟨.ok table, (), []⟩ ∧
      (history ⟨table, none⟩ [(.full, .reserve [1]), (.full, .assign [9]), (.full, .insert [3] [5]),
          (.full, .find [3]), (.full, .discard), (.full, .rehash 5), (.full, .get [1]),
          (.full, .get [3]), (.full, .size), (.full, .keys), (.full, .pairs)]).map Prod.fst =
        [.ok (.reserved true true), .ok .done, .ok .done, .ok (.present true), .ok .done, .ok .done,
          .ok (.value (some [9])), .ok (.value none), .ok (.count 1), .ok (.keys (.ofList [[1]])),
          .ok (.pairs (.ofList [([1], [9])]))] := by
  have hcreate : (Table.create Memory.full (.standard 1 1) 2 :
      Action Unit (Table (Chains LayoutKind.hashSeparated.Store))).run () =
        ⟨.ok _, (), []⟩ := rfl
  exact ⟨_, hcreate, map_answer_history hcreate (by decide) (Policy.consistent_of_bytewise rfl)
    (by simp [Command.Sized, Policy.standard]) (by decide +kernel) (by decide +kernel)⟩

end Session

end ByteTable
