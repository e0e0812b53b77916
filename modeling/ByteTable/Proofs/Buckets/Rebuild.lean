import ByteTable.Proofs.Buckets.Invariant

/-!
# Inserting live records anew

A rebuild puts the live records of a table one by one into an empty one, under any policy.  Each is
inserted if its value was written and reserved otherwise (`Buckets.readd`).

Whether this keeps all records depends on the comparisons that the searches make, and `Policy.Meets`
says which: a key meets an earlier one if both go to the same bucket, their truncated hashes are the
same and the comparator takes the later for the earlier.  If no key meets an earlier one, every
record gets a slot of its own and the result is the spread of the records (`foldl_readd_of_apart`).
If some key does, the first one that does adds no slot, and as no record adds more than one, the
final count is too small (`liveCount_foldl_readd_lt`).  So one look at the count tells the two cases
apart, for any comparator.
-/

namespace ByteTable

/-- Whether a search for a later key, in a table of so many buckets, would stop at an earlier
one. -/
structure Policy.Meets (policy : Policy) (bucketCount : Nat) (later earlier : Bytes) : Prop where
  bucket_eq : Buckets.home policy bucketCount later = Buckets.home policy bucketCount earlier
  truncated_eq :
    policy.hash later &&& SlotWord.hashMask = policy.hash earlier &&& SlotWord.hashMask
  keysEqual : policy.keysEqual later earlier = true

theorem SlotRecord.agrees_renewed_iff {policy : Policy} {record : SlotRecord} {hash : UInt64} :
    (record.renewed policy).word.agrees hash = true ↔
      policy.hash record.key &&& SlotWord.hashMask = hash &&& SlotWord.hashMask := by
  have hlive : (record.renewed policy).word.agrees hash =
      (SlotWord.live (policy.hash record.key)).agrees hash := by
    unfold renewed
    split
    · exact SlotWord.agrees_markWritten _ _
    · rfl
  rw [hlive, SlotWord.agrees_live, beq_iff_eq]

namespace Buckets

/-- Put a record into a table again: with its value if one was written, or else only its key. -/
def readd (policy : Policy) (bs : Buckets) (record : SlotRecord) : Buckets :=
  if record.isWritten then bs.insert policy record.key record.value
  else (bs.reserve policy record.key).2

/-- Whether no key of a list meets an earlier one. -/
def Apart (policy : Policy) (bucketCount : Nat) (keys : List Bytes) : Prop :=
  keys.Pairwise fun earlier later => ¬policy.Meets bucketCount later earlier

variable {policy : Policy} {bucketCount : Nat} {records : List SlotRecord} {record : SlotRecord}

theorem not_apart_iff {keys : List Bytes} :
    ¬Apart policy bucketCount keys ↔ ∃ (i j : Nat) (earlier later : Bytes), i < j ∧
      keys[i]? = some earlier ∧ keys[j]? = some later ∧ policy.Meets bucketCount later earlier := by
  rw [Apart, List.pairwise_iff_getElem]
  constructor
  · intro h
    simp only [Classical.not_forall, Classical.not_not] at h
    obtain ⟨i, j, hi, hj, hlt, hmeets⟩ := h
    exact ⟨i, j, keys[i], keys[j], hlt, List.getElem?_eq_getElem hi, List.getElem?_eq_getElem hj,
      hmeets⟩
  · rintro ⟨i, j, earlier, later, hlt, hearlier, hlater, hmeets⟩ hall
    obtain ⟨hi, rfl⟩ := List.getElem?_eq_some_iff.mp hearlier
    obtain ⟨hj, rfl⟩ := List.getElem?_eq_some_iff.mp hlater
    exact hall i j hi hj hlt hmeets

/-- Keys that were different under a consistent policy are apart under one that takes fewer keys for
the same. -/
theorem Distinct.apart_of_imp {policy' : Policy} {bs : Buckets}
    (h : bs.Distinct policy)
    (hfiner : ∀ a b, policy'.keysEqual a b = true → policy.keysEqual a b = true)
    (bucketCount : Nat) : Apart policy' bucketCount (bs.liveRecords.map SlotRecord.key) := by
  rw [Apart, List.pairwise_map]
  refine h.pairwise_liveRecords.imp ?_
  intro earlier later hdifferent hmeets
  have hequal := hfiner _ _ hmeets.keysEqual
  rw [hdifferent.2] at hequal
  cases hequal

/-! ## Putting one record -/

@[simp] theorem length_readd (policy : Policy) (bs : Buckets) (record : SlotRecord) :
    (bs.readd policy record).length = bs.length := by
  unfold readd
  split <;> simp

theorem liveCount_readd {bs : Buckets} (hpos : 0 < bs.length) (policy : Policy)
    (record : SlotRecord) :
    (bs.readd policy record).liveCount =
      bs.liveCount + if (bs.locate policy record.key).isSome then 0 else 1 := by
  by_cases hwritten : record.isWritten
  · rw [readd, if_pos hwritten, liveCount_insert hpos]
  · rw [readd, if_neg hwritten, liveCount_reserve hpos]

theorem write_claim {bs : Buckets} {bucket : Nat} (hbucket : bucket < bs.length)
    (record : SlotRecord) (value : Bytes) :
    (bs.claim bucket record).2.write (bs.claim bucket record).1 value =
      (bs.claim bucket (record.written value)).2 := by
  rcases h : (bs.row bucket).findIdx? (fun old => !old.isLive) with _ | item
  · rw [claim_of_eq_none h, claim_of_eq_none h]
    exact Grid.update_push hbucket record (.written value)
  · rw [claim_of_eq_some h, claim_of_eq_some h]
    exact Grid.update_update bs _ _ _

/-- A record whose key is not found gets a slot of its own. -/
theorem readd_of_locate_eq_none {bs : Buckets} (hpos : 0 < bs.length)
    (h : bs.locate policy record.key = none) :
    bs.readd policy record =
      (bs.claim (home policy bs.length record.key) (record.renewed policy)).2 := by
  by_cases hwritten : record.isWritten
  · rw [readd, if_pos hwritten, SlotRecord.renewed, if_pos hwritten, insert]
    simp only [reserve, h]
    exact write_claim (home_lt policy hpos record.key) _ _
  · rw [readd, if_neg hwritten, SlotRecord.renewed, if_neg hwritten]
    simp only [reserve, h]

/-- In a spread of renewed records, a search finds nothing if the key meets none of theirs. -/
theorem locate_spread_eq_none_iff (hpos : 0 < bucketCount) (key : Bytes) :
    (spread policy bucketCount (records.map (.renewed policy))).locate policy key = none ↔
      ∀ record ∈ records, ¬policy.Meets bucketCount key record.key := by
  rw [locate, Option.map_eq_none_iff, List.findIdx?_eq_none_iff, length_spread, row_spread hpos]
  constructor
  · intro hnone record hrecord hmeets
    have hmem : record.renewed policy ∈ (records.map (SlotRecord.renewed policy)).filter
        fun other => home policy bucketCount other.key == home policy bucketCount key := by
      rw [List.mem_filter, SlotRecord.key_renewed, hmeets.bucket_eq]
      exact ⟨List.mem_map_of_mem hrecord, beq_self_eq_true _⟩
    have hfalse := hnone _ hmem
    rw [SlotRecord.holds, SlotRecord.agrees_renewed_iff.mpr hmeets.truncated_eq.symm,
      SlotRecord.key_renewed, hmeets.keysEqual] at hfalse
    cases hfalse
  · intro hapart other hother
    obtain ⟨hmap, hbucket⟩ := List.mem_filter.mp hother
    obtain ⟨record, hrecord, rfl⟩ := List.mem_map.mp hmap
    rw [SlotRecord.key_renewed, beq_iff_eq] at hbucket
    rw [← Bool.not_eq_true]
    intro hholds
    obtain ⟨hagrees, hequal⟩ := Bool.and_eq_true_iff.mp hholds
    rw [SlotRecord.key_renewed] at hequal
    exact hapart record hrecord
      ⟨hbucket.symm, (SlotRecord.agrees_renewed_iff.mp hagrees).symm, hequal⟩

theorem liveCount_spread_renewed (hpos : 0 < bucketCount) (records : List SlotRecord) :
    (spread policy bucketCount (records.map (.renewed policy))).liveCount = records.length := by
  rw [liveCount_spread hpos, List.length_map]
  intro record hrecord
  obtain ⟨before, -, rfl⟩ := List.mem_map.mp hrecord
  exact SlotRecord.isLive_renewed policy before

theorem readd_spread (hpos : 0 < bucketCount)
    (hapart : ∀ before ∈ records, ¬policy.Meets bucketCount record.key before.key) :
    (spread policy bucketCount (records.map (.renewed policy))).readd policy record =
      spread policy bucketCount ((records ++ [record]).map (.renewed policy)) := by
  have hlive : ∀ other ∈ records.map (SlotRecord.renewed policy), other.isLive = true := by
    intro other hother
    obtain ⟨before, -, rfl⟩ := List.mem_map.mp hother
    exact SlotRecord.isLive_renewed policy before
  have hlength : 0 < (spread policy bucketCount (records.map (.renewed policy))).length := by
    rwa [length_spread]
  have hclaim : ((spread policy bucketCount (records.map (.renewed policy))).claim
      (home policy bucketCount record.key) (record.renewed policy)).2 =
      spread policy bucketCount (records.map (.renewed policy) ++ [record.renewed policy]) := by
    rw [← SlotRecord.key_renewed policy record]
    exact claim_spread hpos hlive (record.renewed policy)
  rw [readd_of_locate_eq_none hlength ((locate_spread_eq_none_iff hpos record.key).mpr hapart),
    length_spread, hclaim, List.map_append, List.map_singleton]

/-! ## Putting all records -/

theorem length_foldl_readd (policy : Policy) (bs : Buckets) (records : List SlotRecord) :
    (records.foldl (readd policy) bs).length = bs.length := by
  induction records generalizing bs with
  | nil => rfl
  | cons record records ih => rw [List.foldl_cons, ih, length_readd]

theorem readd_spread_of_renewed (hpos : 0 < bucketCount)
    (hrenewed : ∀ other ∈ records ++ [record], other.renewed policy = other)
    (hapart : ∀ before ∈ records, ¬policy.Meets bucketCount record.key before.key) :
    (spread policy bucketCount records).readd policy record =
      spread policy bucketCount (records ++ [record]) := by
  have hreadd := readd_spread hpos hapart
  rwa [SlotRecord.map_renewed hrenewed,
    SlotRecord.map_renewed fun before hbefore => hrenewed before (List.mem_append_left _ hbefore)]
    at hreadd

/-- Records whose keys are apart are spread over the new buckets. -/
theorem foldl_readd_of_apart (hpos : 0 < bucketCount)
    (h : Apart policy bucketCount (records.map SlotRecord.key)) :
    records.foldl (readd policy) (empty bucketCount) =
      spread policy bucketCount (records.map (.renewed policy)) := by
  induction records using List.reverseRecOn with
  | nil => rw [List.map_nil, spread_nil, List.foldl_nil]
  | append_singleton records record ih =>
    rw [Apart, List.map_append, List.pairwise_append] at h
    obtain ⟨hrecords, -, hlast⟩ := h
    rw [List.foldl_append, ih hrecords, List.foldl_cons, List.foldl_nil]
    refine readd_spread hpos ?_
    intro before hbefore
    exact hlast before.key (List.mem_map_of_mem hbefore) record.key List.mem_cons_self

/-- If some key meets an earlier one, a record is lost. -/
theorem liveCount_foldl_readd_lt (hpos : 0 < bucketCount)
    (h : ¬Apart policy bucketCount (records.map SlotRecord.key)) :
    (records.foldl (readd policy) (empty bucketCount)).liveCount < records.length := by
  induction records using List.reverseRecOn with
  | nil => exact absurd List.Pairwise.nil h
  | append_singleton records record ih =>
    have hlength : 0 < (records.foldl (readd policy) (empty bucketCount)).length := by
      rwa [length_foldl_readd, length_empty]
    rw [List.foldl_append, List.foldl_cons, List.foldl_nil, liveCount_readd hlength,
      List.length_append, List.length_singleton]
    by_cases hrecords : Apart policy bucketCount (records.map SlotRecord.key)
    · -- The keys before it are apart, so it is the last one that meets one of them.
      have hmeets : ¬∀ before ∈ records, ¬policy.Meets bucketCount record.key before.key := by
        intro hnone
        refine h ?_
        rw [Apart, List.map_append, List.pairwise_append]
        refine ⟨hrecords, List.pairwise_singleton _ _, fun earlier hearlier later hlater => ?_⟩
        obtain ⟨before, hbefore, rfl⟩ := List.mem_map.mp hearlier
        rw [List.map_singleton, List.mem_singleton] at hlater
        exact hlater ▸ hnone before hbefore
      rw [foldl_readd_of_apart hpos hrecords, liveCount_spread_renewed hpos]
      have hfound : (locate (spread policy bucketCount (records.map (.renewed policy))) policy
          record.key).isSome = true := by
        rw [Option.isSome_iff_ne_none]
        exact fun hnone => hmeets ((locate_spread_eq_none_iff hpos record.key).mp hnone)
      rw [hfound, if_pos rfl]
      omega
    · have hlt := ih hrecords
      split <;> omega

end Buckets

end ByteTable
