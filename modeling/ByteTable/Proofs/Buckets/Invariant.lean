import ByteTable.Proofs.Buckets.Spread
import ByteTable.Proofs.Buckets.Walk

/-!
# What stays true of buckets

Three properties of buckets that every operation keeps.

* `Sized`: keys and values have the lengths of the table, in tombstones too.
* `Placed`: a live slot lies in the home bucket of its key and is exactly what reserving the key,
  and perhaps writing a value, makes of a slot (`SlotRecord.renewed`); a tombstone is never written.
  This holds under any policy, because it never compares keys.
* `Distinct`: no two live slots hold keys that are the same under the policy.  This needs a policy
  that is `Consistent`: then a key that the search of its home bucket misses is in no bucket.

Under all three the search finds a key exactly where it is (`locate_eq_some_iff`).
-/

namespace ByteTable

/-- What reserving the record's key anew, and writing its value if one was written, would make. -/
def SlotRecord.renewed (policy : Policy) (record : SlotRecord) : SlotRecord :=
  if record.isWritten then (reserved policy record.key).written record.value
  else reserved policy record.key

namespace SlotRecord

variable {policy : Policy} {record : SlotRecord}

@[simp] theorem key_renewed (policy : Policy) (record : SlotRecord) :
    (record.renewed policy).key = record.key := by
  unfold renewed
  split <;> rfl

@[simp] theorem isLive_renewed (policy : Policy) (record : SlotRecord) :
    (record.renewed policy).isLive = true := by
  unfold renewed
  split <;> simp

theorem map_renewed {records : List SlotRecord}
    (h : ∀ record ∈ records, record.renewed policy = record) :
    records.map (.renewed policy) = records := by
  rw [List.map_congr_left h, List.map_id']

@[simp] theorem renewed_reserved (policy : Policy) (key : Bytes) :
    (reserved policy key).renewed policy = reserved policy key := by
  rw [renewed, isWritten_reserved, if_neg Bool.false_ne_true]
  rfl

theorem markWritten_word_of_renewed_eq (h : record.renewed policy = record) :
    record.word.markWritten = (SlotWord.live (policy.hash record.key)).markWritten := by
  by_cases hwritten : record.isWritten
  · have hword := congrArg SlotRecord.word h
    rw [renewed, if_pos hwritten] at hword
    rw [← hword]
    exact SlotWord.markWritten_markWritten _
  · have hword := congrArg SlotRecord.word h
    rw [renewed, if_neg hwritten] at hword
    rw [← hword]
    rfl

theorem renewed_written (h : record.renewed policy = record) (value : Bytes) :
    (record.written value).renewed policy = record.written value := by
  have hword := markWritten_word_of_renewed_eq h
  rw [renewed, isWritten_written, if_pos rfl]
  simp only [written, reserved, hword]

theorem agrees_of_renewed_eq (h : record.renewed policy = record) :
    record.word.agrees (policy.hash record.key) = true := by
  rw [← SlotWord.agrees_markWritten, markWritten_word_of_renewed_eq h,
    SlotWord.agrees_markWritten, SlotWord.agrees_live_self]

end SlotRecord

/-- Whether a policy's comparison is an equivalence on the keys of its size, and keys that are the
same have the same hash. -/
structure Policy.Consistent (policy : Policy) : Prop where
  refl : ∀ a, a.length = policy.keySize → policy.keysEqual a a = true
  symm : ∀ a b, a.length = policy.keySize → b.length = policy.keySize →
    policy.keysEqual a b = true → policy.keysEqual b a = true
  trans : ∀ a b c, a.length = policy.keySize → b.length = policy.keySize →
    c.length = policy.keySize → policy.keysEqual a b = true → policy.keysEqual b c = true →
    policy.keysEqual a c = true
  hash_eq : ∀ a b, a.length = policy.keySize → b.length = policy.keySize →
    policy.keysEqual a b = true → policy.hash a = policy.hash b

/-- Whether keys are the same when they look the same, seen in a certain way. -/
def Comparator.ComparesBy {α : Type} (comparator : Comparator) (view : Bytes → α) : Prop :=
  ∀ a b, comparator.equal a b = true ↔ view a = view b

/-- Looking the same is an equivalence, and consistent with every hash of what is seen. -/
theorem Policy.consistent_of_comparesBy {α : Type} {policy : Policy} {view : Bytes → α}
    (h : policy.comparator.ComparesBy view)
    (hhash : ∀ a b, a.length = policy.keySize → b.length = policy.keySize → view a = view b →
      policy.hash a = policy.hash b) : policy.Consistent where
  refl a _ := (h a a).mpr rfl
  symm a b _ _ hab := (h b a).mpr ((h a b).mp hab).symm
  trans a b c _ _ _ hab hbc := (h a c).mpr (((h a b).mp hab).trans ((h b c).mp hbc))
  hash_eq a b ha hb hab := hhash a b ha hb ((h a b).mp hab)

/-- Comparing the bytes is consistent with any hash. -/
theorem Policy.consistent_of_bytewise {policy : Policy} (h : policy.comparator = .bytewise) :
    policy.Consistent := by
  have hview : policy.comparator.ComparesBy (id : Bytes → Bytes) := by
    intro a b
    rw [h, Comparator.equal, beq_iff_eq]
    rfl
  refine consistent_of_comparesBy hview fun a b _ _ hsame => ?_
  rw [show a = b from hsame]

namespace Buckets

/-! ## Sizes -/

/-- Whether all keys and values, those of tombstones included, have the given lengths. -/
def Sized (bs : Buckets) (keySize valueSize : Nat) : Prop :=
  ∀ slot record, bs.at? slot = some record →
    record.key.length = keySize ∧ record.value.length = valueSize

namespace Sized

variable {bs : Buckets} {keySize valueSize : Nat}

theorem empty (bucketCount keySize valueSize : Nat) :
    (Buckets.empty bucketCount).Sized keySize valueSize := by
  intro slot record h
  rw [at?_empty] at h
  cases h

theorem update (h : bs.Sized keySize valueSize) {slot : Slot} {f : SlotRecord → SlotRecord}
    (hf : ∀ record, bs.at? slot = some record →
      (f record).key.length = keySize ∧ (f record).value.length = valueSize) :
    Buckets.Sized (bs.update slot f) keySize valueSize := by
  intro place record hplace
  rw [Grid.at?_update] at hplace
  by_cases heq : place = slot
  · rw [if_pos heq, Option.map_eq_some_iff] at hplace
    obtain ⟨old, hold, rfl⟩ := hplace
    exact hf old (heq ▸ hold)
  · rw [if_neg heq] at hplace
    exact h place record hplace

theorem push (h : bs.Sized keySize valueSize) {bucket : Nat} (hbucket : bucket < bs.length)
    {record : SlotRecord} (hkey : record.key.length = keySize)
    (hvalue : record.value.length = valueSize) :
    Buckets.Sized (bs.push bucket record) keySize valueSize := by
  intro place record' hplace
  rw [Grid.at?_push hbucket] at hplace
  by_cases heq : place = ⟨bucket, (bs.row bucket).length⟩
  · rw [if_pos heq, Option.some.injEq] at hplace
    exact hplace ▸ ⟨hkey, hvalue⟩
  · rw [if_neg heq] at hplace
    exact h place record' hplace

theorem of_mem_liveRecords (h : bs.Sized keySize valueSize) {record : SlotRecord}
    (hrecord : record ∈ bs.liveRecords) :
    record.key.length = keySize ∧ record.value.length = valueSize := by
  obtain ⟨slot, hslot⟩ := mem_liveRecords_iff.mp hrecord
  exact h slot record (live?_eq_some_iff.mp hslot).1

theorem reserve {policy : Policy} (h : bs.Sized keySize policy.valueSize) (hpos : 0 < bs.length)
    {key : Bytes} (hkey : key.length = keySize) :
    (bs.reserve policy key).2.Sized keySize policy.valueSize := by
  rcases hlocate : bs.locate policy key with _ | slot
  · simp only [Buckets.reserve, hlocate]
    intro place record hplace
    rcases at?_claim_cases (home_lt policy hpos key) hplace with ⟨-, rfl⟩ | hplace
    · exact ⟨hkey, Bytes.length_zeroes policy.valueSize⟩
    · exact h place record hplace
  · simpa only [Buckets.reserve, hlocate] using h

/-- Spreading the live slots over other buckets changes none of them. -/
theorem spread (h : bs.Sized keySize valueSize) {bucketCount : Nat} (hpos : 0 < bucketCount)
    (policy : Policy) :
    (Buckets.spread policy bucketCount bs.liveRecords).Sized keySize valueSize :=
  fun _ _ hplace => h.of_mem_liveRecords (mem_of_at?_spread hpos hplace).1

end Sized

/-! ## Places -/

/-- Whether every live slot lies where its key belongs and is as the operations make it. -/
structure Placed (policy : Policy) (bs : Buckets) : Prop where
  home : ∀ slot record, bs.live? slot = some record →
    slot.bucket = home policy bs.length record.key
  renewed : ∀ slot record, bs.live? slot = some record → record.renewed policy = record
  /-- A tombstone is not written. -/
  buried : ∀ slot record, bs.at? slot = some record → record.isLive = false →
    record.isWritten = false

namespace Placed

variable {policy : Policy} {bs : Buckets}

theorem empty (policy : Policy) (bucketCount : Nat) :
    (Buckets.empty bucketCount).Placed policy := by
  constructor
  · intro slot record h
    simp [live?] at h
  · intro slot record h
    simp [live?] at h
  · intro slot record h
    simp at h

theorem claim (h : bs.Placed policy) (hpos : 0 < bs.length) (key : Bytes) :
    (bs.claim (Buckets.home policy bs.length key) (.reserved policy key)).2.Placed policy := by
  have hhome := home_lt policy hpos key
  constructor
  · intro slot record hslot
    rw [length_claim]
    rcases live?_claim_cases hhome hslot with ⟨rfl, rfl⟩ | hslot
    · rw [(claim_fst _ _ _).1]
      rfl
    · exact h.home slot record hslot
  · intro slot record hslot
    rcases live?_claim_cases hhome hslot with ⟨-, rfl⟩ | hslot
    · rw [SlotRecord.renewed_reserved]
    · exact h.renewed slot record hslot
  · intro slot record hslot hdead
    rcases at?_claim_cases hhome hslot with ⟨-, rfl⟩ | hslot
    · rw [SlotRecord.isLive_reserved] at hdead
      cases hdead
    · exact h.buried slot record hslot hdead

theorem write (h : bs.Placed policy) {slot : Slot} {old : SlotRecord}
    (hlive : bs.live? slot = some old) (value : Bytes) : (bs.write slot value).Placed policy := by
  constructor
  · intro place record hplace
    rw [length_write]
    obtain ⟨before, hbefore, rfl | rfl⟩ := live?_write_cases hplace
    · exact h.home place record hbefore
    · exact h.home place before hbefore
  · intro place record hplace
    obtain ⟨before, hbefore, rfl | rfl⟩ := live?_write_cases hplace
    · exact h.renewed place record hbefore
    · exact SlotRecord.renewed_written (h.renewed place before hbefore) value
  · intro place record hplace hdead
    rw [Buckets.write, Grid.at?_update] at hplace
    by_cases heq : place = slot
    · rw [if_pos heq, heq, (live?_eq_some_iff.mp hlive).1, Option.map_some,
        Option.some.injEq] at hplace
      rw [← hplace, SlotRecord.isLive_written, (live?_eq_some_iff.mp hlive).2] at hdead
      cases hdead
    · rw [if_neg heq] at hplace
      exact h.buried place record hplace hdead

theorem bury (h : bs.Placed policy) (slot : Slot) : (bs.bury slot).Placed policy := by
  constructor
  · intro place record hplace
    rw [length_bury]
    exact h.home place record (live?_bury_eq_some_iff.mp hplace).2
  · intro place record hplace
    exact h.renewed place record (live?_bury_eq_some_iff.mp hplace).2
  · intro place record hplace hdead
    rw [Buckets.bury, Grid.at?_update] at hplace
    by_cases heq : place = slot
    · rw [if_pos heq, Option.map_eq_some_iff] at hplace
      obtain ⟨before, -, rfl⟩ := hplace
      exact SlotRecord.isWritten_removed before
    · rw [if_neg heq] at hplace
      exact h.buried place record hplace hdead

theorem spread {records : List SlotRecord}
    (h : ∀ record ∈ records, record.renewed policy = record) {bucketCount : Nat}
    (hpos : 0 < bucketCount) : (Buckets.spread policy bucketCount records).Placed policy := by
  constructor
  · intro slot record hslot
    rw [length_spread]
    exact (mem_of_at?_spread hpos (live?_eq_some_iff.mp hslot).1).2.symm
  · intro slot record hslot
    exact h record (mem_of_at?_spread hpos (live?_eq_some_iff.mp hslot).1).1
  · intro slot record hslot hdead
    rw [← h record (mem_of_at?_spread hpos hslot).1, SlotRecord.isLive_renewed] at hdead
    cases hdead

theorem of_mem_liveRecords (h : bs.Placed policy) {record : SlotRecord}
    (hrecord : record ∈ bs.liveRecords) : record.renewed policy = record := by
  obtain ⟨slot, hslot⟩ := mem_liveRecords_iff.mp hrecord
  exact h.renewed slot record hslot

theorem spread_liveRecords (h : bs.Placed policy) {bucketCount : Nat} (hpos : 0 < bucketCount) :
    (Buckets.spread policy bucketCount bs.liveRecords).Placed policy :=
  .spread (fun _ => h.of_mem_liveRecords) hpos

/-! The operations are made of these changes. -/

theorem reserve (h : bs.Placed policy) (hpos : 0 < bs.length) (key : Bytes) :
    (bs.reserve policy key).2.Placed policy := by
  rcases hlocate : bs.locate policy key with _ | slot
  · simp only [Buckets.reserve, hlocate]
    exact h.claim hpos key
  · simpa only [Buckets.reserve, hlocate] using h

theorem insert (h : bs.Placed policy) (hpos : 0 < bs.length) (key value : Bytes) :
    (bs.insert policy key value).Placed policy := by
  obtain ⟨-, record, hrecord⟩ := live?_reserve hpos policy key
  exact (h.reserve hpos key).write hrecord value

theorem assign (h : bs.Placed policy) (slot : Slot) (value : Bytes) :
    (bs.assign slot value).Placed policy := by
  rcases hlive : bs.live? slot with _ | record
  · simpa only [Buckets.assign, hlive] using h
  · simpa only [Buckets.assign, hlive] using h.write hlive value

theorem discard (h : bs.Placed policy) (slot : Slot) : (bs.discard slot).Placed policy := by
  rcases hlive : bs.live? slot with _ | record
  · simpa only [Buckets.discard, hlive] using h
  · simpa only [Buckets.discard, hlive] using h.bury slot

theorem erase (h : bs.Placed policy) (key : Bytes) : (bs.erase policy key).Placed policy := by
  rcases hlocate : bs.locate policy key with _ | slot
  · simpa only [Buckets.erase, hlocate] using h
  · simpa only [Buckets.erase, hlocate] using h.bury slot

end Placed

/-! ## Keys -/

/-- Whether no two live slots hold the same key. -/
def Distinct (policy : Policy) (bs : Buckets) : Prop :=
  ∀ slot slot' record record', bs.live? slot = some record → bs.live? slot' = some record' →
    policy.keysEqual record.key record'.key = true → slot = slot'

section Search

variable {policy : Policy} {bs : Buckets} {valueSize : Nat} {key : Bytes} {slot : Slot}
  {record : SlotRecord}

/-- A search for a key stops at the slot of a key that is the same. -/
theorem holds_of_keysEqual (hconsistent : policy.Consistent) (hplaced : bs.Placed policy)
    (hsized : bs.Sized policy.keySize valueSize) (hkey : key.length = policy.keySize)
    (hslot : bs.live? slot = some record) (hequal : policy.keysEqual key record.key = true) :
    slot.bucket = home policy bs.length key ∧ record.holds policy key = true := by
  have hsize := (hsized slot record (live?_eq_some_iff.mp hslot).1).1
  have hhash := hconsistent.hash_eq key record.key hkey hsize hequal
  constructor
  · rw [home, hhash]
    exact hplaced.home slot record hslot
  · rw [SlotRecord.holds, hhash, hequal, Bool.and_true]
    exact SlotRecord.agrees_of_renewed_eq (hplaced.renewed slot record hslot)

/-- A key that the search does not find is the same as no live key. -/
theorem keysEqual_eq_false_of_locate_eq_none (hconsistent : policy.Consistent)
    (hplaced : bs.Placed policy) (hsized : bs.Sized policy.keySize valueSize)
    (hkey : key.length = policy.keySize) (hlocate : bs.locate policy key = none)
    (hslot : bs.live? slot = some record) : policy.keysEqual key record.key = false := by
  rw [← Bool.not_eq_true]
  intro hequal
  obtain ⟨hbucket, hholds⟩ := holds_of_keysEqual hconsistent hplaced hsized hkey hslot hequal
  rw [holds_eq_false_of_locate_eq_none hlocate hbucket (live?_eq_some_iff.mp hslot).1] at hholds
  cases hholds

/-- The search finds a key exactly where it is. -/
theorem locate_eq_some_iff (hconsistent : policy.Consistent) (hplaced : bs.Placed policy)
    (hdistinct : bs.Distinct policy) (hsized : bs.Sized policy.keySize valueSize)
    (hkey : key.length = policy.keySize) :
    bs.locate policy key = some slot ↔
      ∃ record, bs.live? slot = some record ∧ policy.keysEqual key record.key = true := by
  constructor
  · intro hlocate
    obtain ⟨-, record, hrecord, hholds⟩ := of_locate_eq_some hlocate
    exact ⟨record, hrecord, (Bool.and_eq_true_iff.mp hholds).2⟩
  · rintro ⟨record, hrecord, hequal⟩
    rcases hlocate : bs.locate policy key with _ | found
    · rw [keysEqual_eq_false_of_locate_eq_none hconsistent hplaced hsized hkey hlocate
        hrecord] at hequal
      cases hequal
    · obtain ⟨-, record', hrecord', hholds⟩ := of_locate_eq_some hlocate
      have hequal' := (Bool.and_eq_true_iff.mp hholds).2
      have hsize := (hsized slot record (live?_eq_some_iff.mp hrecord).1).1
      have hsize' := (hsized found record' (live?_eq_some_iff.mp hrecord').1).1
      have hsame := hconsistent.trans record'.key key record.key hsize' hkey hsize
        (hconsistent.symm key record'.key hkey hsize' hequal') hequal
      rw [hdistinct found slot record' record hrecord' hrecord hsame]

end Search

namespace Distinct

variable {policy : Policy} {bs : Buckets} {valueSize : Nat}

theorem empty (policy : Policy) (bucketCount : Nat) :
    (Buckets.empty bucketCount).Distinct policy := by
  intro slot slot' record record' h
  simp [live?] at h

/-- Slots that stay live with their keys stay distinct. -/
theorem of_live? (h : bs.Distinct policy) {bs' : Buckets}
    (hkept : ∀ slot record, bs'.live? slot = some record →
      ∃ before, bs.live? slot = some before ∧ before.key = record.key) : bs'.Distinct policy := by
  intro slot slot' record record' hslot hslot' hequal
  obtain ⟨before, hbefore, hkey⟩ := hkept slot record hslot
  obtain ⟨before', hbefore', hkey'⟩ := hkept slot' record' hslot'
  exact h slot slot' before before' hbefore hbefore' (by rwa [hkey, hkey'])

/-- A key that the search does not find may be given a slot. -/
theorem claim (h : bs.Distinct policy) (hconsistent : policy.Consistent)
    (hplaced : bs.Placed policy) (hsized : bs.Sized policy.keySize valueSize)
    (hpos : 0 < bs.length) {key : Bytes} (hkey : key.length = policy.keySize)
    (hlocate : bs.locate policy key = none) :
    (bs.claim (home policy bs.length key) (.reserved policy key)).2.Distinct policy := by
  have hhome := home_lt policy hpos key
  have hother : ∀ slot record, bs.live? slot = some record →
      policy.keysEqual key record.key = false ∧ policy.keysEqual record.key key = false := by
    intro slot record hslot
    have hfalse :=
      keysEqual_eq_false_of_locate_eq_none hconsistent hplaced hsized hkey hlocate hslot
    have hsize := (hsized slot record (live?_eq_some_iff.mp hslot).1).1
    refine ⟨hfalse, ?_⟩
    rw [← Bool.not_eq_true]
    intro hequal
    rw [hconsistent.symm record.key key hsize hkey hequal] at hfalse
    cases hfalse
  intro slot slot' record record' hslot hslot' hequal
  rcases live?_claim_cases hhome hslot with ⟨hclaimed, rfl⟩ | hslot
  · rcases live?_claim_cases hhome hslot' with ⟨hclaimed', -⟩ | hslot'
    · rw [hclaimed, hclaimed']
    · exact absurd hequal (Bool.eq_false_iff.mp (hother slot' record' hslot').1)
  · rcases live?_claim_cases hhome hslot' with ⟨-, rfl⟩ | hslot'
    · exact absurd hequal (Bool.eq_false_iff.mp (hother slot record hslot).2)
    · exact h slot slot' record record' hslot hslot' hequal

theorem write (h : bs.Distinct policy) (slot : Slot) (value : Bytes) :
    (bs.write slot value).Distinct policy := by
  refine h.of_live? ?_
  intro place record hplace
  obtain ⟨before, hbefore, rfl | rfl⟩ := live?_write_cases hplace
  · exact ⟨record, hbefore, rfl⟩
  · exact ⟨before, hbefore, rfl⟩

theorem bury (h : bs.Distinct policy) (slot : Slot) : (bs.bury slot).Distinct policy := by
  refine h.of_live? ?_
  intro place record hplace
  exact ⟨record, (live?_bury_eq_some_iff.mp hplace).2, rfl⟩

/-- The keys of the live records, in order, are pairwise different. -/
theorem pairwise_liveRecords (h : bs.Distinct policy) :
    bs.liveRecords.Pairwise fun earlier later =>
      policy.keysEqual earlier.key later.key = false ∧
        policy.keysEqual later.key earlier.key = false := by
  rw [← filterMap_liveSlots, List.pairwise_filterMap]
  refine bs.nodup_liveSlots.imp fun {slot slot'} hne record hrecord record' hrecord' => ⟨?_, ?_⟩
  · rw [← Bool.not_eq_true]
    exact fun hequal => hne (h slot slot' record record' hrecord hrecord' hequal)
  · rw [← Bool.not_eq_true]
    exact fun hequal => hne (h slot' slot record' record hrecord' hrecord hequal).symm

/-- Records with different keys stay distinct wherever they are spread. -/
theorem spread {records : List SlotRecord} (hconsistent : policy.Consistent)
    (hsized : ∀ record ∈ records, record.key.length = policy.keySize)
    (h : records.Pairwise fun earlier later =>
      policy.keysEqual earlier.key later.key = false ∧
        policy.keysEqual later.key earlier.key = false) {bucketCount : Nat}
    (hpos : 0 < bucketCount) : (Buckets.spread policy bucketCount records).Distinct policy := by
  intro slot slot' record record' hslot hslot' hequal
  have hat := (live?_eq_some_iff.mp hslot).1
  have hat' := (live?_eq_some_iff.mp hslot').1
  obtain ⟨hmem, hhome⟩ := mem_of_at?_spread hpos hat
  obtain ⟨hmem', hhome'⟩ := mem_of_at?_spread hpos hat'
  have hbucket : slot.bucket = slot'.bucket := by
    rw [← hhome, ← hhome', home, home,
      hconsistent.hash_eq _ _ (hsized record hmem) (hsized record' hmem') hequal]
  have hrow : ((Buckets.spread policy bucketCount records).row slot.bucket).Pairwise
      fun earlier later => policy.keysEqual earlier.key later.key = false ∧
        policy.keysEqual later.key earlier.key = false := by
    rw [row_spread hpos]
    exact h.filter _
  rw [Grid.at?, List.getElem?_eq_some_iff] at hat hat'
  rw [← hbucket] at hat'
  obtain ⟨hitem, rfl⟩ := hat
  obtain ⟨hitem', rfl⟩ := hat'
  rw [List.pairwise_iff_getElem] at hrow
  rcases Nat.lt_trichotomy slot.item slot'.item with hlt | heq | hgt
  · rw [(hrow slot.item slot'.item hitem hitem' hlt).1] at hequal
    cases hequal
  · obtain ⟨bucket, item⟩ := slot
    obtain ⟨bucket', item'⟩ := slot'
    exact Slot.mk.injEq .. ▸ ⟨hbucket, heq⟩
  · rw [(hrow slot'.item slot.item hitem' hitem hgt).2] at hequal
    cases hequal

theorem spread_liveRecords (h : bs.Distinct policy) (hconsistent : policy.Consistent)
    (hsized : bs.Sized policy.keySize valueSize) {bucketCount : Nat} (hpos : 0 < bucketCount) :
    (Buckets.spread policy bucketCount bs.liveRecords).Distinct policy :=
  .spread hconsistent (fun _ hrecord => (hsized.of_mem_liveRecords hrecord).1)
    h.pairwise_liveRecords hpos

theorem reserve (h : bs.Distinct policy) (hconsistent : policy.Consistent)
    (hplaced : bs.Placed policy) (hsized : bs.Sized policy.keySize valueSize)
    (hpos : 0 < bs.length) {key : Bytes} (hkey : key.length = policy.keySize) :
    (bs.reserve policy key).2.Distinct policy := by
  rcases hlocate : bs.locate policy key with _ | slot
  · simp only [Buckets.reserve, hlocate]
    exact h.claim hconsistent hplaced hsized hpos hkey hlocate
  · simpa only [Buckets.reserve, hlocate] using h

theorem insert (h : bs.Distinct policy) (hconsistent : policy.Consistent)
    (hplaced : bs.Placed policy) (hsized : bs.Sized policy.keySize valueSize)
    (hpos : 0 < bs.length) {key : Bytes} (hkey : key.length = policy.keySize) (value : Bytes) :
    (bs.insert policy key value).Distinct policy :=
  (h.reserve hconsistent hplaced hsized hpos hkey).write _ value

theorem assign (h : bs.Distinct policy) (slot : Slot) (value : Bytes) :
    (bs.assign slot value).Distinct policy := by
  rcases hlive : bs.live? slot with _ | record
  · simpa only [Buckets.assign, hlive] using h
  · simpa only [Buckets.assign, hlive] using h.write slot value

theorem discard (h : bs.Distinct policy) (slot : Slot) : (bs.discard slot).Distinct policy := by
  rcases hlive : bs.live? slot with _ | record
  · simpa only [Buckets.discard, hlive] using h
  · simpa only [Buckets.discard, hlive] using h.bury slot

theorem erase (h : bs.Distinct policy) (key : Bytes) : (bs.erase policy key).Distinct policy := by
  rcases hlocate : bs.locate policy key with _ | slot
  · simpa only [Buckets.erase, hlocate] using h
  · simpa only [Buckets.erase, hlocate] using h.bury slot

end Distinct

end Buckets

end ByteTable
