import ByteTable.Layout.Interleaved
import ByteTable.Proofs.Directory
import ByteTable.Proofs.Layout.Lawful

/-!
# The interleaved layout is lawful

An interleaved record is the word, the key and the value of a slot back to back (`rawRecord`), and
the layout shows those slots whose raw records its directory keeps.  Reading takes a raw record
apart, and each write splices one of its three parts; a new slot is a record of zeroes with two
parts written over.

`redistribute` moves raw records without looking at their slots.  What the move builds up is the
spread of the records moved so far, which is the invariant of `run_forM_placeRecord`.
-/

namespace ByteTable

namespace Interleaved

/-- The bytes of a slot: word, key and value. -/
def rawRecord (record : SlotRecord) : Bytes :=
  Bytes.ofWord record.word.bits ++ (record.key ++ record.value)

/-- The length of a slot's bytes. -/
def rawSize (keySize valueSize : Nat) : Nat :=
  keyOffset + keySize + valueSize

/-! ## A record and its parts -/

section RawRecord

variable {record : SlotRecord} {keySize valueSize : Nat}

theorem length_rawRecord (hkey : record.key.length = keySize)
    (hvalue : record.value.length = valueSize) :
    (rawRecord record).length = rawSize keySize valueSize := by
  simp only [rawRecord, rawSize, keyOffset, List.length_append, Bytes.length_ofWord, hkey, hvalue]
  omega

@[simp] theorem recordWord_rawRecord (record : SlotRecord) :
    recordWord (rawRecord record) = record.word := by
  have htake : (rawRecord record).take keyOffset = Bytes.ofWord record.word.bits :=
    List.take_left' (Bytes.length_ofWord _)
  rw [recordWord, htake, Bytes.toWord_ofWord]

theorem drop_keyOffset_rawRecord (record : SlotRecord) :
    (rawRecord record).drop keyOffset = record.key ++ record.value :=
  List.drop_left' (Bytes.length_ofWord _)

theorem recordKey_rawRecord (hkey : record.key.length = keySize) :
    recordKey keySize (rawRecord record) = record.key := by
  rw [recordKey, drop_keyOffset_rawRecord]
  exact List.take_left' hkey

theorem recordValue_rawRecord (hkey : record.key.length = keySize) :
    recordValue keySize (rawRecord record) = record.value := by
  rw [recordValue, ← List.drop_drop, drop_keyOffset_rawRecord]
  exact List.drop_left' hkey

theorem splice_word (record : SlotRecord) (word : SlotWord) :
    Bytes.splice 0 (Bytes.ofWord word.bits) (rawRecord record) =
      rawRecord { record with word } := by
  have h := Bytes.splice_append [] (Bytes.ofWord record.word.bits) (record.key ++ record.value)
    (Bytes.ofWord word.bits) (by simp)
  simpa [rawRecord] using h

theorem splice_key (hkey : record.key.length = keySize) {key : Bytes}
    (hkey' : key.length = keySize) :
    Bytes.splice keyOffset key (rawRecord record) = rawRecord { record with key } := by
  have h := Bytes.splice_append (Bytes.ofWord record.word.bits) record.key record.value key
    (hkey'.trans hkey.symm)
  rwa [Bytes.length_ofWord] at h

theorem splice_value (hkey : record.key.length = keySize)
    (hvalue : record.value.length = valueSize) {value : Bytes}
    (hvalue' : value.length = valueSize) :
    Bytes.splice (keyOffset + keySize) value (rawRecord record) =
      rawRecord { record with value } := by
  have h := Bytes.splice_append (Bytes.ofWord record.word.bits ++ record.key) record.value [] value
    (hvalue'.trans hvalue.symm)
  rw [List.length_append, Bytes.length_ofWord, hkey] at h
  simpa [rawRecord, keyOffset] using h

/-- A record of zeroes is a slot of zeroes. -/
theorem zeroes_rawSize (keySize valueSize : Nat) :
    Bytes.zeroes (rawSize keySize valueSize) =
      rawRecord ⟨⟨0⟩, Bytes.zeroes keySize, Bytes.zeroes valueSize⟩ := by
  have hword : Bytes.ofWord 0 = Bytes.zeroes keyOffset := by decide
  simp only [rawRecord, hword, Bytes.zeroes, List.replicate_append_replicate, rawSize,
    Nat.add_assoc]

end RawRecord

theorem recordSize_of_lt {store : Interleaved}
    (h : keyOffset + store.keySize + store.valueSize < wordLimit) :
    store.recordSize = .ok (rawSize store.keySize store.valueSize) := by
  rw [recordSize, addSizes_of_lt (Nat.lt_of_le_of_lt (Nat.le_add_right _ _) h), ok_bind,
    addSizes_of_lt h]
  rfl

theorem recordSize_of_not_lt {store : Interleaved}
    (h : ¬keyOffset + store.keySize + store.valueSize < wordLimit) :
    store.recordSize = .error .overflow := by
  by_cases hkey : keyOffset + store.keySize < wordLimit
  · rw [recordSize, addSizes_of_lt hkey, ok_bind, addSizes_of_le (Nat.not_lt.mp h)]
  · rw [recordSize, addSizes_of_le (Nat.not_lt.mp hkey), error_bind]

theorem run_onRecords {α : Type} (act : Action (Directory Column) α) (store : Interleaved) :
    (onRecords act).run store =
      ⟨(act.run store.records).answer, { store with records := (act.run store.records).state },
        (act.run store.records).log⟩ := rfl

/-- The chains of a bucket, each with the bytes that a slot takes in it. -/
def widths (keySize valueSize : Nat) : List (Part × Nat) :=
  [(.records, rawSize keySize valueSize)]

theorem hasRoom_iff {memory : Memory} {keySize valueSize bucket length : Nat} :
    Layout.HasRoom (widths keySize valueSize) memory bucket length ↔
      (length + 1) * rawSize keySize valueSize ≤ memory.limit (.chain .records bucket) := by
  simp [Layout.HasRoom, widths]

/-! ## What the layout shows -/

/-- Whether the layout keeps the raw records of exactly these slots. -/
structure Shows (store : Interleaved) (keySize valueSize : Nat) (bs : Buckets) : Prop where
  keySize_eq : store.keySize = keySize
  valueSize_eq : store.valueSize = valueSize
  sized : bs.Sized keySize valueSize
  /-- Only records that fit were ever appended. -/
  fits : ∀ slot record, bs.at? slot = some record → keyOffset + keySize + valueSize < wordLimit
  length_le : 24 * bs.length ≤ maxBytes
  records : store.records.Keeps (rawSize keySize valueSize) (Grid.image rawRecord bs)

namespace Shows

variable {store : Interleaved} {keySize valueSize : Nat} {bs : Buckets} {slot : Slot}
  {record : SlotRecord}

theorem recordAt_eq (h : store.Shows keySize valueSize bs) (hslot : bs.at? slot = some record) :
    store.recordAt slot = .ok (rawRecord record) :=
  h.records.element_eq (Grid.at?_image_of_eq_some hslot)

theorem run_writeField (h : store.Shows keySize valueSize bs) (hslot : bs.at? slot = some record)
    (offset : Nat) (data : Bytes) (f : SlotRecord → SlotRecord)
    (hdata : offset + data.length ≤ rawSize keySize valueSize)
    (hsized : (f record).key.length = keySize ∧ (f record).value.length = valueSize)
    (hsplice : rawRecord (f record) = Bytes.splice offset data (rawRecord record)) :
    ∃ store', (writeField slot offset data.length data).run store = ⟨.ok (), store', []⟩ ∧
      store'.Shows keySize valueSize (bs.update slot f) := by
  obtain ⟨records, hrun, hkeeps⟩ :=
    h.records.run_writeField (Grid.at?_image_of_eq_some hslot) offset data hdata
  refine ⟨{ store with records }, ?_, h.keySize_eq, h.valueSize_eq, ?_, ?_, ?_, ?_⟩
  · rw [writeField, run_onRecords, hrun]
  · refine h.sized.update ?_
    intro old hold
    rw [hslot, Option.some.injEq] at hold
    exact hold ▸ hsized
  · exact fun _ _ _ => h.fits slot record hslot
  · rw [Grid.length_update]
    exact h.length_le
  · rw [Grid.image_update fun old hold => ?_]
    · exact hkeeps
    · rw [hslot, Option.some.injEq] at hold
      exact hold ▸ hsplice

theorem run_setWord (h : store.Shows keySize valueSize bs) (hslot : bs.at? slot = some record)
    (word : SlotWord) :
    ∃ store', (setWord slot word).run store = ⟨.ok (), store', []⟩ ∧
      store'.Shows keySize valueSize (bs.update slot fun old => { old with word }) := by
  have hrun := h.run_writeField hslot 0 (Bytes.ofWord word.bits) (fun old => { old with word })
    (by simp [rawSize, keyOffset]; omega)
    (h.sized slot record hslot) (splice_word record word).symm
  rwa [Bytes.length_ofWord] at hrun

theorem run_writeKey (h : store.Shows keySize valueSize bs) (hslot : bs.at? slot = some record)
    {key : Bytes} (hkey : key.length = keySize) :
    ∃ store', (writeField slot keyOffset keySize key).run store = ⟨.ok (), store', []⟩ ∧
      store'.Shows keySize valueSize (bs.update slot fun old => { old with key }) := by
  have hsized := h.sized slot record hslot
  subst hkey
  exact h.run_writeField hslot _ key _ (Nat.le_add_right _ _) ⟨rfl, hsized.2⟩
    (splice_key hsized.1 rfl).symm

theorem run_writeValue (h : store.Shows keySize valueSize bs) (hslot : bs.at? slot = some record)
    {value : Bytes} (hvalue : value.length = valueSize) :
    ∃ store', (writeField slot (keyOffset + keySize) valueSize value).run store =
        ⟨.ok (), store', []⟩ ∧
      store'.Shows keySize valueSize (bs.update slot fun old => { old with value }) := by
  have hsized := h.sized slot record hslot
  subst hvalue
  exact h.run_writeField hslot _ value _ (Nat.le_refl _) ⟨hsized.1, rfl⟩
    (splice_value hsized.1 hsized.2 rfl).symm

theorem run_setValue (h : store.Shows keySize valueSize bs) (hslot : bs.at? slot = some record)
    {value : Bytes} (hvalue : value.length = valueSize) :
    ∃ store', (setValue slot value).run store = ⟨.ok (), store', []⟩ ∧
      store'.Shows keySize valueSize (bs.update slot fun old => { old with value }) := by
  obtain ⟨store', hrun, hshows⟩ := h.run_writeValue hslot hvalue
  refine ⟨store', ?_, hshows⟩
  simp only [setValue, sizes, Action.run_read_bind, Action.andThen_answer_ok, h.keySize_eq,
    h.valueSize_eq, hrun]

theorem run_overwrite (h : store.Shows keySize valueSize bs) (hslot : bs.at? slot = some record)
    {key : Bytes} (hkey : key.length = keySize) (word : SlotWord) :
    ∃ store', (overwrite slot word key).run store = ⟨.ok (), store', []⟩ ∧
      store'.Shows keySize valueSize
        (bs.update slot fun _ => ⟨word, key, Bytes.zeroes valueSize⟩) := by
  obtain ⟨store₁, hrun₁, h₁⟩ := h.run_setWord hslot word
  obtain ⟨store₂, hrun₂, h₂⟩ := h₁.run_writeKey (Grid.at?_update_of_eq_some hslot _) hkey
  obtain ⟨store₃, hrun₃, h₃⟩ := h₂.run_writeValue
    (Grid.at?_update_of_eq_some (Grid.at?_update_of_eq_some hslot _) _)
    (Bytes.length_zeroes valueSize)
  refine ⟨store₃, ?_, ?_⟩
  · simp only [overwrite, sizes, Action.run_read_bind, Action.andThen_answer_ok, h.keySize_eq,
      h.valueSize_eq]
    rw [Action.run_bind, hrun₁, Outcome.andThen_ok, Action.run_bind, hrun₂, Outcome.andThen_ok,
      hrun₃]
  · rwa [Grid.update_update, Grid.update_update] at h₃

/-- A new slot is a record of zeroes that is then given its word and key. -/
theorem run_append_of_le (h : store.Shows keySize valueSize bs)
    (hfits : keyOffset + keySize + valueSize < wordLimit) {bucket : Nat}
    (hbucket : bucket < bs.length) {key : Bytes} (hkey : key.length = keySize) {memory : Memory}
    (hroom : ((bs.row bucket).length + 1) * rawSize keySize valueSize ≤
      memory.limit (.chain .records bucket)) (word : SlotWord) :
    ∃ store', (append memory bucket word key).run store =
        ⟨.ok (bs.row bucket).length, store', []⟩ ∧
      store'.Shows keySize valueSize (bs.push bucket ⟨word, key, Bytes.zeroes valueSize⟩) := by
  have hsize : store.recordSize = .ok (rawSize keySize valueSize) := by
    rw [← h.keySize_eq, ← h.valueSize_eq]
    exact recordSize_of_lt (by rwa [h.keySize_eq, h.valueSize_eq])
  obtain ⟨records, hextend, hkeeps⟩ := h.records.run_extend_of_le (by simpa using hbucket)
    (memory.limit_le (.chain .records bucket)) (by rwa [Grid.length_row_image]) none
    (zeroes_rawSize keySize valueSize) (length_rawRecord (by simp) (by simp))
  rw [Grid.length_row_image] at hextend
  rw [← Grid.image_push] at hkeeps
  have hzeroed : Shows { store with records } keySize valueSize
      (bs.push bucket ⟨⟨0⟩, Bytes.zeroes keySize, Bytes.zeroes valueSize⟩) := by
    refine ⟨h.keySize_eq, h.valueSize_eq,
      h.sized.push hbucket (Bytes.length_zeroes _) (Bytes.length_zeroes _), fun _ _ _ => hfits, ?_,
      hkeeps⟩
    rw [Grid.length_push]
    exact h.length_le
  obtain ⟨store', hrun, hshows⟩ := hzeroed.run_overwrite (Grid.at?_push_self hbucket _) hkey word
  rw [Grid.update_push hbucket] at hshows
  refine ⟨store', ?_, hshows⟩
  rw [append, Action.run_read_bind, hsize, Action.andThen_answer_ok, Action.run_bind, run_onRecords,
    hextend, Outcome.andThen_ok, Action.run_bind, hrun, Outcome.andThen_ok, Action.run_pure]

theorem run_append_of_lt (h : store.Shows keySize valueSize bs)
    (hfits : keyOffset + keySize + valueSize < wordLimit) {bucket : Nat}
    (hbucket : bucket < bs.length) {memory : Memory}
    (hroom : memory.limit (.chain .records bucket) <
      ((bs.row bucket).length + 1) * rawSize keySize valueSize) (word : SlotWord) (key : Bytes) :
    ∃ store', (append memory bucket word key).run store =
        ⟨.error (.error .allocation), store', []⟩ ∧ store'.Shows keySize valueSize bs := by
  have hsize : store.recordSize = .ok (rawSize keySize valueSize) := by
    rw [← h.keySize_eq, ← h.valueSize_eq]
    exact recordSize_of_lt (by rwa [h.keySize_eq, h.valueSize_eq])
  obtain ⟨records, hextend, hkeeps⟩ := h.records.run_extend_of_lt (by simpa using hbucket)
    (by rwa [Grid.length_row_image]) none
  refine ⟨{ store with records }, ?_, h.keySize_eq, h.valueSize_eq, h.sized, h.fits, h.length_le,
    hkeeps⟩
  rw [append, Action.run_read_bind, hsize, Action.andThen_answer_ok, Action.run_bind, run_onRecords,
    hextend, Outcome.andThen_error]

theorem run_append (h : store.Shows keySize valueSize bs)
    (hfits : keyOffset + keySize + valueSize < wordLimit) {bucket : Nat}
    (hbucket : bucket < bs.length) {key : Bytes} (hkey : key.length = keySize) (memory : Memory)
    (word : SlotWord) :
    ((append memory bucket word key).run store).Grows (bs.row bucket).length
      (fun store' => store'.Shows keySize valueSize
          (bs.push bucket ⟨word, key, Bytes.zeroes valueSize⟩) ∧
        Layout.HasRoom (widths keySize valueSize) memory bucket (bs.row bucket).length)
      (fun store' => store'.Shows keySize valueSize bs ∧
        ¬Layout.HasRoom (widths keySize valueSize) memory bucket (bs.row bucket).length) := by
  by_cases hroom : Layout.HasRoom (widths keySize valueSize) memory bucket (bs.row bucket).length
  · obtain ⟨store', hrun, hshows⟩ :=
      h.run_append_of_le hfits hbucket hkey (hasRoom_iff.mp hroom) word
    exact hrun ▸ .done ⟨hshows, hroom⟩
  · obtain ⟨store', hrun, hshows⟩ :=
      h.run_append_of_lt hfits hbucket (Nat.not_le.mp (hasRoom_iff.not.mp hroom)) word key
    exact hrun ▸ .refused ⟨hshows, hroom⟩

theorem run_append_of_not_lt (h : store.Shows keySize valueSize bs)
    (hfits : ¬keyOffset + keySize + valueSize < wordLimit) (memory : Memory) (bucket : Nat)
    (word : SlotWord) (key : Bytes) :
    (append memory bucket word key).run store = ⟨.error (.crash .overflow), store, []⟩ := by
  have hsize : store.recordSize = .error .overflow :=
    recordSize_of_not_lt (by rwa [h.keySize_eq, h.valueSize_eq])
  rw [append, Action.run_read_bind, hsize, Action.andThen_answer_error]

/-! ## Moving records -/

/-- The raw records that a move takes are those of the live slots. -/
theorem liveRecords_eq (h : store.Shows keySize valueSize bs) :
    store.liveRecords = bs.liveRecords.map rawRecord := by
  have hlive : ∀ record ∈ bs.flatten,
      (!(recordWord (rawRecord record)).isTombstone) = record.isLive := by
    intro record _
    rw [recordWord_rawRecord, SlotRecord.isLive]
  rw [liveRecords, h.records.flatMap_toList, Grid.image, ← List.map_flatten, List.filter_map]
  exact congrArg (List.map rawRecord) (List.filter_congr hlive)

end Shows

section PlaceRecord

variable {policy : Policy} {keySize valueSize bucketCount : Nat} {done : List SlotRecord}
  {record : SlotRecord} {d : Directory Column}

/-- A raw record is added to the bucket that the key within it belongs to. -/
theorem placeRecord_eq (hpos : 0 < bucketCount) (hkey : record.key.length = keySize)
    (memory : Memory) (width : Nat) :
    placeRecord memory policy keySize width bucketCount (rawRecord record) = (do
      let _ ← (do
        Directory.openChain (Buckets.home policy bucketCount record.key) (Column.create
          (memory.limit (.chain .records (Buckets.home policy bucketCount record.key))) width 1)
        Directory.onChain (Buckets.home policy bucketCount record.key) (Column.append
          (memory.limit (.chain .records (Buckets.home policy bucketCount record.key)))
          (some (rawRecord record))) : Action (Directory Column) Nat)) := by
  have hhome : Policy.bucketOf (policy.hash (recordKey keySize (rawRecord record))) bucketCount =
      .ok (Buckets.home policy bucketCount record.key) := by
    rw [recordKey_rawRecord hkey, Policy.bucketOf, if_neg (Nat.ne_of_gt hpos), Buckets.home]
  rw [placeRecord, hhome, Action.liftM_ok_bind, bind_assoc]

theorem run_placeRecord_of_le (hpos : 0 < bucketCount) (hkey : record.key.length = keySize)
    (hvalue : record.value.length = valueSize)
    (h : d.Keeps (rawSize keySize valueSize)
      (Grid.image rawRecord (Buckets.spread policy bucketCount done))) {memory : Memory}
    (hroom : (((Buckets.spread policy bucketCount done).row
        (Buckets.home policy bucketCount record.key)).length + 1) * rawSize keySize valueSize ≤
      memory.limit (.chain .records (Buckets.home policy bucketCount record.key))) :
    ∃ d', (placeRecord memory policy keySize (rawSize keySize valueSize) bucketCount
        (rawRecord record)).run d = ⟨.ok (), d', []⟩ ∧
      d'.Keeps (rawSize keySize valueSize)
        (Grid.image rawRecord (Buckets.spread policy bucketCount (done ++ [record]))) := by
  obtain ⟨d', hextend, hkeeps⟩ := h.run_extend_of_le
    (by simpa using Buckets.home_lt policy hpos record.key) (memory.limit_le _)
    (by rwa [Grid.length_row_image]) (some (rawRecord record)) rfl (length_rawRecord hkey hvalue)
  rw [Option.getD_some, ← Grid.image_push, ← Buckets.spread_append_singleton hpos] at hkeeps
  refine ⟨d', ?_, hkeeps⟩
  rw [placeRecord_eq hpos hkey, Action.run_bind, hextend]
  rfl

theorem run_placeRecord_of_lt (hpos : 0 < bucketCount) (hkey : record.key.length = keySize)
    (h : d.Keeps (rawSize keySize valueSize)
      (Grid.image rawRecord (Buckets.spread policy bucketCount done))) {memory : Memory}
    (hroom : memory.limit (.chain .records (Buckets.home policy bucketCount record.key)) <
      (((Buckets.spread policy bucketCount done).row
        (Buckets.home policy bucketCount record.key)).length + 1) * rawSize keySize valueSize) :
    ∃ d', (placeRecord memory policy keySize (rawSize keySize valueSize) bucketCount
        (rawRecord record)).run d = ⟨.error (.error .allocation), d', []⟩ := by
  obtain ⟨d', hextend, -⟩ := h.run_extend_of_lt
    (by simpa using Buckets.home_lt policy hpos record.key)
    (by rwa [Grid.length_row_image]) (some (rawRecord record))
  refine ⟨d', ?_⟩
  rw [placeRecord_eq hpos hkey, Action.run_bind, hextend]
  rfl

theorem run_placeRecord (hpos : 0 < bucketCount) (hkey : record.key.length = keySize)
    (hvalue : record.value.length = valueSize)
    (h : d.Keeps (rawSize keySize valueSize)
      (Grid.image rawRecord (Buckets.spread policy bucketCount done))) (memory : Memory) :
    ((placeRecord memory policy keySize (rawSize keySize valueSize) bucketCount
        (rawRecord record)).run d).Grows ()
      (fun d' => d'.Keeps (rawSize keySize valueSize)
          (Grid.image rawRecord (Buckets.spread policy bucketCount (done ++ [record]))) ∧
        Layout.HasRoom (widths keySize valueSize) memory
          (Buckets.home policy bucketCount record.key)
          ((Buckets.spread policy bucketCount done).row
            (Buckets.home policy bucketCount record.key)).length)
      (fun _ => True ∧ ¬Layout.HasRoom (widths keySize valueSize) memory
        (Buckets.home policy bucketCount record.key)
        ((Buckets.spread policy bucketCount done).row
          (Buckets.home policy bucketCount record.key)).length) := by
  by_cases hroom : Layout.HasRoom (widths keySize valueSize) memory
    (Buckets.home policy bucketCount record.key)
    ((Buckets.spread policy bucketCount done).row
      (Buckets.home policy bucketCount record.key)).length
  · obtain ⟨d', hrun, hkeeps⟩ :=
      run_placeRecord_of_le hpos hkey hvalue h (hasRoom_iff.mp hroom)
    exact hrun ▸ .done ⟨hkeeps, hroom⟩
  · obtain ⟨d', hrun⟩ :=
      run_placeRecord_of_lt hpos hkey h (Nat.not_le.mp (hasRoom_iff.not.mp hroom))
    exact hrun ▸ .refused ⟨trivial, hroom⟩

end PlaceRecord

namespace Shows

variable {store : Interleaved} {keySize valueSize : Nat} {bs : Buckets}

/-- A move places the raw records of the live slots, one by one, into a new directory. -/
theorem run_redistribute_eq (h : store.Shows keySize valueSize bs)
    (hfits : keyOffset + keySize + valueSize < wordLimit) (memory : Memory) (policy : Policy)
    (bucketCount : Nat) :
    (redistribute memory policy bucketCount).run store = (do
      let fresh ← Directory.create (memory.limit (.directory .records)) entryBytes bucketCount
      let (_, moved) ← Action.apart fresh <| bs.liveRecords.forM fun record =>
        placeRecord memory policy keySize (rawSize keySize valueSize) bucketCount (rawRecord record)
      Action.replace { store with records := moved } : Action Interleaved Unit).run store := by
  obtain rfl := h.keySize_eq
  obtain rfl := h.valueSize_eq
  rw [redistribute, Action.run_bind, Action.run_current, Outcome.andThen_ok,
    recordSize_of_lt hfits, Action.liftM_ok_bind, h.liveRecords_eq]
  simp only [List.forM_eq_forM, List.forM_map]

/-- Moving the records in place spreads the live slots, or leaves the layout as it is. -/
theorem run_redistribute (h : store.Shows keySize valueSize bs)
    (hfits : keyOffset + keySize + valueSize < wordLimit) {bucketCount : Nat}
    (hpos : 0 < bucketCount) (memory : Memory) (policy : Policy) :
    ((redistribute memory policy bucketCount).run store).Grows ()
      (·.Shows keySize valueSize (Buckets.spread policy bucketCount bs.liveRecords))
      (· = store) := by
  rw [h.run_redistribute_eq hfits, Action.run_bind]
  rcases hfresh : (Directory.create (memory.limit (.directory .records)) entryBytes bucketCount :
    Except TableError (Directory Column)) with cause | fresh
  · rw [Directory.create_eq_error hfresh, Action.run_liftM_error, Outcome.andThen_error]
    exact .refused rfl
  · have hkeeps : fresh.Keeps (rawSize keySize valueSize)
        (Grid.image rawRecord (Buckets.spread policy bucketCount [])) := by
      rw [Buckets.spread_nil]
      simpa [Buckets.empty, Grid.image] using Directory.Keeps.of_create hfresh _
    have hmoved := Action.grows_forM
      (fun done (d : Directory Column) => d.Keeps (rawSize keySize valueSize)
        (Grid.image rawRecord (Buckets.spread policy bucketCount done))) bs.liveRecords
      (fun record hrecord done d hd =>
        (run_placeRecord hpos (h.sized.of_mem_liveRecords hrecord).1
          (h.sized.of_mem_liveRecords hrecord).2 hd memory).mono (fun _ => And.left)
            fun _ _ => trivial) hkeeps
    rw [List.nil_append] at hmoved
    rw [Action.run_liftM_ok, Outcome.andThen_ok, Action.run_bind]
    rcases hmoved.apart store with ⟨moved, hmoved, hrun⟩ | hrun
    · rw [hrun, Outcome.andThen_ok, Action.run_replace]
      refine .done ⟨h.keySize_eq, h.valueSize_eq, h.sized.spread hpos policy, fun _ _ _ => hfits,
        ?_, hmoved⟩
      have hlength := Nat.le_trans (Directory.create_eq_ok hfresh).2 (memory.limit_le _)
      rw [Buckets.length_spread]
      unfold entryBytes at hlength
      omega
    · rw [hrun, Outcome.andThen_error]
      exact .refused rfl

theorem run_redistribute_of_not_lt (h : store.Shows keySize valueSize bs)
    (hfits : ¬keyOffset + keySize + valueSize < wordLimit) (memory : Memory) (policy : Policy)
    (bucketCount : Nat) :
    (redistribute memory policy bucketCount).run store =
      ⟨.error (.crash .overflow), store, []⟩ := by
  have hsize : store.recordSize = .error .overflow :=
    recordSize_of_not_lt (by rwa [h.keySize_eq, h.valueSize_eq])
  rw [redistribute, Action.run_bind, Action.run_current, Outcome.andThen_ok, Action.run_bind,
    Action.run_liftM_crash, hsize, Action.answer_error, Outcome.andThen_error]

theorem of_create {memory : Memory} {keySize valueSize bucketCount : Nat} {store : Interleaved}
    (h : Layout.create memory keySize valueSize bucketCount = .ok store) :
    store.Shows keySize valueSize (Buckets.empty bucketCount) := by
  simp only [Layout.create] at h
  obtain ⟨records, hrecords, h⟩ := exists_of_bind_eq_ok h
  cases h
  have hlength := Nat.le_trans (Directory.create_eq_ok hrecords).2 (memory.limit_le _)
  refine ⟨rfl, rfl, .empty _ _ _, fun slot record hslot => ?_, ?_, ?_⟩
  · rw [Buckets.at?_empty] at hslot
    cases hslot
  · rw [Buckets.length_empty]
    unfold entryBytes at hlength
    omega
  · simpa [Buckets.empty, Grid.image] using Directory.Keeps.of_create hrecords _

end Shows

theorem create_eq_error {memory : Memory} {keySize valueSize bucketCount : Nat} {cause : TableError}
    (h : (Layout.create memory keySize valueSize bucketCount : Except TableError Interleaved) =
      .error cause) : cause = .allocation := by
  simp only [Layout.create] at h
  rcases eq_error_or_of_bind_eq_error h with hrecords | ⟨records, -, h⟩
  · exact Directory.create_eq_error hrecords
  · cases h

instance : LawfulLayout Interleaved where
  Shows := Shows
  Fits keySize valueSize := keyOffset + keySize + valueSize < wordLimit
  widths := widths
  fits_of_lt := id
  sized := Shows.sized
  fits_of_at? h hslot := h.fits _ _ hslot
  length_row_le h bucket := by
    have hle := h.records.length_row_mul_le bucket
    rw [Grid.length_row_image, Nat.mul_comm] at hle
    refine Nat.le_trans (Nat.mul_le_mul_right _ ?_) hle
    unfold rawSize keyOffset
    omega
  length_le := Shows.length_le
  create_eq_ok := Shows.of_create
  create_eq_error := create_eq_error
  bucketCount_eq h := h.records.size_eq.trans (Grid.length_image _ _)
  bucketLength_eq h hbucket := by
    have hlength := h.records.length_chain (by simpa using hbucket)
    rwa [Grid.length_row_image] at hlength
  recordAt_eq {store keySize valueSize bs slot record} h hslot := by
    have hkey := (h.sized slot record hslot).1
    simp only [Layout.wordAt, Layout.keyAt, Layout.valueAt, h.recordAt_eq hslot, ok_bind,
      h.keySize_eq, recordWord_rawRecord, recordKey_rawRecord hkey, recordValue_rawRecord hkey]
    exact ⟨rfl, rfl, rfl⟩
  run_setWord h hslot word := h.run_setWord hslot word
  run_setValue h hslot hvalue := h.run_setValue hslot hvalue
  run_overwrite h hslot hkey word := h.run_overwrite hslot hkey word
  run_append h hfits hbucket hkey memory word := h.run_append hfits hbucket hkey memory word
  run_append_of_not_fits h hfits memory word := h.run_append_of_not_lt hfits memory _ word _
  run_redistribute hsome h hfits hpos memory policy := by
    cases hsome
    exact h.run_redistribute hfits hpos memory policy
  run_redistribute_of_not_fits hsome h hfits memory policy := by
    cases hsome
    exact h.run_redistribute_of_not_lt hfits memory policy _

end Interleaved

end ByteTable
