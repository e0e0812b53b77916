import ByteTable.Layout.HashSeparated
import ByteTable.Proofs.Directory
import ByteTable.Proofs.Layout.Lawful

/-!
# The layout with words apart is lawful

A slot is shown when its word stands in the one directory and its key and value, back to back, in
the other (`rawRecord`).  A write touches one of the two directories and leaves the image of the
slots in the other as it was.

An append is four steps on two directories, and memory can be refused at three of them.  Up to the
last refusal no chain has grown, so the slots shown are the same; from then on nothing can fail.
-/

namespace ByteTable

namespace HashSeparated

/-- The bytes of a slot's record: key and value. -/
def rawRecord (record : SlotRecord) : Bytes :=
  record.key ++ record.value

theorem splice_key {record : SlotRecord} {key : Bytes}
    (hkey : key.length = record.key.length) :
    Bytes.splice 0 key (rawRecord record) = rawRecord { record with key } := by
  simpa [rawRecord] using Bytes.splice_append [] record.key record.value key hkey

theorem splice_value {record : SlotRecord} {value : Bytes}
    (hvalue : value.length = record.value.length) :
    Bytes.splice record.key.length value (rawRecord record) = rawRecord { record with value } := by
  simpa [rawRecord] using Bytes.splice_append record.key record.value [] value hvalue

theorem run_onWords {α : Type} (act : Action (Directory WordColumn) α) (store : HashSeparated) :
    (onWords act).run store =
      ⟨(act.run store.words).answer, { store with words := (act.run store.words).state },
        (act.run store.words).log⟩ := rfl

theorem run_onRecords {α : Type} (act : Action (Directory Column) α) (store : HashSeparated) :
    (onRecords act).run store =
      ⟨(act.run store.records).answer, { store with records := (act.run store.records).state },
        (act.run store.records).log⟩ := rfl

/-- The chains of a bucket, each with the bytes that a slot takes in it. -/
def widths (keySize valueSize : Nat) : List (Part × Nat) :=
  [(.words, WordColumn.wordBytes), (.records, keySize + valueSize)]

theorem hasRoom_iff {memory : Memory} {keySize valueSize bucket length : Nat} :
    Layout.HasRoom (widths keySize valueSize) memory bucket length ↔
      WordColumn.wordBytes * (length + 1) ≤ memory.limit (.chain .words bucket) ∧
        (length + 1) * (keySize + valueSize) ≤ memory.limit (.chain .records bucket) := by
  simp [Layout.HasRoom, widths, Nat.mul_comm WordColumn.wordBytes]

/-! ## What the layout shows -/

/-- Whether the two directories keep the words and the records of exactly these slots. -/
structure Shows (store : HashSeparated) (keySize valueSize : Nat) (bs : Buckets) : Prop where
  keySize_eq : store.keySize = keySize
  valueSize_eq : store.valueSize = valueSize
  sized : bs.Sized keySize valueSize
  /-- Only records that fit were ever appended. -/
  fits : ∀ slot record, bs.at? slot = some record → keySize + valueSize < wordLimit
  length_le : 24 * bs.length ≤ maxBytes
  words : store.words.KeepsWords (Grid.image SlotRecord.word bs)
  records : store.records.Keeps (keySize + valueSize) (Grid.image rawRecord bs)

namespace Shows

variable {store : HashSeparated} {keySize valueSize : Nat} {bs : Buckets} {slot : Slot}
  {record : SlotRecord}

theorem wordAt_eq (h : store.Shows keySize valueSize bs) (hslot : bs.at? slot = some record) :
    Layout.wordAt store slot = .ok record.word :=
  h.words.word_eq (Grid.at?_image_of_eq_some hslot)

theorem recordAt_eq (h : store.Shows keySize valueSize bs) (hslot : bs.at? slot = some record) :
    store.recordAt slot = .ok (rawRecord record) :=
  h.records.element_eq (Grid.at?_image_of_eq_some hslot)

theorem run_setWord (h : store.Shows keySize valueSize bs) (hslot : bs.at? slot = some record)
    (word : SlotWord) :
    ∃ store', (setWord slot word).run store = ⟨.ok (), store', []⟩ ∧
      store'.Shows keySize valueSize (bs.update slot fun old => { old with word }) := by
  obtain ⟨words, hrun, hkeeps⟩ := h.words.run_setWord (Grid.at?_image_of_eq_some hslot) word
  refine ⟨{ store with words }, ?_, h.keySize_eq, h.valueSize_eq,
    h.sized.update fun old hold => h.sized slot old hold, fun _ _ _ => h.fits slot record hslot,
    ?_, ?_, ?_⟩
  · rw [setWord, run_onWords, hrun]
  · rw [Grid.length_update]
    exact h.length_le
  · rw [Grid.image_update (v := fun _ => word) fun _ _ => rfl]
    exact hkeeps
  · exact h.records.image_update_of_eq fun _ _ => rfl

theorem run_writeField (h : store.Shows keySize valueSize bs) (hslot : bs.at? slot = some record)
    (offset : Nat) (data : Bytes) (f : SlotRecord → SlotRecord)
    (hdata : offset + data.length ≤ keySize + valueSize)
    (hsized : (f record).key.length = keySize ∧ (f record).value.length = valueSize)
    (hword : (f record).word = record.word)
    (hsplice : rawRecord (f record) = Bytes.splice offset data (rawRecord record)) :
    ∃ store', (writeField slot offset data.length data).run store = ⟨.ok (), store', []⟩ ∧
      store'.Shows keySize valueSize (bs.update slot f) := by
  have honly : ∀ old, bs.at? slot = some old → old = record := by
    intro old hold
    rw [hslot, Option.some.injEq] at hold
    exact hold.symm
  obtain ⟨records, hrun, hkeeps⟩ :=
    h.records.run_writeField (Grid.at?_image_of_eq_some hslot) offset data hdata
  refine ⟨{ store with records }, ?_, h.keySize_eq, h.valueSize_eq,
    h.sized.update fun old hold => honly old hold ▸ hsized,
    fun _ _ _ => h.fits slot record hslot, ?_, ?_, ?_⟩
  · rw [writeField, run_onRecords, hrun]
  · rw [Grid.length_update]
    exact h.length_le
  · exact h.words.image_update_of_eq fun old hold => honly old hold ▸ hword
  · rw [Grid.image_update fun old hold => honly old hold ▸ hsplice]
    exact hkeeps

theorem run_writeKey (h : store.Shows keySize valueSize bs) (hslot : bs.at? slot = some record)
    {key : Bytes} (hkey : key.length = keySize) :
    ∃ store', (writeField slot 0 keySize key).run store = ⟨.ok (), store', []⟩ ∧
      store'.Shows keySize valueSize (bs.update slot fun old => { old with key }) := by
  obtain ⟨hkey', hvalue'⟩ := h.sized slot record hslot
  subst hkey
  exact h.run_writeField hslot _ key _ (by omega) ⟨rfl, hvalue'⟩ rfl (splice_key hkey'.symm).symm

theorem run_writeValue (h : store.Shows keySize valueSize bs) (hslot : bs.at? slot = some record)
    {value : Bytes} (hvalue : value.length = valueSize) :
    ∃ store', (writeField slot keySize valueSize value).run store = ⟨.ok (), store', []⟩ ∧
      store'.Shows keySize valueSize (bs.update slot fun old => { old with value }) := by
  obtain ⟨hkey', hvalue'⟩ := h.sized slot record hslot
  subst hvalue hkey'
  exact h.run_writeField hslot _ value _ (Nat.le_refl _) ⟨rfl, rfl⟩ rfl
    (splice_value hvalue'.symm).symm

theorem run_setValue (h : store.Shows keySize valueSize bs) (hslot : bs.at? slot = some record)
    {value : Bytes} (hvalue : value.length = valueSize) :
    ∃ store', (setValue slot value).run store = ⟨.ok (), store', []⟩ ∧
      store'.Shows keySize valueSize (bs.update slot fun old => { old with value }) := by
  obtain ⟨store', hrun, hshows⟩ := h.run_writeValue hslot hvalue
  refine ⟨store', ?_, hshows⟩
  simp only [setValue, sizes, Action.run_read_bind, Action.andThen_answer_ok, h.keySize_eq,
    h.valueSize_eq, hrun]

theorem run_overwrite (h : store.Shows keySize valueSize bs) (hslot : bs.at? slot = some record)
    {key : Bytes} (hkey : key.length = keySize) (word : SlotWord) :
    ∃ store', (overwrite slot word key).run store = ⟨.ok (), store', []⟩ ∧
      store'.Shows keySize valueSize
        (bs.update slot fun _ => ⟨word, key, Bytes.zeroes valueSize⟩) := by
  obtain ⟨store₁, hrun₁, h₁⟩ := h.run_setWord hslot word
  obtain ⟨store₂, hrun₂, h₂⟩ :=
    h₁.run_writeKey (Grid.at?_update_of_eq_some hslot _) hkey
  obtain ⟨store₃, hrun₃, h₃⟩ := h₂.run_writeValue
    (Grid.at?_update_of_eq_some (Grid.at?_update_of_eq_some hslot _) _)
    (Bytes.length_zeroes valueSize)
  refine ⟨store₃, ?_, ?_⟩
  · simp only [overwrite, sizes, Action.run_read_bind, Action.andThen_answer_ok, h.keySize_eq,
      h.valueSize_eq]
    rw [Action.run_bind, hrun₁, Outcome.andThen_ok, Action.run_bind, hrun₂, Outcome.andThen_ok,
      hrun₃]
  · rwa [Grid.update_update, Grid.update_update] at h₃

/-! ## Appending -/

/-- The two chains of a bucket that has both are in step. -/
theorem checkParallel_eq (h : store.Shows keySize valueSize bs) {bucket : Nat} {words : WordColumn}
    {c : Column} (hwords : store.words.chainAt bucket = some words)
    (hrecords : store.records.chainAt bucket = some c) : checkParallel bucket store = .ok () := by
  have hw := h.words.elim_size_eq bucket
  have hr := h.records.elim_size_eq bucket
  rw [hwords, Option.elim_some, Grid.length_row_image] at hw
  rw [hrecords, Option.elim_some, Grid.length_row_image] at hr
  rw [checkParallel, Directory.chain_eq hwords, ok_bind, Directory.chain_eq hrecords, ok_bind,
    if_pos (hw.trans hr.symm)]
  rfl

/-- The slots stay as they are when a directory is replaced by one that keeps the same. -/
theorem of_keeps (h : store.Shows keySize valueSize bs) {words : Directory WordColumn}
    {records : Directory Column} (hwords : words.KeepsWords (Grid.image SlotRecord.word bs))
    (hrecords : records.Keeps (keySize + valueSize) (Grid.image rawRecord bs)) :
    Shows { store with words, records } keySize valueSize bs :=
  ⟨h.keySize_eq, h.valueSize_eq, h.sized, h.fits, h.length_le, hwords, hrecords⟩

theorem run_append (h : store.Shows keySize valueSize bs)
    (hfits : keySize + valueSize < wordLimit) {bucket : Nat} (hbucket : bucket < bs.length)
    {key : Bytes} (hkey : key.length = keySize) (memory : Memory) (word : SlotWord) :
    ((append memory bucket word key).run store).Grows (bs.row bucket).length
      (fun store' => store'.Shows keySize valueSize
          (bs.push bucket ⟨word, key, Bytes.zeroes valueSize⟩) ∧
        Layout.HasRoom (widths keySize valueSize) memory bucket (bs.row bucket).length)
      (fun store' => store'.Shows keySize valueSize bs ∧
        ¬Layout.HasRoom (widths keySize valueSize) memory bucket (bs.row bucket).length) := by
  obtain rfl := h.keySize_eq
  obtain rfl := h.valueSize_eq
  have hsize : store.recordSize = .ok (store.keySize + store.valueSize) := addSizes_of_lt hfits
  have hzeroes : Bytes.zeroes (store.keySize + store.valueSize) =
      rawRecord ⟨word, Bytes.zeroes store.keySize, Bytes.zeroes store.valueSize⟩ := by
    simp [rawRecord, Bytes.zeroes]
  rw [append, Action.run_read_bind, hsize, Action.andThen_answer_ok, Action.run_bind, run_onRecords]
  -- The records' chain is created.
  rcases h.records.run_openChain (by simpa using hbucket)
    (memory.limit (.chain .records bucket)) with ⟨records, c, hopen, hrecords, hc⟩ | ⟨hopen, hlimit⟩
  swap
  · rw [Grid.length_row_image] at hlimit
    rw [hopen, Outcome.andThen_error]
    exact .refused ⟨h, fun hroom => Nat.not_lt.mpr (hasRoom_iff.mp hroom).2 hlimit⟩
  rw [hopen, Outcome.andThen_ok, Action.run_bind, run_onWords]
  -- Memory for one more word is reserved.
  obtain ⟨words, column, hwords, hcolumn, ⟨hreserve, hroom⟩ | ⟨hreserve, hlimit⟩⟩ :=
    h.words.run_reserve (by simpa using hbucket) (memory.limit (.chain .words bucket))
  swap
  · rw [Grid.length_row_image] at hlimit
    rw [hreserve, Outcome.andThen_error]
    exact .refused ⟨h.of_keeps hwords hrecords,
      fun hroom => Nat.not_lt.mpr (hasRoom_iff.mp hroom).1 hlimit⟩
  have hcolumnSize := hrecords.bytes_size_add hc
  rw [hreserve, Outcome.andThen_ok, Action.run_bind, run_onRecords]
  by_cases hlimit : c.bytes.size + c.elementSize ≤ memory.limit (.chain .records bucket)
  swap
  · rw [Directory.Keeps.run_append_of_lt hc (Nat.not_le.mp hlimit), Outcome.andThen_error]
    rw [hcolumnSize, Grid.length_row_image] at hlimit
    exact .refused ⟨h.of_keeps hwords hrecords, fun hroom => hlimit (hasRoom_iff.mp hroom).2⟩
  -- Both chains have memory, and grow.
  obtain ⟨records', c', happend, hrecords', hc'⟩ := hrecords.run_append_of_le hc hlimit
    (memory.limit_le _) none hzeroes (by simp [rawRecord])
  obtain ⟨words', hpush, hwords', hcolumn'⟩ := hwords.run_push hcolumn
    (Nat.le_trans hroom (memory.limit_le _)) word
  have hzeroed : Shows { store with words := words', records := records' } store.keySize
      store.valueSize
      (bs.push bucket ⟨word, Bytes.zeroes store.keySize, Bytes.zeroes store.valueSize⟩) :=
    ⟨rfl, rfl, h.sized.push hbucket (Bytes.length_zeroes _) (Bytes.length_zeroes _),
      fun _ _ _ => hfits, by rw [Grid.length_push]; exact h.length_le, by rwa [Grid.image_push],
      by rwa [Grid.image_push]⟩
  obtain ⟨store', hwrite, hshows⟩ := hzeroed.run_writeKey (Grid.at?_push_self hbucket _) hkey
  rw [Grid.update_push hbucket] at hshows
  rw [happend, Grid.length_row_image, Outcome.andThen_ok, Action.run_bind, run_onWords, hpush,
    Outcome.andThen_ok, Action.run_read_bind, hzeroed.checkParallel_eq hcolumn' hc',
    Action.andThen_answer_ok, sizes, Action.run_read_bind, Action.andThen_answer_ok]
  simp only [Action.run_bind, hwrite, Outcome.andThen_ok, Action.run_pure]
  rw [Grid.length_row_image] at hroom
  rw [hcolumnSize, Grid.length_row_image] at hlimit
  exact .done ⟨hshows, hasRoom_iff.mpr ⟨hroom, hlimit⟩⟩

theorem run_append_of_not_lt (h : store.Shows keySize valueSize bs)
    (hfits : ¬keySize + valueSize < wordLimit) (memory : Memory) (bucket : Nat) (word : SlotWord)
    (key : Bytes) :
    (append memory bucket word key).run store = ⟨.error (.crash .overflow), store, []⟩ := by
  have hsize : store.recordSize = .error .overflow := by
    rw [recordSize, h.keySize_eq, h.valueSize_eq, addSizes_of_le (Nat.not_lt.mp hfits)]
  rw [append, Action.run_read_bind, hsize, Action.andThen_answer_error]

theorem of_create {memory : Memory} {keySize valueSize bucketCount : Nat} {store : HashSeparated}
    (h : Layout.create memory keySize valueSize bucketCount = .ok store) :
    store.Shows keySize valueSize (Buckets.empty bucketCount) := by
  simp only [Layout.create] at h
  obtain ⟨words, hwords, h⟩ := exists_of_bind_eq_ok h
  obtain ⟨records, hrecords, h⟩ := exists_of_bind_eq_ok h
  cases h
  have hlength := Nat.le_trans (Directory.create_eq_ok hwords).2 (memory.limit_le _)
  refine ⟨rfl, rfl, .empty _ _ _, fun slot record hslot => ?_, ?_, ?_, ?_⟩
  · rw [Buckets.at?_empty] at hslot
    cases hslot
  · rw [Buckets.length_empty]
    exact hlength
  · simpa [Buckets.empty, Grid.image] using Directory.KeepsWords.of_create hwords
  · simpa [Buckets.empty, Grid.image] using Directory.Keeps.of_create hrecords _

end Shows

theorem create_eq_error {memory : Memory} {keySize valueSize bucketCount : Nat} {cause : TableError}
    (h : (Layout.create memory keySize valueSize bucketCount : Except TableError HashSeparated) =
      .error cause) : cause = .allocation := by
  simp only [Layout.create] at h
  rcases eq_error_or_of_bind_eq_error h with hwords | ⟨words, -, h⟩
  · exact Directory.create_eq_error hwords
  · rcases eq_error_or_of_bind_eq_error h with hrecords | ⟨records, -, h⟩
    · exact Directory.create_eq_error hrecords
    · cases h

instance : LawfulLayout HashSeparated where
  Shows := Shows
  Fits keySize valueSize := keySize + valueSize < wordLimit
  widths := widths
  fits_of_lt h := by omega
  sized := Shows.sized
  fits_of_at? h hslot := h.fits _ _ hslot
  length_row_le h bucket := by
    have hle := h.words.length_row_le bucket
    rwa [Grid.length_row_image] at hle
  length_le := Shows.length_le
  create_eq_ok := Shows.of_create
  create_eq_error := create_eq_error
  bucketCount_eq h := h.words.size_eq.trans (Grid.length_image _ _)
  bucketLength_eq h hbucket := by
    have hlength := h.words.length_chain (by simpa using hbucket)
    rwa [Grid.length_row_image] at hlength
  recordAt_eq {store keySize valueSize bs slot record} h hslot := by
    have hkey := (h.sized slot record hslot).1
    refine ⟨h.wordAt_eq hslot, ?_, ?_⟩
    · simp only [Layout.keyAt, h.recordAt_eq hslot, ok_bind, h.keySize_eq, ← hkey, rawRecord,
        List.take_left]
      rfl
    · simp only [Layout.valueAt, h.recordAt_eq hslot, ok_bind, h.keySize_eq, ← hkey, rawRecord,
        List.drop_left]
      rfl
  run_setWord h hslot word := h.run_setWord hslot word
  run_setValue h hslot hvalue := h.run_setValue hslot hvalue
  run_overwrite h hslot hkey word := h.run_overwrite hslot hkey word
  run_append h hfits hbucket hkey memory word := h.run_append hfits hbucket hkey memory word
  run_append_of_not_fits h hfits memory word := h.run_append_of_not_lt hfits memory _ word _
  run_redistribute hsome := by cases hsome
  run_redistribute_of_not_fits hsome := by cases hsome

end HashSeparated

end ByteTable
