import ByteTable.Layout.FullySeparated
import ByteTable.Proofs.Directory
import ByteTable.Proofs.Layout.Lawful

/-!
# The layout with three chains is lawful

A slot is shown when its word, its key and its value stand at its place in the three directories.
No record is ever put together, so every size fits.

An append reserves memory in all three chains of the bucket before it makes any of them longer.  The
reservation is what makes the appends that follow it succeed: each is given the limit that the
reservation was granted under.
-/

namespace ByteTable

namespace Directory.Keeps

variable {d : Directory Column} {width : Nat} {grid : Grid Bytes}

/-- A bucket's column is created, if it was not, and has memory for one more element. -/
theorem run_prepare (h : d.Keeps width grid) {bucket limit : Nat} (hbucket : bucket < grid.length)
    (hle : limit ≤ maxBytes) :
    ∃ d', d'.Keeps width grid ∧
      ((∃ c, (FullySeparated.prepare limit width bucket).run d = ⟨.ok (), d', []⟩ ∧
          d'.chainAt bucket = some c ∧ ((grid.row bucket).length + 1) * width ≤ limit) ∨
        (FullySeparated.prepare limit width bucket).run d =
            ⟨.error (.error .allocation), d', []⟩ ∧
          limit < ((grid.row bucket).length + 1) * width) := by
  rcases h.run_openChain hbucket limit with ⟨d', c, hopen, hkeeps, hc⟩ | ⟨hopen, hlimit⟩
  · refine ⟨d', hkeeps, ?_⟩
    rw [FullySeparated.prepare, Action.run_bind, hopen, Outcome.andThen_ok, run_onChain _ hc,
      ← hkeeps.bytes_size_add hc]
    by_cases hroom : c.bytes.size + saturate (c.elementSize * 1) ≤ limit
    · refine .inl ⟨c, ?_, hc, by simpa using (add_saturate_le_iff hle).mp hroom⟩
      simp only [Action.run, Column.reserve, if_pos hroom, Action.pure, put_of_chainAt hc]
    · refine .inr ⟨?_, by simpa using (add_saturate_le_iff hle).not.mp hroom⟩
      simp only [Action.run, Column.reserve, if_neg hroom, Action.raise, Action.fail,
        put_of_chainAt hc]
  · refine ⟨d, h, .inr ⟨?_, hlimit⟩⟩
    rw [FullySeparated.prepare, Action.run_bind, hopen, Outcome.andThen_error]

end Directory.Keeps

namespace FullySeparated

theorem run_onWords {α : Type} (act : Action (Directory WordColumn) α) (store : FullySeparated) :
    (onWords act).run store =
      ⟨(act.run store.words).answer, { store with words := (act.run store.words).state },
        (act.run store.words).log⟩ := rfl

theorem run_onKeys {α : Type} (act : Action (Directory Column) α) (store : FullySeparated) :
    (onKeys act).run store =
      ⟨(act.run store.keys).answer, { store with keys := (act.run store.keys).state },
        (act.run store.keys).log⟩ := rfl

theorem run_onValues {α : Type} (act : Action (Directory Column) α) (store : FullySeparated) :
    (onValues act).run store =
      ⟨(act.run store.values).answer, { store with values := (act.run store.values).state },
        (act.run store.values).log⟩ := rfl

/-- The chains of a bucket, each with the bytes that a slot takes in it. -/
def widths (keySize valueSize : Nat) : List (Part × Nat) :=
  [(.words, WordColumn.wordBytes), (.keys, keySize), (.values, valueSize)]

theorem hasRoom_iff {memory : Memory} {keySize valueSize bucket length : Nat} :
    Layout.HasRoom (widths keySize valueSize) memory bucket length ↔
      WordColumn.wordBytes * (length + 1) ≤ memory.limit (.chain .words bucket) ∧
        (length + 1) * keySize ≤ memory.limit (.chain .keys bucket) ∧
        (length + 1) * valueSize ≤ memory.limit (.chain .values bucket) := by
  simp [Layout.HasRoom, widths, Nat.mul_comm WordColumn.wordBytes]

/-! ## What the layout shows -/

/-- Whether the three directories keep the words, keys and values of exactly these slots. -/
structure Shows (store : FullySeparated) (keySize valueSize : Nat) (bs : Buckets) : Prop where
  keySize_eq : store.keySize = keySize
  valueSize_eq : store.valueSize = valueSize
  length_le : 24 * bs.length ≤ maxBytes
  words : store.words.KeepsWords (Grid.image SlotRecord.word bs)
  keys : store.keys.Keeps keySize (Grid.image SlotRecord.key bs)
  values : store.values.Keeps valueSize (Grid.image SlotRecord.value bs)

namespace Shows

variable {store : FullySeparated} {keySize valueSize : Nat} {bs : Buckets} {slot : Slot}
  {record : SlotRecord}

theorem sized (h : store.Shows keySize valueSize bs) : bs.Sized keySize valueSize :=
  fun _ _ hslot => ⟨h.keys.length_eq_width (Grid.at?_image_of_eq_some hslot),
    h.values.length_eq_width (Grid.at?_image_of_eq_some hslot)⟩

theorem of_update (h : store.Shows keySize valueSize bs) {f : SlotRecord → SlotRecord}
    {words : Directory WordColumn} {keys values : Directory Column}
    (hwords : words.KeepsWords (Grid.image SlotRecord.word (Grid.update bs slot f)))
    (hkeys : keys.Keeps keySize (Grid.image SlotRecord.key (Grid.update bs slot f)))
    (hvalues : values.Keeps valueSize (Grid.image SlotRecord.value (Grid.update bs slot f))) :
    Shows { store with words, keys, values } keySize valueSize (bs.update slot f) := by
  refine ⟨h.keySize_eq, h.valueSize_eq, ?_, hwords, hkeys, hvalues⟩
  rw [Grid.length_update]
  exact h.length_le

theorem run_setWord (h : store.Shows keySize valueSize bs) (hslot : bs.at? slot = some record)
    (word : SlotWord) :
    ∃ store', (setWord slot word).run store = ⟨.ok (), store', []⟩ ∧
      store'.Shows keySize valueSize (bs.update slot fun old => { old with word }) := by
  obtain ⟨words, hrun, hwords⟩ := h.words.run_setWord (Grid.at?_image_of_eq_some hslot) word
  have hwords' : words.KeepsWords (Grid.image SlotRecord.word
      (Grid.update bs slot fun old => { old with word })) := by
    rwa [Grid.image_update (v := fun _ => word) fun _ _ => rfl]
  refine ⟨{ store with words }, ?_, h.of_update hwords'
    (h.keys.image_update_of_eq fun _ _ => rfl) (h.values.image_update_of_eq fun _ _ => rfl)⟩
  rw [setWord, run_onWords, hrun]

theorem run_writeKey (h : store.Shows keySize valueSize bs) (hslot : bs.at? slot = some record)
    {key : Bytes} (hkey : key.length = keySize) :
    ∃ store', (onKeys (writeElement slot keySize key)).run store = ⟨.ok (), store', []⟩ ∧
      store'.Shows keySize valueSize (bs.update slot fun old => { old with key }) := by
  obtain ⟨keys, hrun, hkeys⟩ := h.keys.run_writeElement (Grid.at?_image_of_eq_some hslot) hkey
  have hkeys' : keys.Keeps keySize (Grid.image SlotRecord.key
      (Grid.update bs slot fun old => { old with key })) := by
    rwa [Grid.image_update (v := fun _ => key) fun _ _ => rfl]
  refine ⟨{ store with keys }, ?_, h.of_update (h.words.image_update_of_eq fun _ _ => rfl) hkeys'
    (h.values.image_update_of_eq fun _ _ => rfl)⟩
  rw [writeElement, run_onKeys, hrun]

theorem run_writeValue (h : store.Shows keySize valueSize bs) (hslot : bs.at? slot = some record)
    {value : Bytes} (hvalue : value.length = valueSize) :
    ∃ store', (onValues (writeElement slot valueSize value)).run store = ⟨.ok (), store', []⟩ ∧
      store'.Shows keySize valueSize (bs.update slot fun old => { old with value }) := by
  obtain ⟨values, hrun, hvalues⟩ :=
    h.values.run_writeElement (Grid.at?_image_of_eq_some hslot) hvalue
  have hvalues' : values.Keeps valueSize (Grid.image SlotRecord.value
      (Grid.update bs slot fun old => { old with value })) := by
    rwa [Grid.image_update (v := fun _ => value) fun _ _ => rfl]
  refine ⟨{ store with values }, ?_, h.of_update (h.words.image_update_of_eq fun _ _ => rfl)
    (h.keys.image_update_of_eq fun _ _ => rfl) hvalues'⟩
  rw [writeElement, run_onValues, hrun]

theorem run_setValue (h : store.Shows keySize valueSize bs) (hslot : bs.at? slot = some record)
    {value : Bytes} (hvalue : value.length = valueSize) :
    ∃ store', (setValue slot value).run store = ⟨.ok (), store', []⟩ ∧
      store'.Shows keySize valueSize (bs.update slot fun old => { old with value }) := by
  obtain ⟨store', hrun, hshows⟩ := h.run_writeValue hslot hvalue
  refine ⟨store', ?_, hshows⟩
  simp only [setValue, sizes, Action.run_read_bind, Action.andThen_answer_ok, h.valueSize_eq, hrun]

theorem run_overwrite (h : store.Shows keySize valueSize bs) (hslot : bs.at? slot = some record)
    {key : Bytes} (hkey : key.length = keySize) (word : SlotWord) :
    ∃ store', (overwrite slot word key).run store = ⟨.ok (), store', []⟩ ∧
      store'.Shows keySize valueSize
        (bs.update slot fun _ => ⟨word, key, Bytes.zeroes valueSize⟩) := by
  obtain ⟨store₁, hrun₁, h₁⟩ := h.run_setWord hslot word
  obtain ⟨store₂, hrun₂, h₂⟩ :=
    h₁.run_writeKey (Grid.at?_update_of_eq_some hslot _) hkey
  obtain ⟨store₃, hrun₃, h₃⟩ := h₂.run_writeValue
    (Grid.at?_update_of_eq_some (Grid.at?_update_of_eq_some hslot _) _)
    (Bytes.length_zeroes valueSize)
  refine ⟨store₃, ?_, ?_⟩
  · simp only [overwrite, sizes, Action.run_read_bind, Action.andThen_answer_ok, h.keySize_eq,
      h.valueSize_eq]
    rw [Action.run_bind, hrun₁, Outcome.andThen_ok, Action.run_bind, hrun₂, Outcome.andThen_ok,
      hrun₃]
  · rwa [Grid.update_update, Grid.update_update] at h₃

/-! ## Appending -/

/-- The three chains of a bucket that has all of them are in step. -/
theorem checkParallel_eq (h : store.Shows keySize valueSize bs) {bucket : Nat} {words : WordColumn}
    {keys values : Column} (hwords : store.words.chainAt bucket = some words)
    (hkeys : store.keys.chainAt bucket = some keys)
    (hvalues : store.values.chainAt bucket = some values) :
    checkParallel bucket store = .ok () := by
  have hw := h.words.elim_size_eq bucket
  have hk := h.keys.elim_size_eq bucket
  have hv := h.values.elim_size_eq bucket
  rw [hwords, Option.elim_some, Grid.length_row_image] at hw
  rw [hkeys, Option.elim_some, Grid.length_row_image] at hk
  rw [hvalues, Option.elim_some, Grid.length_row_image] at hv
  simp only [checkParallel, Directory.chain_eq hwords, Directory.chain_eq hkeys,
    Directory.chain_eq hvalues, ok_bind]
  rw [if_pos ⟨hk.trans hv.symm, hv.trans hw.symm⟩]
  rfl

theorem run_append (h : store.Shows keySize valueSize bs) {bucket : Nat}
    (hbucket : bucket < bs.length) {key : Bytes} (hkey : key.length = keySize) (memory : Memory)
    (word : SlotWord) :
    ((append memory bucket word key).run store).Grows (bs.row bucket).length
      (fun store' => store'.Shows keySize valueSize
          (bs.push bucket ⟨word, key, Bytes.zeroes valueSize⟩) ∧
        Layout.HasRoom (widths keySize valueSize) memory bucket (bs.row bucket).length)
      (fun store' => store'.Shows keySize valueSize bs ∧
        ¬Layout.HasRoom (widths keySize valueSize) memory bucket (bs.row bucket).length) := by
  obtain rfl := h.keySize_eq
  obtain rfl := h.valueSize_eq
  rw [append, sizes, Action.run_read_bind, Action.andThen_answer_ok]
  dsimp only
  rw [Action.run_bind, run_onWords]
  -- Memory is reserved in the three chains, one after the other.
  obtain ⟨words, column, hwords, hcolumn, ⟨hreserve, hwordRoom⟩ | ⟨hreserve, hwordLimit⟩⟩ :=
    h.words.run_reserve (by simpa using hbucket) (memory.limit (.chain .words bucket))
  swap
  · rw [Grid.length_row_image] at hwordLimit
    rw [hreserve, Outcome.andThen_error]
    exact .refused ⟨⟨rfl, rfl, h.length_le, hwords, h.keys, h.values⟩,
      fun hroom => Nat.not_lt.mpr (hasRoom_iff.mp hroom).1 hwordLimit⟩
  rw [hreserve, Outcome.andThen_ok, Action.run_bind, run_onKeys]
  obtain ⟨keys, hkeys, ⟨keyColumn, hprepare, hkeyColumn, hkeyRoom⟩ | ⟨hprepare, hkeyLimit⟩⟩ :=
    h.keys.run_prepare (by simpa using hbucket) (memory.limit_le (.chain .keys bucket))
  swap
  · rw [Grid.length_row_image] at hkeyLimit
    rw [hprepare, Outcome.andThen_error]
    exact .refused ⟨⟨rfl, rfl, h.length_le, hwords, hkeys, h.values⟩,
      fun hroom => Nat.not_lt.mpr (hasRoom_iff.mp hroom).2.1 hkeyLimit⟩
  rw [hprepare, Outcome.andThen_ok, Action.run_bind, run_onValues]
  obtain ⟨values, hvalues, ⟨valueColumn, hprepare', hvalueColumn, hvalueRoom⟩ |
      ⟨hprepare', hvalueLimit⟩⟩ :=
    h.values.run_prepare (by simpa using hbucket) (memory.limit_le (.chain .values bucket))
  swap
  · rw [Grid.length_row_image] at hvalueLimit
    rw [hprepare', Outcome.andThen_error]
    exact .refused ⟨⟨rfl, rfl, h.length_le, hwords, hkeys, hvalues⟩,
      fun hroom => Nat.not_lt.mpr (hasRoom_iff.mp hroom).2.2 hvalueLimit⟩
  -- All three have memory, and grow.
  obtain ⟨keys', keyColumn', hrunKeys, hkeys', hkeyColumn'⟩ := hkeys.run_append_of_le hkeyColumn
    (by rwa [hkeys.bytes_size_add hkeyColumn]) (memory.limit_le _) (some key) rfl hkey
  obtain ⟨values', valueColumn', hrunValues, hvalues', hvalueColumn'⟩ :=
    hvalues.run_append_of_le hvalueColumn (by rwa [hvalues.bytes_size_add hvalueColumn])
      (memory.limit_le _) none rfl (Bytes.length_zeroes _)
  obtain ⟨words', hrunWords, hwords', hcolumn'⟩ := hwords.run_push hcolumn
    (Nat.le_trans hwordRoom (memory.limit_le _)) word
  have hshows : Shows { store with words := words', keys := keys', values := values' }
      store.keySize store.valueSize
      (bs.push bucket ⟨word, key, Bytes.zeroes store.valueSize⟩) :=
    ⟨rfl, rfl, by rw [Grid.length_push]; exact h.length_le, by rwa [Grid.image_push],
      by rwa [Grid.image_push], by rwa [Grid.image_push]⟩
  rw [hprepare', Outcome.andThen_ok, Action.run_bind, run_onKeys, hrunKeys, Grid.length_row_image,
    Outcome.andThen_ok, Action.run_bind, run_onValues, hrunValues, Outcome.andThen_ok,
    Action.run_bind, run_onWords, hrunWords, Outcome.andThen_ok, Action.run_read_bind,
    hshows.checkParallel_eq hcolumn' hkeyColumn' hvalueColumn', Action.andThen_answer_ok,
    Action.run_pure]
  rw [Grid.length_row_image] at hwordRoom hkeyRoom hvalueRoom
  exact .done ⟨hshows, hasRoom_iff.mpr ⟨hwordRoom, hkeyRoom, hvalueRoom⟩⟩

theorem of_create {memory : Memory} {keySize valueSize bucketCount : Nat} {store : FullySeparated}
    (h : Layout.create memory keySize valueSize bucketCount = .ok store) :
    store.Shows keySize valueSize (Buckets.empty bucketCount) := by
  simp only [Layout.create] at h
  obtain ⟨words, hwords, h⟩ := exists_of_bind_eq_ok h
  obtain ⟨keys, hkeys, h⟩ := exists_of_bind_eq_ok h
  obtain ⟨values, hvalues, h⟩ := exists_of_bind_eq_ok h
  cases h
  have hlength := Nat.le_trans (Directory.create_eq_ok hwords).2 (memory.limit_le _)
  refine ⟨rfl, rfl, ?_, ?_, ?_, ?_⟩
  · rw [Buckets.length_empty]
    exact hlength
  · simpa [Buckets.empty, Grid.image] using Directory.KeepsWords.of_create hwords
  · simpa [Buckets.empty, Grid.image] using Directory.Keeps.of_create hkeys _
  · simpa [Buckets.empty, Grid.image] using Directory.Keeps.of_create hvalues _

end Shows

theorem create_eq_error {memory : Memory} {keySize valueSize bucketCount : Nat} {cause : TableError}
    (h : (Layout.create memory keySize valueSize bucketCount : Except TableError FullySeparated) =
      .error cause) : cause = .allocation := by
  simp only [Layout.create] at h
  rcases eq_error_or_of_bind_eq_error h with hwords | ⟨words, -, h⟩
  · exact Directory.create_eq_error hwords
  · rcases eq_error_or_of_bind_eq_error h with hkeys | ⟨keys, -, h⟩
    · exact Directory.create_eq_error hkeys
    · rcases eq_error_or_of_bind_eq_error h with hvalues | ⟨values, -, h⟩
      · exact Directory.create_eq_error hvalues
      · cases h

instance : LawfulLayout FullySeparated where
  Shows := Shows
  Fits _ _ := True
  widths := widths
  fits_of_lt _ := trivial
  sized := Shows.sized
  fits_of_at? _ _ := trivial
  length_row_le h bucket := by
    have hle := h.words.length_row_le bucket
    rwa [Grid.length_row_image] at hle
  length_le := Shows.length_le
  create_eq_ok := Shows.of_create
  create_eq_error := create_eq_error
  bucketCount_eq h := h.words.size_eq.trans (Grid.length_image _ _)
  bucketLength_eq h hbucket := by
    have hlength := h.words.length_chain (by simpa using hbucket)
    rwa [Grid.length_row_image] at hlength
  recordAt_eq h hslot := ⟨h.words.word_eq (Grid.at?_image_of_eq_some hslot),
    h.keys.element_eq (Grid.at?_image_of_eq_some hslot),
    h.values.element_eq (Grid.at?_image_of_eq_some hslot)⟩
  run_setWord h hslot word := h.run_setWord hslot word
  run_setValue h hslot hvalue := h.run_setValue hslot hvalue
  run_overwrite h hslot hkey word := h.run_overwrite hslot hkey word
  run_append h _ hbucket hkey memory word := h.run_append hbucket hkey memory word
  run_append_of_not_fits _ hfits := absurd trivial hfits
  run_redistribute hsome := by cases hsome
  run_redistribute_of_not_fits hsome := by cases hsome

end FullySeparated

end ByteTable
