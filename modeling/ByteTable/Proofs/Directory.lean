import ByteTable.Directory
import ByteTable.Memory
import ByteTable.Proofs.Column
import ByteTable.Proofs.Grid
import ByteTable.WordColumn

/-!
# Directories as grids

A directory of columns is read as a grid of byte strings, one row per bucket, where a bucket whose
column was never created has the empty row: `Directory.Keeps`.  A directory of word columns is read
as a grid of words: `Directory.KeepsWords`.  Both also say that no chain is larger than a buffer
can be, which bounds the number of slots of a bucket.

Each operation that the layouts perform on a directory has one lemma here that says what it does to
the grid, and that it does nothing to it when memory is refused.
-/

namespace ByteTable

namespace Directory

variable {γ α : Type}

/-! ## Chains of a directory -/

/-- The chain of a bucket; none if it was never created or there is no such bucket. -/
def chainAt (d : Directory γ) (bucket : Nat) : Option γ :=
  d.chains[bucket]?.join

/-- The directory with the chain of one bucket replaced. -/
def put (d : Directory γ) (bucket : Nat) (chain : γ) : Directory γ :=
  ⟨d.chains.setIfInBounds bucket (some chain)⟩

theorem chain?_eq {d : Directory γ} {bucket : Nat} (h : bucket < d.size) :
    d.chain? bucket = .ok (d.chainAt bucket) := by
  unfold size at h
  simp [chain?, chainAt, h]

theorem bucket_lt_of_chainAt {d : Directory γ} {bucket : Nat} {chain : γ}
    (h : d.chainAt bucket = some chain) : bucket < d.size := by
  refine Nat.lt_of_not_le ?_
  intro hge
  unfold size at hge
  simp [chainAt, hge] at h

theorem chain_eq {d : Directory γ} {bucket : Nat} {chain : γ}
    (h : d.chainAt bucket = some chain) : d.chain bucket = .ok chain := by
  rw [Directory.chain, chain?_eq (bucket_lt_of_chainAt h), h]
  rfl

@[simp] theorem size_put (d : Directory γ) (bucket : Nat) (chain : γ) :
    (d.put bucket chain).size = d.size := by
  simp [put, size]

theorem chainAt_put {d : Directory γ} {bucket : Nat} (h : bucket < d.size) (chain : γ)
    (bucket' : Nat) :
    (d.put bucket chain).chainAt bucket' =
      if bucket' = bucket then some chain else d.chainAt bucket' := by
  unfold size at h
  by_cases hbucket : bucket' = bucket
  · subst hbucket
    simp [put, chainAt, h]
  · simp [put, chainAt, hbucket, Ne.symm hbucket]

theorem put_of_chainAt {d : Directory γ} {bucket : Nat} {chain : γ}
    (h : d.chainAt bucket = some chain) : d.put bucket chain = d := by
  obtain ⟨chains⟩ := d
  have hbucket : bucket < chains.size := bucket_lt_of_chainAt h
  have hchain : chains[bucket] = some chain := by simpa [chainAt, hbucket] using h
  rw [put, Directory.mk.injEq, ← hchain]
  simp [Array.setIfInBounds, hbucket]

/-! ## Running on a chain -/

theorem run_openChain_of_some {d : Directory γ} {bucket : Nat} {chain : γ}
    (h : d.chainAt bucket = some chain) (fresh : Except TableError γ) :
    (openChain bucket fresh).run d = ⟨.ok (), d, []⟩ := by
  simp only [openChain, Action.run_bind, Action.run_read, chain?_eq (bucket_lt_of_chainAt h), h]
  rfl

theorem run_openChain_of_none {d : Directory γ} {bucket : Nat} (hbucket : bucket < d.size)
    (h : d.chainAt bucket = none) (fresh : γ) :
    (openChain bucket (.ok fresh)).run d = ⟨.ok (), d.put bucket fresh, []⟩ := by
  simp only [openChain, Action.run_bind, Action.run_read, chain?_eq hbucket, h]
  rfl

theorem run_openChain_of_refused {d : Directory γ} {bucket : Nat} (hbucket : bucket < d.size)
    (h : d.chainAt bucket = none) (cause : TableError) :
    (openChain bucket (.error cause)).run d = ⟨.error (.error cause), d, []⟩ := by
  simp only [openChain, Action.run_bind, Action.run_read, chain?_eq hbucket, h]
  rfl

theorem run_onChain {d : Directory γ} {bucket : Nat} {chain : γ} (act : Action γ α)
    (h : d.chainAt bucket = some chain) :
    (onChain bucket act).run d =
      ⟨(act.run chain).answer, d.put bucket (act.run chain).state, (act.run chain).log⟩ := by
  simp only [Action.run, onChain, chain_eq h, put, Array.setIfInBounds_setIfInBounds]

theorem create_eq_ok {limit entryBytes bucketCount : Nat} {d : Directory γ}
    (h : create limit entryBytes bucketCount = .ok d) :
    d.chains = Array.replicate bucketCount none ∧ entryBytes * bucketCount ≤ limit := by
  by_cases hfits : entryBytes * bucketCount ≤ limit
  · rw [create, if_pos hfits, Except.ok.injEq] at h
    exact ⟨h ▸ rfl, hfits⟩
  · rw [create, if_neg hfits] at h
    cases h

theorem create_eq_error {limit entryBytes bucketCount : Nat} {cause : TableError}
    (h : (create limit entryBytes bucketCount : Except TableError (Directory γ)) = .error cause) :
    cause = .allocation := by
  by_cases hfits : entryBytes * bucketCount ≤ limit
  · rw [create, if_pos hfits] at h
    cases h
  · rw [create, if_neg hfits, Except.error.injEq] at h
    exact h.symm

theorem chainAt_of_chains_eq {d : Directory γ} {bucketCount : Nat}
    (h : d.chains = Array.replicate bucketCount none) (bucket : Nat) : d.chainAt bucket = none := by
  by_cases hbucket : bucket < bucketCount <;> simp [chainAt, h, hbucket]

end Directory

/-! ## Directories of columns -/

/-- Whether the column of a bucket, if it was created, holds exactly these elements. -/
def Column.Keeps (width : Nat) : Option Column → List Bytes → Prop
  | none, elements => elements = []
  | some c, elements => c.elementSize = width ∧ c.bytes.size ≤ maxBytes ∧ c.toList = elements

theorem Column.Keeps.elim_eq {width : Nat} {chain : Option Column} {elements : List Bytes}
    (h : Column.Keeps width chain elements) : chain.elim [] Column.toList = elements := by
  cases chain with
  | none => exact Eq.symm h
  | some c => exact h.2.2

/-- Whether a directory of columns holds exactly the entries of a grid, all of one width. -/
structure Directory.Keeps (d : Directory Column) (width : Nat) (grid : Grid Bytes) : Prop where
  /-- There is a row for every bucket. -/
  size_eq : d.size = grid.length
  /-- Every row is what the bucket's column holds. -/
  column : ∀ bucket, Column.Keeps width (d.chainAt bucket) (grid.row bucket)

namespace Directory.Keeps

variable {d : Directory Column} {width : Nat} {grid : Grid Bytes}

theorem of_create {limit entryBytes bucketCount : Nat} {d : Directory Column}
    (h : create limit entryBytes bucketCount = .ok d) (width : Nat) :
    d.Keeps width (List.replicate bucketCount []) := by
  obtain ⟨hchains, -⟩ := create_eq_ok h
  refine ⟨by simp [size, hchains], fun bucket => ?_⟩
  rw [chainAt_of_chains_eq hchains]
  by_cases hbucket : bucket < bucketCount <;> simp [Column.Keeps, Grid.row, hbucket]

/-- A bucket that has a slot has a column. -/
theorem exists_column (h : d.Keeps width grid) {slot : Slot} {element : Bytes}
    (hslot : grid.at? slot = some element) :
    ∃ c, d.chainAt slot.bucket = some c ∧ c.elementSize = width ∧ c.bytes.size ≤ maxBytes ∧
      c.toList = grid.row slot.bucket := by
  have hcolumn := h.column slot.bucket
  rcases hc : d.chainAt slot.bucket with _ | c
  · rw [hc] at hcolumn
    have hrow : grid.row slot.bucket = [] := hcolumn
    simp [Grid.at?, hrow] at hslot
  · rw [hc] at hcolumn
    exact ⟨c, rfl, hcolumn⟩

theorem element_eq (h : d.Keeps width grid) {slot : Slot} {element : Bytes}
    (hslot : grid.at? slot = some element) :
    (d.chain slot.bucket >>= fun c => c.element slot.item) = .ok element := by
  obtain ⟨c, hc, -, -, hlist⟩ := h.exists_column hslot
  rw [chain_eq hc, ok_bind]
  exact Column.element_eq (by rw [hlist]; exact hslot)

theorem length_eq_width (h : d.Keeps width grid) {slot : Slot} {element : Bytes}
    (hslot : grid.at? slot = some element) : element.length = width := by
  obtain ⟨c, -, hwidth, -, hlist⟩ := h.exists_column hslot
  rw [← hwidth]
  exact Column.length_of_mem_toList (hlist ▸ List.mem_of_getElem? hslot)

/-- The elements of a bucket fit in one buffer. -/
theorem length_row_mul_le (h : d.Keeps width grid) (bucket : Nat) :
    (grid.row bucket).length * width ≤ maxBytes := by
  have hcolumn := h.column bucket
  rcases hc : d.chainAt bucket with _ | c
  · rw [hc] at hcolumn
    have hrow : grid.row bucket = [] := hcolumn
    simp [hrow]
  · rw [hc] at hcolumn
    obtain ⟨hwidth, hbytes, hlist⟩ := hcolumn
    rw [← hlist, Column.length_toList, ← hwidth, ← c.bytes_size]
    exact hbytes

theorem width_le (h : d.Keeps width grid) {slot : Slot} {element : Bytes}
    (hslot : grid.at? slot = some element) : width ≤ maxBytes := by
  have hrow := h.length_row_mul_le slot.bucket
  have hpos : 0 < (grid.row slot.bucket).length := Nat.zero_lt_of_lt (Grid.item_lt_of_at? hslot)
  exact Nat.le_trans (Nat.le_mul_of_pos_left width hpos) hrow

theorem image_update_of_eq {γ : Type} {f : γ → Bytes} {g : Grid γ} (h : d.Keeps width (g.image f))
    {slot : Slot} {u : γ → γ} (hu : ∀ a, g.at? slot = some a → f (u a) = f a) :
    d.Keeps width ((g.update slot u).image f) := by
  rwa [Grid.image_update_of_eq hu]

theorem elim_size_eq (h : d.Keeps width grid) (bucket : Nat) :
    (d.chainAt bucket).elim 0 Column.size = (grid.row bucket).length := by
  rw [← (h.column bucket).elim_eq]
  cases d.chainAt bucket with
  | none => rfl
  | some c => exact (Column.length_toList c).symm

theorem length_chain (h : d.Keeps width grid) {bucket : Nat} (hbucket : bucket < grid.length) :
    (d.chain? bucket >>= fun chain => pure (chain.elim 0 Column.size)) =
      (.ok (grid.row bucket).length : Except Crash Nat) := by
  rw [chain?_eq (h.size_eq ▸ hbucket), ok_bind, h.elim_size_eq]
  rfl

theorem put (h : d.Keeps width grid) {grid' : Grid Bytes} {bucket : Nat}
    (hbucket : bucket < grid.length) {c : Column} (hlength : grid'.length = grid.length)
    (hrow : ∀ bucket', bucket' ≠ bucket → grid'.row bucket' = grid.row bucket')
    (hc : Column.Keeps width (some c) (grid'.row bucket)) :
    (d.put bucket c).Keeps width grid' := by
  refine ⟨by rw [size_put, h.size_eq, hlength], fun bucket' => ?_⟩
  rw [chainAt_put (h.size_eq ▸ hbucket)]
  by_cases heq : bucket' = bucket
  · rw [if_pos heq, heq]
    exact hc
  · rw [if_neg heq, hrow bucket' heq]
    exact h.column bucket'

/-- Writing into an element splices the bytes into that entry of the grid. -/
theorem run_writeField (h : d.Keeps width grid) {slot : Slot} {element : Bytes}
    (hslot : grid.at? slot = some element) (offset : Nat) (data : Bytes)
    (hdata : offset + data.length ≤ width) :
    ∃ d', (onChain slot.bucket (Column.writeField slot.item offset data.length data)).run d =
        ⟨.ok (), d', []⟩ ∧
      d'.Keeps width (grid.update slot (Bytes.splice offset data)) := by
  obtain ⟨c, hc, hwidth, hbytes, hlist⟩ := h.exists_column hslot
  have hitem : slot.item < c.size := by
    rw [← Column.length_toList, hlist]
    exact Grid.item_lt_of_at? hslot
  refine ⟨d.put slot.bucket (c.patch slot.item offset data), ?_, ?_⟩
  · rw [run_onChain _ hc, Column.run_writeField hitem]
  · refine h.put (Grid.bucket_lt_of_at? hslot) (by simp) (fun bucket' hne => ?_) ⟨hwidth, ?_, ?_⟩
    · rw [Grid.row_update, if_neg hne]
    · rw [Column.bytes_size_patch]
      exact hbytes
    · rw [Column.toList_patch hitem (hwidth ▸ hdata), hlist, Grid.row_update, if_pos rfl]

/-- Writing over a whole element replaces that entry of the grid. -/
theorem run_writeElement (h : d.Keeps width grid) {slot : Slot} {element : Bytes}
    (hslot : grid.at? slot = some element) {data : Bytes} (hdata : data.length = width) :
    ∃ d', (onChain slot.bucket (Column.writeField slot.item 0 width data)).run d =
        ⟨.ok (), d', []⟩ ∧
      d'.Keeps width (grid.update slot fun _ => data) := by
  subst hdata
  obtain ⟨d', hrun, hkeeps⟩ := h.run_writeField hslot 0 data (by omega)
  have hsplice : grid.update slot (Bytes.splice 0 data) = grid.update slot fun _ => data := by
    refine Grid.update_congr ?_
    intro old hold
    have hlength := h.length_eq_width hold
    simpa using Bytes.splice_append [] old [] data hlength.symm
  exact ⟨d', hrun, hsplice ▸ hkeeps⟩

/-- A bucket's column is created if the limit leaves room for its first element. -/
theorem run_openChain_of_le (h : d.Keeps width grid) {bucket limit : Nat}
    (hbucket : bucket < grid.length) (hlimit : saturate width ≤ limit) :
    ∃ d' c, (openChain bucket (Column.create limit width 1)).run d = ⟨.ok (), d', []⟩ ∧
      d'.Keeps width grid ∧ d'.chainAt bucket = some c := by
  rcases hc : d.chainAt bucket with _ | c
  · have hsize : bucket < d.size := h.size_eq ▸ hbucket
    have hrow : grid.row bucket = [] := by
      have hcolumn := h.column bucket
      rw [hc] at hcolumn
      exact hcolumn
    refine ⟨d.put bucket (Column.empty width), Column.empty width, ?_, ?_, ?_⟩
    · rw [Column.create, Nat.mul_one, if_pos hlimit]
      exact run_openChain_of_none hsize hc _
    · refine h.put hbucket rfl (fun _ _ => rfl) ⟨rfl, Nat.zero_le _, ?_⟩
      rw [hrow, Column.toList_empty]
    · rw [chainAt_put hsize, if_pos rfl]
  · exact ⟨d, c, run_openChain_of_some hc _, h, hc⟩

/-- A bucket's column is created, unless memory for its first element is refused. -/
theorem run_openChain (h : d.Keeps width grid) {bucket : Nat} (hbucket : bucket < grid.length)
    (limit : Nat) :
    (∃ d' c, (openChain bucket (Column.create limit width 1)).run d = ⟨.ok (), d', []⟩ ∧
        d'.Keeps width grid ∧ d'.chainAt bucket = some c) ∨
      (openChain bucket (Column.create limit width 1)).run d =
          ⟨.error (.error .allocation), d, []⟩ ∧
        limit < ((grid.row bucket).length + 1) * width := by
  by_cases hlimit : saturate width ≤ limit
  · exact .inl (h.run_openChain_of_le hbucket hlimit)
  · rcases hc : d.chainAt bucket with _ | c
    · refine .inr ⟨?_, ?_⟩
      · rw [Column.create, Nat.mul_one, if_neg hlimit]
        exact run_openChain_of_refused (h.size_eq ▸ hbucket) hc _
      · have hfirst : limit < width := Nat.lt_of_lt_of_le (Nat.not_le.mp hlimit) (saturate_le width)
        exact Nat.lt_of_lt_of_le hfirst (Nat.le_mul_of_pos_left _ (Nat.succ_pos _))
    · exact .inl ⟨d, c, run_openChain_of_some hc _, h, hc⟩

theorem bytes_size_add (h : d.Keeps width grid) {bucket : Nat} {c : Column}
    (hc : d.chainAt bucket = some c) :
    c.bytes.size + c.elementSize = ((grid.row bucket).length + 1) * width := by
  have hcolumn := h.column bucket
  rw [hc] at hcolumn
  obtain ⟨hwidth, -, hlist⟩ := hcolumn
  rw [c.bytes_size, hwidth, ← hlist, Column.length_toList, Nat.succ_mul]

/-- An element is added at the end of a bucket's row if the limit leaves room for it. -/
theorem run_append_of_le (h : d.Keeps width grid) {bucket limit : Nat} {c : Column}
    (hc : d.chainAt bucket = some c) (hroom : c.bytes.size + c.elementSize ≤ limit)
    (hlimit : limit ≤ maxBytes) (element? : Option Bytes) {element : Bytes}
    (helement : element?.getD (Bytes.zeroes width) = element) (hwidth : element.length = width) :
    ∃ d' c', (onChain bucket (Column.append limit element?)).run d =
        ⟨.ok (grid.row bucket).length, d', []⟩ ∧
      d'.Keeps width (grid.push bucket element) ∧ d'.chainAt bucket = some c' := by
  have hbucket : bucket < grid.length := h.size_eq ▸ bucket_lt_of_chainAt hc
  have hcolumn := h.column bucket
  rw [hc] at hcolumn
  obtain ⟨hsize, hbytes, hlist⟩ := hcolumn
  subst helement
  rw [← hsize] at hwidth ⊢
  refine ⟨d.put bucket (c.push _ hwidth), c.push _ hwidth, ?_, ?_, ?_⟩
  · rw [run_onChain _ hc, Column.run_append_of_le hroom hwidth, ← hlist, Column.length_toList]
  · refine (hsize ▸ h).put hbucket (by simp) (fun bucket' hne => ?_) ⟨rfl, ?_, ?_⟩
    · rw [Grid.row_push hbucket, if_neg hne]
    · rw [Column.bytes_size_push]
      exact Nat.le_trans hroom hlimit
    · rw [Column.toList_push, hlist, Grid.row_push hbucket, if_pos rfl]
  · rw [chainAt_put (h.size_eq ▸ hbucket), if_pos rfl]

theorem run_append_of_lt {bucket limit : Nat} {c : Column} (hc : d.chainAt bucket = some c)
    (hroom : limit < c.bytes.size + c.elementSize) (element? : Option Bytes) :
    (onChain bucket (Column.append limit element?)).run d =
      ⟨.error (.error .allocation), d, []⟩ := by
  rw [run_onChain _ hc, Column.run_append_of_lt hroom, put_of_chainAt hc]

/-- A bucket's row is made longer by one element, and its column created if there was none, if the
limit leaves room for all elements that the row then has. -/
theorem run_extend_of_le (h : d.Keeps width grid) {bucket limit : Nat}
    (hbucket : bucket < grid.length) (hlimit : limit ≤ maxBytes)
    (hroom : ((grid.row bucket).length + 1) * width ≤ limit) (element? : Option Bytes)
    {element : Bytes} (helement : element?.getD (Bytes.zeroes width) = element)
    (hwidth : element.length = width) :
    ∃ d', (do openChain bucket (Column.create limit width 1)
              onChain bucket (Column.append limit element?) :
                Action (Directory Column) Nat).run d = ⟨.ok (grid.row bucket).length, d', []⟩ ∧
      d'.Keeps width (grid.push bucket element) := by
  have hfirst : width ≤ limit := Nat.le_trans (Nat.le_mul_of_pos_left _ (Nat.succ_pos _)) hroom
  obtain ⟨d', c, hopen, hkeeps, hc⟩ :=
    h.run_openChain_of_le hbucket (Nat.le_trans (saturate_le width) hfirst)
  obtain ⟨d'', c', hrun, hkeeps', -⟩ := hkeeps.run_append_of_le hc
    (by rwa [hkeeps.bytes_size_add hc]) hlimit element? helement hwidth
  refine ⟨d'', ?_, hkeeps'⟩
  rw [Action.run_bind, hopen, Outcome.andThen_ok, hrun]

theorem run_extend_of_lt (h : d.Keeps width grid) {bucket limit : Nat}
    (hbucket : bucket < grid.length) (hroom : limit < ((grid.row bucket).length + 1) * width)
    (element? : Option Bytes) :
    ∃ d', (do openChain bucket (Column.create limit width 1)
              onChain bucket (Column.append limit element?) :
                Action (Directory Column) Nat).run d = ⟨.error (.error .allocation), d', []⟩ ∧
      d'.Keeps width grid := by
  rw [Action.run_bind]
  rcases h.run_openChain hbucket limit with ⟨d', c, hopen, hkeeps, hc⟩ | ⟨hopen, -⟩
  · refine ⟨d', ?_, hkeeps⟩
    rw [hopen, Outcome.andThen_ok, run_append_of_lt hc (by rwa [hkeeps.bytes_size_add hc])]
  · exact ⟨d, by rw [hopen, Outcome.andThen_error], h⟩

theorem map_elim_toList (h : d.Keeps width grid) :
    d.chains.toList.map (fun c => c.elim [] Column.toList) = grid := by
  have hsize : grid.length = d.chains.size := h.size_eq.symm
  apply Grid.ext_row (by simpa using hsize.symm)
  intro bucket
  rw [← (h.column bucket).elim_eq]
  rcases hplace : d.chains[bucket]? with _ | c <;> simp [Grid.row, chainAt, hplace]

/-- The elements of all columns, in bucket order, are the entries of the grid. -/
theorem flatMap_toList (h : d.Keeps width grid) :
    d.toList.flatMap Column.toList = grid.flatten := by
  rw [← h.map_elim_toList, toList]
  generalize d.chains.toList = chains
  induction chains with
  | nil => rfl
  | cons c chains ih =>
    rcases c with _ | c
    · simpa using ih
    · simpa using ih

end Directory.Keeps

/-! ## Directories of words -/

/-- Whether a directory of word columns holds exactly the entries of a grid. -/
structure Directory.KeepsWords (d : Directory WordColumn) (grid : Grid SlotWord) : Prop where
  /-- There is a row for every bucket. -/
  size_eq : d.size = grid.length
  /-- Every row is what the bucket's column holds. -/
  words : ∀ bucket, (d.chainAt bucket).elim [] Array.toList = grid.row bucket
  /-- The words of a bucket fit in one buffer. -/
  length_row_le : ∀ bucket, WordColumn.wordBytes * (grid.row bucket).length ≤ maxBytes

namespace Directory.KeepsWords

variable {d : Directory WordColumn} {grid : Grid SlotWord}

theorem of_create {limit entryBytes bucketCount : Nat} {d : Directory WordColumn}
    (h : create limit entryBytes bucketCount = .ok d) :
    d.KeepsWords (List.replicate bucketCount []) := by
  obtain ⟨hchains, -⟩ := create_eq_ok h
  refine ⟨by simp [size, hchains], fun bucket => ?_, fun bucket => ?_⟩
  · rw [chainAt_of_chains_eq hchains]
    by_cases hbucket : bucket < bucketCount <;> simp [Grid.row, hbucket]
  · by_cases hbucket : bucket < bucketCount <;> simp [Grid.row, hbucket]

theorem exists_words (h : d.KeepsWords grid) {slot : Slot} {word : SlotWord}
    (hslot : grid.at? slot = some word) :
    ∃ words, d.chainAt slot.bucket = some words ∧ words.toList = grid.row slot.bucket := by
  have hwords := h.words slot.bucket
  rcases hc : d.chainAt slot.bucket with _ | words
  · rw [hc, Option.elim_none] at hwords
    simp [Grid.at?, ← hwords] at hslot
  · exact ⟨words, rfl, by rw [hc] at hwords; exact hwords⟩

theorem word_eq (h : d.KeepsWords grid) {slot : Slot} {word : SlotWord}
    (hslot : grid.at? slot = some word) :
    (d.chain slot.bucket >>= fun words => WordColumn.word words slot.item) = .ok word := by
  obtain ⟨words, hc, hlist⟩ := h.exists_words hslot
  have hword : words[slot.item]? = some word := by
    rw [← Array.getElem?_toList, hlist]
    exact hslot
  rw [chain_eq hc, ok_bind, WordColumn.word, hword]

theorem image_update_of_eq {γ : Type} {f : γ → SlotWord} {g : Grid γ} (h : d.KeepsWords (g.image f))
    {slot : Slot} {u : γ → γ} (hu : ∀ a, g.at? slot = some a → f (u a) = f a) :
    d.KeepsWords ((g.update slot u).image f) := by
  rwa [Grid.image_update_of_eq hu]

theorem elim_size_eq (h : d.KeepsWords grid) (bucket : Nat) :
    (d.chainAt bucket).elim 0 Array.size = (grid.row bucket).length := by
  rw [← h.words bucket]
  cases d.chainAt bucket with
  | none => rfl
  | some words => rfl

theorem length_chain (h : d.KeepsWords grid) {bucket : Nat} (hbucket : bucket < grid.length) :
    (d.chain? bucket >>= fun chain => pure (chain.elim 0 Array.size)) =
      (.ok (grid.row bucket).length : Except Crash Nat) := by
  rw [chain?_eq (h.size_eq ▸ hbucket), ok_bind, h.elim_size_eq]
  rfl

theorem put (h : d.KeepsWords grid) {grid' : Grid SlotWord} {bucket : Nat}
    (hbucket : bucket < grid.length) {words : WordColumn} (hlength : grid'.length = grid.length)
    (hrow : ∀ bucket', bucket' ≠ bucket → grid'.row bucket' = grid.row bucket')
    (hwords : words.toList = grid'.row bucket)
    (hle : WordColumn.wordBytes * (grid'.row bucket).length ≤ maxBytes) :
    (d.put bucket words).KeepsWords grid' := by
  refine ⟨by rw [size_put, h.size_eq, hlength], fun bucket' => ?_, fun bucket' => ?_⟩
  · rw [chainAt_put (h.size_eq ▸ hbucket)]
    by_cases heq : bucket' = bucket
    · rw [if_pos heq, heq]
      exact hwords
    · rw [if_neg heq, hrow bucket' heq]
      exact h.words bucket'
  · by_cases heq : bucket' = bucket
    · rw [heq]
      exact hle
    · rw [hrow bucket' heq]
      exact h.length_row_le bucket'

theorem run_setWord (h : d.KeepsWords grid) {slot : Slot} {old : SlotWord}
    (hslot : grid.at? slot = some old) (word : SlotWord) :
    ∃ d', (onChain slot.bucket (WordColumn.setWord slot.item word)).run d = ⟨.ok (), d', []⟩ ∧
      d'.KeepsWords (grid.update slot fun _ => word) := by
  obtain ⟨words, hc, hlist⟩ := h.exists_words hslot
  have hitem : slot.item < words.size := by
    rw [← Array.length_toList, hlist]
    exact Grid.item_lt_of_at? hslot
  refine ⟨d.put slot.bucket (words.setIfInBounds slot.item word), ?_, ?_⟩
  · rw [run_onChain _ hc]
    simp only [Action.run, WordColumn.setWord, if_pos hitem, Action.modify]
  · refine h.put (Grid.bucket_lt_of_at? hslot) (by simp) (fun bucket' hne => ?_) ?_ ?_
    · rw [Grid.row_update, if_neg hne]
    · rw [Array.toList_setIfInBounds, hlist, Grid.row_update, if_pos rfl, List.set_eq_modify]
    · rw [Grid.length_row_update]
      exact h.length_row_le slot.bucket

theorem size_eq_of_chainAt (h : d.KeepsWords grid) {bucket : Nat} {words : WordColumn}
    (hc : d.chainAt bucket = some words) : words.size = (grid.row bucket).length := by
  rw [← h.elim_size_eq, hc, Option.elim_some]

/-- A bucket's words are created, if they were not, and have memory for one more. -/
theorem run_reserve (h : d.KeepsWords grid) {bucket : Nat} (hbucket : bucket < grid.length)
    (limit : Nat) :
    ∃ d' words, d'.KeepsWords grid ∧ d'.chainAt bucket = some words ∧
      ((do openChain bucket (.ok #[])
           onChain bucket (WordColumn.reserveOne limit) :
          Action (Directory WordColumn) Unit).run d = ⟨.ok (), d', []⟩ ∧
          WordColumn.wordBytes * ((grid.row bucket).length + 1) ≤ limit ∨
        (do openChain bucket (.ok #[])
            onChain bucket (WordColumn.reserveOne limit) :
              Action (Directory WordColumn) Unit).run d =
          ⟨.error (.error .allocation), d', []⟩ ∧
          limit < WordColumn.wordBytes * ((grid.row bucket).length + 1)) := by
  have hopen : ∃ d' words, (openChain bucket (.ok #[])).run d = ⟨.ok (), d', []⟩ ∧
      d'.KeepsWords grid ∧ d'.chainAt bucket = some words := by
    have hsize : bucket < d.size := h.size_eq ▸ hbucket
    rcases hc : d.chainAt bucket with _ | words
    · refine ⟨d.put bucket #[], #[], run_openChain_of_none hsize hc _, ?_, ?_⟩
      · have hrow := h.words bucket
        rw [hc, Option.elim_none] at hrow
        exact h.put hbucket rfl (fun _ _ => rfl) hrow (h.length_row_le bucket)
      · rw [chainAt_put hsize, if_pos rfl]
    · exact ⟨d, words, run_openChain_of_some hc _, h, hc⟩
  obtain ⟨d', words, hrun, hkeeps, hc⟩ := hopen
  refine ⟨d', words, hkeeps, hc, ?_⟩
  rw [← hkeeps.size_eq_of_chainAt hc]
  simp only [Action.run_bind, hrun, Outcome.andThen_ok, run_onChain _ hc]
  by_cases hlimit : WordColumn.wordBytes * (words.size + 1) ≤ limit
  · refine .inl ⟨?_, hlimit⟩
    simp only [Action.run, WordColumn.reserveOne, if_pos hlimit, Action.pure, put_of_chainAt hc]
  · refine .inr ⟨?_, Nat.not_le.mp hlimit⟩
    simp only [Action.run, WordColumn.reserveOne, if_neg hlimit, Action.raise, Action.fail,
      put_of_chainAt hc]

theorem run_push (h : d.KeepsWords grid) {bucket : Nat} {words : WordColumn}
    (hc : d.chainAt bucket = some words)
    (hroom : WordColumn.wordBytes * ((grid.row bucket).length + 1) ≤ maxBytes) (word : SlotWord) :
    ∃ d', (onChain bucket (Action.modify (Array.push · word))).run d = ⟨.ok (), d', []⟩ ∧
      d'.KeepsWords (grid.push bucket word) ∧ d'.chainAt bucket = some (words.push word) := by
  have hbucket : bucket < grid.length := h.size_eq ▸ bucket_lt_of_chainAt hc
  have hlist := h.words bucket
  rw [hc, Option.elim_some] at hlist
  refine ⟨d.put bucket (words.push word), ?_, ?_, ?_⟩
  · rw [run_onChain _ hc, Action.run_modify]
  · refine h.put hbucket (by simp) (fun bucket' hne => ?_) ?_ ?_
    · rw [Grid.row_push hbucket, if_neg hne]
    · rw [Array.toList_push, hlist, Grid.row_push hbucket, if_pos rfl]
    · rw [Grid.row_push hbucket, if_pos rfl, List.length_append, List.length_singleton]
      exact hroom
  · rw [chainAt_put (h.size_eq ▸ hbucket), if_pos rfl]

end Directory.KeepsWords

end ByteTable
