import ByteTable.Proofs.Directory.Touches
import ByteTable.Proofs.Storage.Kind

/-!
# What a layout does not change

Each change that a layout makes is a change of one bucket's chains, and no layout takes a chain
away.  `Layout.MovesAt` states such a fact for all four changes at once, and for any relation, so
that what is built on a layout can be treated in the same way whichever the layout is.

The interleaved layout gets the finer relation, `Interleaved.Touches`, which also says that the
other buckets stay as they are.  For all layouts by name there is the coarser one,
`LayoutKind.Opens`.  A layout that shows the same slots as before can then differ in blank chains
only (`LayoutKind.onlyOpened`).
-/

namespace ByteTable

/-- Whether all that a layout can do in a bucket moves it along a relation. -/
structure Layout.MovesAt {L : Type} [Layout L] (bucket : Nat) (R : L → L → Prop) : Prop where
  setWord (item : Nat) (word : SlotWord) : (Layout.setWord ⟨bucket, item⟩ word).Moves R
  setValue (item : Nat) (value : Bytes) : (Layout.setValue ⟨bucket, item⟩ value).Moves R
  overwrite (item : Nat) (word : SlotWord) (key : Bytes) :
    (Layout.overwrite ⟨bucket, item⟩ word key).Moves R
  append (memory : Memory) (word : SlotWord) (key : Bytes) :
    (Layout.append memory bucket word key).Moves R

theorem Layout.MovesAt.mono {L : Type} [Layout L] {bucket : Nat} {R R' : L → L → Prop}
    (h : Layout.MovesAt bucket R) (hR : ∀ layout layout', R layout layout' → R' layout layout') :
    Layout.MovesAt bucket R' :=
  ⟨fun item word => (h.setWord item word).mono hR,
    fun item value => (h.setValue item value).mono hR,
    fun item word key => (h.overwrite item word key).mono hR,
    fun memory word key => (h.append memory word key).mono hR⟩

/-! ## Interleaved -/

namespace Interleaved

variable {store store' : Interleaved} {bucket : Nat}

/-- Whether only one bucket's records differ, and no chain is missing. -/
structure Touches (bucket : Nat) (store store' : Interleaved) : Prop where
  keySize_eq : store'.keySize = store.keySize
  valueSize_eq : store'.valueSize = store.valueSize
  records : store.records.Touches bucket store'.records

instance (bucket : Nat) : Std.Refl (Touches bucket) :=
  ⟨fun _ => ⟨rfl, rfl, Std.Refl.refl _⟩⟩

instance (bucket : Nat) : IsTrans Interleaved (Touches bucket) :=
  ⟨fun _ _ _ h h' => ⟨h'.keySize_eq.trans h.keySize_eq, h'.valueSize_eq.trans h.valueSize_eq,
    IsTrans.trans _ _ _ h.records h'.records⟩⟩

theorem moves_onRecords {α : Type} {act : Action (Directory Column) α}
    (h : act.Moves (Directory.Touches bucket)) : (onRecords act).Moves (Touches bucket) :=
  h.within fun _ _ hrecords => ⟨rfl, rfl, hrecords⟩

theorem moves_writeField (item offset width : Nat) (data : Bytes) :
    (writeField ⟨bucket, item⟩ offset width data).Moves (Touches bucket) :=
  moves_onRecords (Directory.moves_onChain bucket _)

theorem moves_overwrite (item : Nat) (word : SlotWord) (key : Bytes) :
    (overwrite ⟨bucket, item⟩ word key).Moves (Touches bucket) := by
  refine (Action.Moves.read _).bind fun sizes => ?_
  refine (moves_writeField item _ _ _).bind fun _ => ?_
  exact (moves_writeField item _ _ _).bind fun _ => moves_writeField item _ _ _

theorem moves_append (memory : Memory) (bucket : Nat) (word : SlotWord) (key : Bytes) :
    (append memory bucket word key).Moves (Touches bucket) := by
  rw [append]
  refine (Action.Moves.read _).bind fun size => ?_
  refine (moves_onRecords ?_).bind fun item => ?_
  · exact (Directory.moves_openChain bucket _).bind fun _ => Directory.moves_onChain bucket _
  · exact (moves_overwrite item word key).bind fun _ => .pure item

theorem movesAt (bucket : Nat) : Layout.MovesAt bucket (Touches bucket) where
  setWord item _ := moves_writeField item _ _ _
  setValue item _ := (Action.Moves.read _).bind fun _ => moves_writeField item _ _ _
  overwrite := moves_overwrite
  append memory word key := moves_append memory bucket word key

/-- Whether no bucket and no chain is missing. -/
def Opens (store store' : Interleaved) : Prop :=
  store.records.Opens store'.records

instance : Std.Refl Opens :=
  ⟨fun store => Std.Refl.refl store.records⟩

instance : IsTrans Interleaved Opens :=
  ⟨fun _ _ _ h h' => IsTrans.trans (r := Directory.Opens) _ _ _ h h'⟩

/-- Whether two layouts differ in blank chains only. -/
structure OnlyOpened (store store' : Interleaved) : Prop where
  keySize_eq : store'.keySize = store.keySize
  valueSize_eq : store'.valueSize = store.valueSize
  records : store.records.OnlyOpened (Column.empty (rawSize store.keySize store.valueSize))
    store'.records

theorem Shows.onlyOpened {keySize valueSize : Nat} {bs : Buckets}
    (h : store.Shows keySize valueSize bs) (h' : store'.Shows keySize valueSize bs)
    (hopens : store.Opens store') : store.OnlyOpened store' := by
  obtain rfl := h.keySize_eq
  obtain rfl := h.valueSize_eq
  exact ⟨h'.keySize_eq, h'.valueSize_eq, h.records.onlyOpened h'.records hopens⟩

end Interleaved

/-! ## Words apart -/

namespace HashSeparated

variable {store store' : HashSeparated} {bucket : Nat}

/-- Whether no bucket and no chain is missing. -/
structure Opens (store store' : HashSeparated) : Prop where
  words : store.words.Opens store'.words
  records : store.records.Opens store'.records

instance : Std.Refl Opens :=
  ⟨fun _ => ⟨Std.Refl.refl _, Std.Refl.refl _⟩⟩

instance : IsTrans HashSeparated Opens :=
  ⟨fun _ _ _ h h' => ⟨IsTrans.trans _ _ _ h.words h'.words,
    IsTrans.trans _ _ _ h.records h'.records⟩⟩

theorem moves_onWords {α : Type} {act : Action (Directory WordColumn) α}
    (h : act.Moves (Directory.Touches bucket)) : (onWords act).Moves Opens :=
  h.within fun _ _ hwords => ⟨hwords.opens, Std.Refl.refl _⟩

theorem moves_onRecords {α : Type} {act : Action (Directory Column) α}
    (h : act.Moves (Directory.Touches bucket)) : (onRecords act).Moves Opens :=
  h.within fun _ _ hrecords => ⟨Std.Refl.refl _, hrecords.opens⟩

theorem moves_setWord (item : Nat) (word : SlotWord) : (setWord ⟨bucket, item⟩ word).Moves Opens :=
  moves_onWords (Directory.moves_onChain bucket _)

theorem moves_writeField (item offset width : Nat) (data : Bytes) :
    (writeField ⟨bucket, item⟩ offset width data).Moves Opens :=
  moves_onRecords (Directory.moves_onChain bucket _)

theorem moves_overwrite (item : Nat) (word : SlotWord) (key : Bytes) :
    (overwrite ⟨bucket, item⟩ word key).Moves Opens := by
  refine (Action.Moves.read _).bind fun sizes => ?_
  refine (moves_setWord item word).bind fun _ => ?_
  exact (moves_writeField item _ _ _).bind fun _ => moves_writeField item _ _ _

theorem moves_append (memory : Memory) (bucket : Nat) (word : SlotWord) (key : Bytes) :
    (append memory bucket word key).Moves Opens := by
  rw [append]
  refine (Action.Moves.read _).bind fun size => ?_
  refine (moves_onRecords (Directory.moves_openChain bucket _)).bind fun _ => ?_
  refine (moves_onWords ((Directory.moves_openChain bucket _).bind fun _ =>
    Directory.moves_onChain bucket _)).bind fun _ => ?_
  refine (moves_onRecords (Directory.moves_onChain bucket _)).bind fun item => ?_
  refine (moves_onWords (Directory.moves_onChain bucket _)).bind fun _ => ?_
  refine (Action.Moves.read _).bind fun _ => ?_
  refine (Action.Moves.read _).bind fun sizes => ?_
  exact (moves_writeField item _ _ _).bind fun _ => .pure item

theorem movesAt (bucket : Nat) : Layout.MovesAt bucket Opens where
  setWord := moves_setWord
  setValue item _ := (Action.Moves.read _).bind fun _ => moves_writeField item _ _ _
  overwrite := moves_overwrite
  append memory word key := moves_append memory bucket word key

/-- Whether two layouts differ in blank chains only. -/
structure OnlyOpened (store store' : HashSeparated) : Prop where
  keySize_eq : store'.keySize = store.keySize
  valueSize_eq : store'.valueSize = store.valueSize
  words : store.words.OnlyOpened #[] store'.words
  records : store.records.OnlyOpened (Column.empty (store.keySize + store.valueSize)) store'.records

theorem Shows.onlyOpened {keySize valueSize : Nat} {bs : Buckets}
    (h : store.Shows keySize valueSize bs) (h' : store'.Shows keySize valueSize bs)
    (hopens : store.Opens store') : store.OnlyOpened store' := by
  obtain rfl := h.keySize_eq
  obtain rfl := h.valueSize_eq
  exact ⟨h'.keySize_eq, h'.valueSize_eq, h.words.onlyOpened h'.words hopens.words,
    h.records.onlyOpened h'.records hopens.records⟩

end HashSeparated

/-! ## Words, keys and values apart -/

namespace FullySeparated

variable {store store' : FullySeparated} {bucket : Nat}

/-- Whether no bucket and no chain is missing. -/
structure Opens (store store' : FullySeparated) : Prop where
  words : store.words.Opens store'.words
  keys : store.keys.Opens store'.keys
  values : store.values.Opens store'.values

instance : Std.Refl Opens :=
  ⟨fun _ => ⟨Std.Refl.refl _, Std.Refl.refl _, Std.Refl.refl _⟩⟩

instance : IsTrans FullySeparated Opens :=
  ⟨fun _ _ _ h h' => ⟨IsTrans.trans _ _ _ h.words h'.words, IsTrans.trans _ _ _ h.keys h'.keys,
    IsTrans.trans _ _ _ h.values h'.values⟩⟩

theorem moves_onWords {α : Type} {act : Action (Directory WordColumn) α}
    (h : act.Moves (Directory.Touches bucket)) : (onWords act).Moves Opens :=
  h.within fun _ _ hwords => ⟨hwords.opens, Std.Refl.refl _, Std.Refl.refl _⟩

theorem moves_onKeys {α : Type} {act : Action (Directory Column) α}
    (h : act.Moves (Directory.Touches bucket)) : (onKeys act).Moves Opens :=
  h.within fun _ _ hkeys => ⟨Std.Refl.refl _, hkeys.opens, Std.Refl.refl _⟩

theorem moves_onValues {α : Type} {act : Action (Directory Column) α}
    (h : act.Moves (Directory.Touches bucket)) : (onValues act).Moves Opens :=
  h.within fun _ _ hvalues => ⟨Std.Refl.refl _, Std.Refl.refl _, hvalues.opens⟩

theorem moves_setWord (item : Nat) (word : SlotWord) : (setWord ⟨bucket, item⟩ word).Moves Opens :=
  moves_onWords (Directory.moves_onChain bucket _)

theorem moves_prepare (limit elementSize bucket : Nat) :
    (prepare limit elementSize bucket).Moves (Directory.Touches bucket) :=
  (Directory.moves_openChain bucket _).bind fun _ => Directory.moves_onChain bucket _

theorem moves_overwrite (item : Nat) (word : SlotWord) (key : Bytes) :
    (overwrite ⟨bucket, item⟩ word key).Moves Opens := by
  refine (Action.Moves.read _).bind fun sizes => ?_
  refine (moves_setWord item word).bind fun _ => ?_
  refine (moves_onKeys (Directory.moves_onChain bucket _)).bind fun _ => ?_
  exact moves_onValues (Directory.moves_onChain bucket _)

theorem moves_append (memory : Memory) (bucket : Nat) (word : SlotWord) (key : Bytes) :
    (append memory bucket word key).Moves Opens := by
  rw [append]
  refine (Action.Moves.read _).bind fun sizes => ?_
  refine (moves_onWords ((Directory.moves_openChain bucket _).bind fun _ =>
    Directory.moves_onChain bucket _)).bind fun _ => ?_
  refine (moves_onKeys (moves_prepare _ _ bucket)).bind fun _ => ?_
  refine (moves_onValues (moves_prepare _ _ bucket)).bind fun _ => ?_
  refine (moves_onKeys (Directory.moves_onChain bucket _)).bind fun item => ?_
  refine (moves_onValues (Directory.moves_onChain bucket _)).bind fun _ => ?_
  refine (moves_onWords (Directory.moves_onChain bucket _)).bind fun _ => ?_
  exact (Action.Moves.read _).bind fun _ => .pure item

theorem movesAt (bucket : Nat) : Layout.MovesAt bucket Opens where
  setWord := moves_setWord
  setValue _ _ :=
    (Action.Moves.read _).bind fun _ => moves_onValues (Directory.moves_onChain bucket _)
  overwrite := moves_overwrite
  append memory word key := moves_append memory bucket word key

/-- Whether two layouts differ in blank chains only. -/
structure OnlyOpened (store store' : FullySeparated) : Prop where
  keySize_eq : store'.keySize = store.keySize
  valueSize_eq : store'.valueSize = store.valueSize
  words : store.words.OnlyOpened #[] store'.words
  keys : store.keys.OnlyOpened (Column.empty store.keySize) store'.keys
  values : store.values.OnlyOpened (Column.empty store.valueSize) store'.values

theorem Shows.onlyOpened {keySize valueSize : Nat} {bs : Buckets}
    (h : store.Shows keySize valueSize bs) (h' : store'.Shows keySize valueSize bs)
    (hopens : store.Opens store') : store.OnlyOpened store' := by
  obtain rfl := h.keySize_eq
  obtain rfl := h.valueSize_eq
  exact ⟨h'.keySize_eq, h'.valueSize_eq, h.words.onlyOpened h'.words hopens.words,
    h.keys.onlyOpened h'.keys hopens.keys, h.values.onlyOpened h'.values hopens.values⟩

end FullySeparated

/-! ## By name -/

namespace LayoutKind

variable {kind : LayoutKind}

/-- Whether no bucket and no chain of a layout is missing in a second one. -/
def Opens : (kind : LayoutKind) → kind.Store → kind.Store → Prop
  | interleaved => Interleaved.Opens
  | hashSeparated => HashSeparated.Opens
  | fullySeparated => FullySeparated.Opens

instance (kind : LayoutKind) : Std.Refl kind.Opens :=
  match kind with
  | interleaved => inferInstanceAs (Std.Refl Interleaved.Opens)
  | hashSeparated => inferInstanceAs (Std.Refl HashSeparated.Opens)
  | fullySeparated => inferInstanceAs (Std.Refl FullySeparated.Opens)

instance (kind : LayoutKind) : IsTrans kind.Store kind.Opens :=
  match kind with
  | interleaved => inferInstanceAs (IsTrans Interleaved Interleaved.Opens)
  | hashSeparated => inferInstanceAs (IsTrans HashSeparated HashSeparated.Opens)
  | fullySeparated => inferInstanceAs (IsTrans FullySeparated FullySeparated.Opens)

theorem Opens.bucketCount_eq {store store' : kind.Store} (h : kind.Opens store store') :
    Layout.bucketCount store' = Layout.bucketCount store := by
  cases kind with
  | interleaved => exact Directory.Opens.size_eq h
  | hashSeparated => exact h.words.size_eq
  | fullySeparated => exact h.words.size_eq

/-- No layout takes a chain away. -/
theorem movesAt (kind : LayoutKind) (bucket : Nat) : Layout.MovesAt bucket kind.Opens :=
  match kind with
  | interleaved => (Interleaved.movesAt bucket).mono fun _ _ h => h.records.opens
  | hashSeparated => HashSeparated.movesAt bucket
  | fullySeparated => FullySeparated.movesAt bucket

/-- Whether two layouts differ in blank chains only: everything that one holds is held by the other
in the same places, byte for byte. -/
def OnlyOpened : (kind : LayoutKind) → kind.Store → kind.Store → Prop
  | interleaved => Interleaved.OnlyOpened
  | hashSeparated => HashSeparated.OnlyOpened
  | fullySeparated => FullySeparated.OnlyOpened

/-- A layout that shows the same slots as before has at most created blank chains. -/
theorem onlyOpened {store store' : kind.Store} {keySize valueSize : Nat} {bs : Buckets}
    (h : LawfulLayout.Shows store keySize valueSize bs)
    (h' : LawfulLayout.Shows store' keySize valueSize bs) (hopens : kind.Opens store store') :
    kind.OnlyOpened store store' := by
  cases kind with
  | interleaved => exact Interleaved.Shows.onlyOpened h h' hopens
  | hashSeparated => exact HashSeparated.Shows.onlyOpened h h' hopens
  | fullySeparated => exact FullySeparated.Shows.onlyOpened h h' hopens

end LayoutKind

end ByteTable
