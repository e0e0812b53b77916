import ByteTable.Proofs.Layout.FullySeparated
import ByteTable.Proofs.Layout.HashSeparated
import ByteTable.Proofs.Layout.Interleaved
import ByteTable.Proofs.Storage

/-!
# Layouts and storages by name

`LayoutKind` names the layouts and `StorageKind` the storages over them, so that a theorem about all
of them is a statement about one variable, and two tables over different layouts can be compared.

A layout that keeps the parts of a slot in several chains must keep these in step.  `chainLengths`
looks at the chains themselves, past the interface of `Layout`.
-/

namespace ByteTable

/-! ## The chains of a bucket

A chain that was never used has no elements. -/

/-- The number of elements in each chain of a bucket. -/
def Interleaved.chainLengths (store : Interleaved) (bucket : Nat) : List Nat :=
  [(store.records.chainAt bucket).elim 0 Column.size]

theorem Interleaved.Shows.eq_of_mem_chainLengths {store : Interleaved} {keySize valueSize : Nat}
    {bs : Buckets} (h : store.Shows keySize valueSize bs) {bucket length : Nat}
    (hlength : length ∈ store.chainLengths bucket) : length = (bs.row bucket).length := by
  have hrecords := h.records.elim_size_eq bucket
  rw [Grid.length_row_image] at hrecords
  rw [chainLengths, List.mem_singleton] at hlength
  exact hlength.trans hrecords

/-- The number of elements in each chain of a bucket. -/
def HashSeparated.chainLengths (store : HashSeparated) (bucket : Nat) : List Nat :=
  [(store.words.chainAt bucket).elim 0 Array.size,
    (store.records.chainAt bucket).elim 0 Column.size]

theorem HashSeparated.Shows.eq_of_mem_chainLengths {store : HashSeparated}
    {keySize valueSize : Nat} {bs : Buckets} (h : store.Shows keySize valueSize bs)
    {bucket length : Nat} (hlength : length ∈ store.chainLengths bucket) :
    length = (bs.row bucket).length := by
  have hwords := h.words.elim_size_eq bucket
  have hrecords := h.records.elim_size_eq bucket
  rw [Grid.length_row_image] at hwords hrecords
  rw [chainLengths, List.mem_cons, List.mem_singleton] at hlength
  obtain rfl | rfl := hlength
  · exact hwords
  · exact hrecords

/-- The number of elements in each chain of a bucket. -/
def FullySeparated.chainLengths (store : FullySeparated) (bucket : Nat) : List Nat :=
  [(store.words.chainAt bucket).elim 0 Array.size,
    (store.keys.chainAt bucket).elim 0 Column.size,
    (store.values.chainAt bucket).elim 0 Column.size]

theorem FullySeparated.Shows.eq_of_mem_chainLengths {store : FullySeparated}
    {keySize valueSize : Nat} {bs : Buckets} (h : store.Shows keySize valueSize bs)
    {bucket length : Nat} (hlength : length ∈ store.chainLengths bucket) :
    length = (bs.row bucket).length := by
  have hwords := h.words.elim_size_eq bucket
  have hkeys := h.keys.elim_size_eq bucket
  have hvalues := h.values.elim_size_eq bucket
  rw [Grid.length_row_image] at hwords hkeys hvalues
  rw [chainLengths, List.mem_cons, List.mem_cons, List.mem_singleton] at hlength
  obtain rfl | rfl | rfl := hlength
  · exact hwords
  · exact hkeys
  · exact hvalues

/-! ## Layouts and storages by name -/

/-- The layouts of a table. -/
inductive LayoutKind where
  /-- Word, key and value side by side. -/
  | interleaved
  /-- Words apart from keys and values. -/
  | hashSeparated
  /-- Words, keys and values all apart. -/
  | fullySeparated
  deriving DecidableEq

namespace LayoutKind

/-- What a layout keeps the slots in. -/
def Store : LayoutKind → Type
  | interleaved => Interleaved
  | hashSeparated => HashSeparated
  | fullySeparated => FullySeparated

instance (kind : LayoutKind) : Layout kind.Store :=
  match kind with
  | interleaved => inferInstanceAs (Layout Interleaved)
  | hashSeparated => inferInstanceAs (Layout HashSeparated)
  | fullySeparated => inferInstanceAs (Layout FullySeparated)

instance (kind : LayoutKind) : LawfulLayout kind.Store :=
  match kind with
  | interleaved => inferInstanceAs (LawfulLayout Interleaved)
  | hashSeparated => inferInstanceAs (LawfulLayout HashSeparated)
  | fullySeparated => inferInstanceAs (LawfulLayout FullySeparated)

/-- The chains of a bucket, each with the bytes that a slot takes in it. -/
def widths (keySize valueSize : Nat) : LayoutKind → List (Part × Nat)
  | interleaved => [(.records, 8 + keySize + valueSize)]
  | hashSeparated => [(.words, 8), (.records, keySize + valueSize)]
  | fullySeparated => [(.words, 8), (.keys, keySize), (.values, valueSize)]

theorem widths_eq (kind : LayoutKind) (keySize valueSize : Nat) :
    LawfulLayout.widths kind.Store keySize valueSize = kind.widths keySize valueSize := by
  cases kind <;> rfl

/-- The number of elements in each chain of a bucket. -/
def chainLengths : (kind : LayoutKind) → kind.Store → (bucket : Nat) → List Nat
  | interleaved => Interleaved.chainLengths
  | hashSeparated => HashSeparated.chainLengths
  | fullySeparated => FullySeparated.chainLengths

/-- The chains of a bucket are in step. -/
theorem eq_of_mem_chainLengths {kind : LayoutKind} {store : kind.Store} {keySize valueSize : Nat}
    {bs : Buckets} (h : LawfulLayout.Shows store keySize valueSize bs) {bucket length : Nat}
    (hlength : length ∈ kind.chainLengths store bucket) : length = (bs.row bucket).length := by
  cases kind with
  | interleaved => exact Interleaved.Shows.eq_of_mem_chainLengths h hlength
  | hashSeparated => exact HashSeparated.Shows.eq_of_mem_chainLengths h hlength
  | fullySeparated => exact FullySeparated.Shows.eq_of_mem_chainLengths h hlength

end LayoutKind

/-- The storages of a table: chains over a layout, or the same stripped to the defaults. -/
inductive StorageKind where
  /-- Chains, with the operations by key and the rehash of their own. -/
  | chains (layout : LayoutKind)
  /-- Chains of which only the operations by slot are used. -/
  | bare (layout : LayoutKind)
  deriving DecidableEq

namespace StorageKind

/-- What a storage is. -/
def Store : StorageKind → Type
  | chains layout => Chains layout.Store
  | bare layout => Bare (Chains layout.Store)

instance (kind : StorageKind) : Storage kind.Store :=
  match kind with
  | chains layout => inferInstanceAs (Storage (Chains layout.Store))
  | bare layout => inferInstanceAs (Storage (Bare (Chains layout.Store)))

instance (kind : StorageKind) : LawfulStorage kind.Store :=
  match kind with
  | chains layout => inferInstanceAs (LawfulStorage (Chains layout.Store))
  | bare layout => inferInstanceAs (LawfulStorage (Bare (Chains layout.Store)))

/-- The buckets of a storage, each with all its slots. -/
def contents : (kind : StorageKind) → kind.Store → Except Crash Buckets
  | chains _, (storage : Chains _) => storage.contents
  | bare _, (storage : Bare (Chains _)) => storage.inner.contents

/-- What a storage shows is what reading all its slots gives. -/
theorem contents_eq {kind : StorageKind} {storage : kind.Store} {keySize valueSize : Nat}
    {bs : Buckets} (h : LawfulSlotStorage.Shows storage keySize valueSize bs) :
    kind.contents storage = .ok bs := by
  cases kind with
  | chains layout =>
    exact LawfulLayout.contents_eq (show Chains.Shows storage keySize valueSize bs from h).layout
  | bare layout =>
    exact LawfulLayout.contents_eq (show Bare.Shows storage keySize valueSize bs from h).layout

end StorageKind

end ByteTable
