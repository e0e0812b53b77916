import ByteTable.Action
import ByteTable.Bytes

/-!
# Columns

A column is a growable run of equally sized elements, kept in one byte buffer.  The elements lie
back to back, element `i` at offset `i * elementSize`, and they fill the buffer: its length is a
field of the type, `bytes_size`.  An element size of zero is allowed; such elements take no room
but are counted.

Growing asks for memory first.  `limit` is the number of bytes that the buffer may have, and an
append or reservation past it fails and changes nothing.  A column has no capacity beside its
length: a reservation leaves nothing behind, and an append asks again for the memory that it needs,
which is granted under a limit that has not become smaller.

Writing to an element that does not exist is ignored by `replaceAt` and `updateAt`, and is a crash
for `writeField`, which is what the layouts use.  The room that a reservation asks for and the end
of a removed stretch are cut off at the largest word (`saturate`).
-/

namespace ByteTable

/-- A growable run of equally sized elements. -/
structure Column where
  /-- The length of each element. -/
  elementSize : Nat
  /-- The number of elements. -/
  size : Nat
  /-- The elements, back to back. -/
  bytes : Array UInt8
  /-- The elements fill the buffer. -/
  bytes_size : bytes.size = size * elementSize
  deriving DecidableEq

namespace Column

/-- The column of no elements, each of the given length. -/
def empty (elementSize : Nat) : Column :=
  ⟨elementSize, 0, #[], by simp⟩

/-- A column of no elements yet, with memory reserved for the given number of them. -/
def create (limit elementSize expected : Nat) : Except TableError Column :=
  if saturate (elementSize * expected) ≤ limit then .ok (empty elementSize)
  else .error .allocation

/-! ## Reading -/

/-- Whether there are no elements. -/
def isEmpty (c : Column) : Bool :=
  c.size == 0

/-- The element at an index, if there is one. -/
def element? (c : Column) (index : Nat) : Option Bytes :=
  if index < c.size then
    some (c.bytes.extract (index * c.elementSize) (index * c.elementSize + c.elementSize)).toList
  else none

/-- The element at an index that must exist. -/
def element (c : Column) (index : Nat) : Except Crash Bytes :=
  match c.element? index with
  | some bytes => .ok bytes
  | none => .error .outOfBounds

/-- All elements, in order. -/
def toList (c : Column) : List Bytes :=
  (List.range c.size).filterMap c.element?

/-! ## Writing over elements -/

/-- A buffer with bytes written over it from an offset on. -/
def overwrite (buffer : Array UInt8) (offset : Nat) : Bytes → Array UInt8
  | [] => buffer
  | b :: bs => overwrite (buffer.setIfInBounds offset b) (offset + 1) bs

/-- Writing over a buffer keeps its length. -/
@[simp] theorem size_overwrite (buffer : Array UInt8) (offset : Nat) (data : Bytes) :
    (overwrite buffer offset data).size = buffer.size := by
  induction data generalizing buffer offset with
  | nil => rfl
  | cons b bs ih => simp [overwrite, ih]

/-- The column with bytes written over an element from an offset within it on. -/
def patch (c : Column) (index offset : Nat) (data : Bytes) : Column :=
  match c with
  | ⟨elementSize, size, bytes, bytes_size⟩ =>
    ⟨elementSize, size, overwrite bytes (index * elementSize + offset) data, by
      rw [size_overwrite, bytes_size]⟩

/-- Replace the element at an index, which is ignored if there is none. -/
def replaceAt (index : Nat) (element : Bytes) : Action Column Unit := fun c =>
  if index < c.size then
    if element.length = c.elementSize then Action.modify (patch · index 0 element) c
    else Action.crash .copyLength c
  else (Action.pure ()) c

/-- Change the element at an index in place by a function that keeps its length, and answer whether
there was one. -/
def updateAt (index : Nat) (change : Bytes → Bytes) : Action Column Bool := fun c =>
  match c.element? index with
  | some element =>
    let changed := change element
    if changed.length = c.elementSize then ⟨.ok true, c.patch index 0 changed, []⟩
    else Action.crash .copyLength c
  | none => (Action.pure false) c

/-- Fill the element at an index with one byte, and answer whether there was one. -/
def fillAt (index : Nat) (byte : UInt8) : Action Column Bool :=
  updateAt index fun element => List.replicate element.length byte

/-- Write a field of the element at an index, which must exist: `width` bytes from `offset` on. -/
def writeField (index offset width : Nat) (data : Bytes) : Action Column Unit := fun c =>
  if index < c.size then
    if data.length = width then Action.modify (patch · index offset data) c
    else Action.crash .copyLength c
  else Action.crash .outOfBounds c

/-! ## Growing and shrinking -/

/-- Ask for memory for further elements. -/
def reserve (limit additional : Nat) : Action Column Unit := fun c =>
  if c.bytes.size + saturate (c.elementSize * additional) ≤ limit then (Action.pure ()) c
  else Action.raise .allocation c

/-- The column with one more element at its end. -/
def push (c : Column) (element : Bytes) (h : element.length = c.elementSize) : Column :=
  match c, h with
  | ⟨elementSize, size, bytes, bytes_size⟩, h =>
    ⟨elementSize, size + 1, bytes ++ element.toArray, by
      have hlength : element.length = elementSize := h
      simp [bytes_size, hlength, Nat.succ_mul]⟩

/-- Append an element, or one of zeroes, and answer with its index.  Memory is reserved before the
element's length is checked. -/
def append (limit : Nat) (element? : Option Bytes) : Action Column Nat := fun c =>
  if c.bytes.size + c.elementSize ≤ limit then
    let element := element?.getD (Bytes.zeroes c.elementSize)
    let index := c.size
    if h : element.length = c.elementSize then ⟨.ok index, c.push element h, []⟩
    else Action.crash .elementSize c
  else Action.raise .allocation c

/-- The column without the elements from `start` up to `stop`. -/
def removeBetween (c : Column) (start stop : Nat) (h : start ≤ stop ∧ stop ≤ c.size) : Column :=
  ⟨c.elementSize, c.size - (stop - start),
    c.bytes.extract 0 (start * c.elementSize) ++ c.bytes.extract (stop * c.elementSize), by
      have hstart := Nat.mul_le_mul_right c.elementSize h.1
      have hstop := Nat.mul_le_mul_right c.elementSize h.2
      rw [Array.size_append, Array.size_extract, Array.size_extract, c.bytes_size,
        Nat.sub_mul, Nat.sub_mul]
      omega⟩

/-- Remove the elements from `index` on, `count` of them or as many as there are, and close the
gap. -/
def removeRange (index count : Nat) : Action Column Unit := Action.modify fun c =>
  if h : index < min (saturate (index + count)) c.size then
    c.removeBetween index (min (saturate (index + count)) c.size)
      ⟨Nat.le_of_lt h, Nat.min_le_right _ _⟩
  else c

/-! ## Small laws -/

/-- The elements are numbered without gaps from zero. -/
theorem element?_eq_none_iff {c : Column} {index : Nat} :
    c.element? index = none ↔ c.size ≤ index := by
  simp [element?]

/-- An element lies within the buffer. -/
theorem offset_add_le {c : Column} {index : Nat} (h : index < c.size) :
    index * c.elementSize + c.elementSize ≤ c.bytes.size := by
  rw [c.bytes_size, ← Nat.succ_mul]
  exact Nat.mul_le_mul_right c.elementSize h

/-- Every element has the column's element size. -/
theorem length_of_element? {c : Column} {index : Nat} {element : Bytes}
    (h : c.element? index = some element) : element.length = c.elementSize := by
  by_cases hindex : index < c.size
  · have hfits := offset_add_le hindex
    simp only [element?, if_pos hindex, Option.some.injEq] at h
    rw [← h, Array.length_toList, Array.size_extract]
    omega
  · rw [element?_eq_none_iff.mpr (Nat.not_lt.mp hindex)] at h
    cases h

@[simp] theorem size_push (c : Column) (element : Bytes) (h : element.length = c.elementSize) :
    (c.push element h).size = c.size + 1 := rfl

@[simp] theorem elementSize_push (c : Column) (element : Bytes)
    (h : element.length = c.elementSize) :
    (c.push element h).elementSize = c.elementSize := rfl

/-- An appended element is read back at the index that was the size. -/
theorem element?_push_size (c : Column) (element : Bytes) (h : element.length = c.elementSize) :
    (c.push element h).element? c.size = some element := by
  have hsize : c.size * c.elementSize = c.bytes.size := c.bytes_size.symm
  have hbytes : (c.push element h).bytes = c.bytes ++ element.toArray := rfl
  rw [element?, if_pos (by simp), elementSize_push, hbytes, hsize, Array.extract_append, ← h]
  simp

/-- Appending leaves the elements before it as they were. -/
theorem element?_push_of_lt {c : Column} {index : Nat} (element : Bytes)
    (h : element.length = c.elementSize) (hindex : index < c.size) :
    (c.push element h).element? index = c.element? index := by
  have hfits := offset_add_le hindex
  have hbytes : (c.push element h).bytes = c.bytes ++ element.toArray := rfl
  rw [element?, element?, if_pos hindex, if_pos (by rw [size_push]; omega), elementSize_push,
    hbytes, Array.extract_append]
  simp [Nat.sub_eq_zero_of_le hfits]

instance : Describe Column :=
  ⟨fun c => Description.record "ElementArray"
    [("element_size", describe c.elementSize), ("len", describe c.size),
      ("bytes", describe c.bytes)]⟩

end Column

end ByteTable
