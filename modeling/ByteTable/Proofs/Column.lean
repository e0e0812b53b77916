import ByteTable.Column
import ByteTable.Memory
import ByteTable.Proofs.Action
import Mathlib.Data.List.Basic

/-!
# Columns as lists

A column keeps its elements back to back in one buffer and finds them by multiplying.  Here it is
read as `Column.toList`, the list of its elements, and the operations that the layouts use are
those of the list: appending adds an element at the end, and writing a field splices bytes into one
element and into no other.

`splice` is the list form of writing over a stretch of bytes.  That a stretch inside one element
does not touch the next is `slice_splice_of_ne`, the only place where offsets are multiplied.
-/

namespace ByteTable

/-- Below a size that fits in a word, stopping at the largest word makes no difference. -/
theorem min_saturate {n size : Nat} (h : size < wordLimit) :
    min (saturate n) size = min n size := by
  unfold saturate
  omega

/-- A limit is passed by a number exactly if it is passed by what machine arithmetic makes of it. -/
theorem add_saturate_le_iff {used n limit : Nat} (h : limit ≤ maxBytes) :
    used + saturate n ≤ limit ↔ used + n ≤ limit := by
  have hlimit : limit < wordLimit - 1 := Nat.lt_of_le_of_lt h (by decide)
  unfold saturate
  omega

namespace Bytes

/-- A byte string with other bytes written over it from an offset on. -/
def splice (offset : Nat) (data target : Bytes) : Bytes :=
  target.take offset ++ data ++ target.drop (offset + data.length)

theorem getElem?_splice {offset : Nat} {data target : Bytes}
    (h : offset + data.length ≤ target.length) (i : Nat) :
    (splice offset data target)[i]? =
      if i < offset then target[i]?
      else if i < offset + data.length then data[i - offset]?
      else target[i]? := by
  have htake : (target.take offset).length = offset := by
    rw [List.length_take]
    omega
  rw [splice, List.append_assoc]
  by_cases hbefore : i < offset
  · rw [if_pos hbefore, List.getElem?_append_left (by omega), List.getElem?_take_of_lt hbefore]
  · rw [if_neg hbefore, List.getElem?_append_right (by omega), htake]
    by_cases hinside : i < offset + data.length
    · rw [if_pos hinside, List.getElem?_append_left (by omega)]
    · rw [if_neg hinside, List.getElem?_append_right (by omega), List.getElem?_drop]
      congr 1
      omega

theorem splice_append (before old after data : Bytes) (h : data.length = old.length) :
    splice before.length data (before ++ (old ++ after)) = before ++ (data ++ after) := by
  have hdrop : (before ++ (old ++ after)).drop (before.length + data.length) = after := by
    rw [h, ← List.length_append, ← List.append_assoc, List.drop_left]
  rw [splice, List.take_left, hdrop, List.append_assoc]

end Bytes

namespace Column

open Bytes (splice)

/-! ## Elements as slices of the buffer -/

/-- The bytes of the buffer at which an element of the given number would lie. -/
def slice (width index : Nat) (buffer : Bytes) : Bytes :=
  (buffer.drop (index * width)).take width

theorem getElem?_slice (width index : Nat) (buffer : Bytes) (i : Nat) :
    (slice width index buffer)[i]? = if i < width then buffer[index * width + i]? else none := by
  rw [slice, List.getElem?_take, List.getElem?_drop]

theorem element?_eq_slice {c : Column} {index : Nat} (h : index < c.size) :
    c.element? index = some (slice c.elementSize index c.bytes.toList) := by
  rw [element?, if_pos h, Array.toList_extract, List.extract_eq_take_drop, slice,
    Nat.add_sub_cancel_left]

theorem toList_eq_map (c : Column) :
    c.toList = (List.range c.size).map fun index => slice c.elementSize index c.bytes.toList := by
  rw [toList, ← List.filterMap_eq_map]
  exact List.filterMap_congr fun index hindex => element?_eq_slice (List.mem_range.mp hindex)

@[simp] theorem length_toList (c : Column) : c.toList.length = c.size := by
  simp [toList_eq_map]

@[simp] theorem getElem?_toList (c : Column) (index : Nat) :
    c.toList[index]? = c.element? index := by
  by_cases h : index < c.size
  · rw [toList_eq_map, List.getElem?_map, List.getElem?_range h, element?_eq_slice h]
    rfl
  · rw [element?_eq_none_iff.mpr (Nat.not_lt.mp h), List.getElem?_eq_none (by simpa using h)]

theorem toList_empty (elementSize : Nat) : (empty elementSize).toList = [] := rfl

theorem length_of_mem_toList {c : Column} {element : Bytes} (h : element ∈ c.toList) :
    element.length = c.elementSize := by
  obtain ⟨index, hindex⟩ := List.mem_iff_getElem?.mp h
  exact length_of_element? (by simpa using hindex)

/-- The slices of a buffer are the buffer. -/
theorem flatten_map_slice (width count : Nat) (buffer : Bytes) :
    ((List.range count).map fun index => slice width index buffer).flatten =
      buffer.take (count * width) := by
  induction count with
  | zero => simp
  | succ count ih =>
    rw [List.range_succ, List.map_append, List.flatten_append, ih, Nat.succ_mul, List.take_add]
    simp [slice]

/-- The buffer is the elements one after another. -/
theorem toList_bytes (c : Column) : c.bytes.toList = c.toList.flatten := by
  rw [toList_eq_map, flatten_map_slice, ← c.bytes_size, ← Array.length_toList, List.take_length]

/-- A column is no more than its elements and their length. -/
theorem eq_of_toList_eq {c c' : Column} (hwidth : c.elementSize = c'.elementSize)
    (h : c.toList = c'.toList) : c = c' := by
  have hsize : c.size = c'.size := by rw [← length_toList, h, length_toList]
  have hsame : c.bytes = c'.bytes := by
    apply Array.toList_inj.mp
    rw [toList_bytes, toList_bytes, h]
  obtain ⟨elementSize, size, bytes, bytes_size⟩ := c
  obtain ⟨elementSize', size', bytes', bytes_size'⟩ := c'
  simp only at hwidth hsize hsame
  subst hwidth hsize hsame
  rfl

theorem element_eq {c : Column} {index : Nat} {element : Bytes}
    (h : c.toList[index]? = some element) : c.element index = .ok element := by
  rw [getElem?_toList] at h
  simp [Column.element, h]

/-! ## Writing over elements -/

theorem toList_overwrite {buffer : Array UInt8} {offset : Nat} {data : Bytes}
    (h : offset + data.length ≤ buffer.size) :
    (overwrite buffer offset data).toList = splice offset data buffer.toList := by
  induction data generalizing buffer offset with
  | nil => simp [overwrite, splice]
  | cons b bs ih =>
    have hoffset : offset < buffer.toList.length := by
      rw [Array.length_toList]
      simp only [List.length_cons] at h
      omega
    rw [overwrite, ih (by simp only [List.length_cons] at h; simp; omega)]
    simp only [splice, Array.toList_setIfInBounds, List.length_cons]
    rw [List.take_add_one, List.getElem?_set_self hoffset, List.take_set_of_le (Nat.le_refl _),
      List.drop_set_of_lt (by omega)]
    simp [Nat.add_assoc, Nat.add_comm 1]

theorem slice_splice_self {width index offset : Nat} {data buffer : Bytes}
    (hdata : offset + data.length ≤ width) (hbuffer : index * width + width ≤ buffer.length) :
    slice width index (splice (index * width + offset) data buffer) =
      splice offset data (slice width index buffer) := by
  have hslice : (slice width index buffer).length = width := by
    simp only [slice, List.length_take, List.length_drop]
    omega
  apply List.ext_getElem?
  intro i
  rw [getElem?_slice, Bytes.getElem?_splice (by omega), Bytes.getElem?_splice (by omega),
    getElem?_slice]
  have hshift : index * width + i - (index * width + offset) = i - offset := by omega
  rw [hshift]
  by_cases hi : i < width
  · simp only [hi, if_true, Nat.add_assoc, Nat.add_lt_add_iff_left]
  · rw [if_neg hi, if_neg (by omega), if_neg (by omega), if_neg hi]

theorem slice_splice_of_ne {width index index' offset : Nat} {data buffer : Bytes}
    (hne : index' ≠ index) (hdata : offset + data.length ≤ width)
    (hbuffer : index * width + width ≤ buffer.length) :
    slice width index' (splice (index * width + offset) data buffer) =
      slice width index' buffer := by
  apply List.ext_getElem?
  intro i
  rw [getElem?_slice, getElem?_slice]
  by_cases hi : i < width
  · rw [if_pos hi, if_pos hi, Bytes.getElem?_splice (by omega)]
    rcases Nat.lt_or_gt_of_ne hne with hlt | hgt
    · have hgap : index' * width + width ≤ index * width := by
        rw [← Nat.succ_mul]
        exact Nat.mul_le_mul_right width hlt
      rw [if_pos (by omega)]
    · have hgap : index * width + width ≤ index' * width := by
        rw [← Nat.succ_mul]
        exact Nat.mul_le_mul_right width hgt
      rw [if_neg (by omega), if_neg (by omega)]
  · rw [if_neg hi, if_neg hi]

@[simp] theorem elementSize_patch (c : Column) (index offset : Nat) (data : Bytes) :
    (c.patch index offset data).elementSize = c.elementSize := rfl

@[simp] theorem bytes_size_patch (c : Column) (index offset : Nat) (data : Bytes) :
    (c.patch index offset data).bytes.size = c.bytes.size :=
  size_overwrite _ _ _

/-- Writing into an element changes that entry of the list and no other. -/
theorem toList_patch {c : Column} {index offset : Nat} {data : Bytes} (hindex : index < c.size)
    (hdata : offset + data.length ≤ c.elementSize) :
    (c.patch index offset data).toList = c.toList.modify index (splice offset data) := by
  have hfits := offset_add_le hindex
  have hbuffer : (c.patch index offset data).bytes.toList =
      splice (index * c.elementSize + offset) data c.bytes.toList :=
    toList_overwrite (by omega)
  rw [toList_eq_map, toList_eq_map, hbuffer]
  apply List.ext_getElem?
  intro i
  rw [List.getElem?_modify, List.getElem?_map, List.getElem?_map]
  have hsize : (c.patch index offset data).size = c.size := rfl
  rw [hsize, elementSize_patch]
  by_cases hi : i < c.size
  · simp only [List.getElem?_range hi, Option.map_some, Option.map_eq_map]
    by_cases heq : index = i
    · subst heq
      rw [if_pos rfl, slice_splice_self hdata (by simpa using hfits)]
    · rw [if_neg heq, slice_splice_of_ne (Ne.symm heq) hdata (by simpa using hfits)]
  · rw [List.getElem?_eq_none (by simpa using hi)]
    rfl

theorem run_writeField {c : Column} {index offset : Nat} {data : Bytes} (hindex : index < c.size) :
    (writeField index offset data.length data).run c = ⟨.ok (), c.patch index offset data, []⟩ := by
  simp only [Action.run, writeField, if_pos hindex, if_true]
  rfl

/-! ## Appending -/

theorem toList_push (c : Column) (element : Bytes) (h : element.length = c.elementSize) :
    (c.push element h).toList = c.toList ++ [element] := by
  apply List.ext_getElem?
  intro i
  rw [getElem?_toList]
  rcases Nat.lt_trichotomy i c.size with hi | hi | hi
  · rw [element?_push_of_lt element h hi, List.getElem?_append_left (by simpa using hi),
      getElem?_toList]
  · subst hi
    rw [element?_push_size, List.getElem?_append_right (by simp)]
    simp
  · rw [element?_eq_none_iff.mpr hi, List.getElem?_eq_none (by simp; omega)]

theorem bytes_size_push (c : Column) (element : Bytes) (h : element.length = c.elementSize) :
    (c.push element h).bytes.size = c.bytes.size + c.elementSize := by
  rw [(c.push element h).bytes_size, size_push, elementSize_push, Nat.succ_mul, ← c.bytes_size]

theorem run_append_of_le {c : Column} {limit : Nat} {element? : Option Bytes}
    (hlimit : c.bytes.size + c.elementSize ≤ limit)
    (h : (element?.getD (Bytes.zeroes c.elementSize)).length = c.elementSize) :
    (append limit element?).run c =
      ⟨.ok c.size, c.push (element?.getD (Bytes.zeroes c.elementSize)) h, []⟩ := by
  simp [Action.run, append, hlimit, h]

theorem run_append_of_lt {c : Column} {limit : Nat} {element? : Option Bytes}
    (hlimit : limit < c.bytes.size + c.elementSize) :
    (append limit element?).run c = ⟨.error (.error .allocation), c, []⟩ := by
  simp [Action.run, append, Nat.not_le.mpr hlimit, Action.raise, Action.fail]

end Column

end ByteTable
