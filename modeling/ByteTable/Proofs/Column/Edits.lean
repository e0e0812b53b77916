import ByteTable.Proofs.Column

/-!
# Columns edited as lists

A column is changed by five operations: an element is appended, memory is reserved, an element is
replaced, a stretch of elements is removed, and an element is changed in place.  `Edit.settle` says
what each of them does to a list of elements, with no buffer and no offsets, and when it is refused.
`exists_performAll` runs a column and a list side by side through any sequence of edits: all answers
are the same, and at every point the column is the list.  `IsList` spells this out: the buffer is
the elements one after another, and every read is a read of the list.

Nothing is assumed about the length of an element, which may be zero.  Such elements take no room in
the buffer, so that only the size tells how many there are; this is why the size has to be bounded
by itself, and does not follow from a bound on the buffer.

An append or reservation is refused when the buffer would pass the limit.  After a reservation for
`n` elements under some limit, the next `n` appends under that limit are granted.

The list knows sizes and offsets as numbers without a bound, where a machine has words of 64 bits.
Two of them are cut off at the largest word by the column (`saturate`), the end of a removed stretch
and the room of a reservation.  Neither differs from the number it stands for once it is compared
with the size (`min_saturate`) or with a limit (`add_saturate_le_iff`), and no other product or sum
leaves the address space.
-/

namespace ByteTable

namespace Column

open Bytes (splice)

variable {elementSize : Nat} {c : Column} {elements : List Bytes}

/-! ## Removing a stretch -/

theorem slice_take_append_drop {width start stop : Nat} {buffer : Bytes} (hle : start ≤ stop)
    (hstop : stop * width ≤ buffer.length) (index : Nat) :
    slice width index (buffer.take (start * width) ++ buffer.drop (stop * width)) =
      slice width (if index < start then index else stop + (index - start)) buffer := by
  have hstart : start * width ≤ stop * width := Nat.mul_le_mul_right width hle
  have hlength : (buffer.take (start * width)).length = start * width := by
    rw [List.length_take]
    omega
  apply List.ext_getElem?
  intro i
  rw [getElem?_slice, getElem?_slice]
  by_cases hi : i < width
  · rw [if_pos hi, if_pos hi]
    by_cases hindex : index < start
    · have hbefore : index * width + width ≤ start * width := by
        rw [← Nat.succ_mul]
        exact Nat.mul_le_mul_right width hindex
      rw [if_pos hindex, List.getElem?_append_left (by omega),
        List.getElem?_take_of_lt (by omega)]
    · have hafter : start * width ≤ index * width :=
        Nat.mul_le_mul_right width (Nat.not_lt.mp hindex)
      rw [if_neg hindex, List.getElem?_append_right (by omega), List.getElem?_drop, hlength,
        Nat.add_mul, Nat.sub_mul]
      congr 1
      omega
  · rw [if_neg hi, if_neg hi]

/-- Without a stretch of its elements, a column is the list without that stretch. -/
theorem toList_removeBetween (c : Column) {start stop : Nat} (h : start ≤ stop ∧ stop ≤ c.size) :
    (c.removeBetween start stop h).toList = c.toList.take start ++ c.toList.drop stop := by
  have hstop : stop * c.elementSize ≤ c.bytes.toList.length := by
    rw [Array.length_toList, c.bytes_size]
    exact Nat.mul_le_mul_right _ h.2
  have hbytes : (c.removeBetween start stop h).bytes.toList =
      c.bytes.toList.take (start * c.elementSize) ++
        c.bytes.toList.drop (stop * c.elementSize) := by
    have hrest : c.bytes.toList.length ≤ c.bytes.size := by simp
    simp only [removeBetween, Array.toList_append, Array.toList_extract, List.extract_eq_take_drop,
      Nat.sub_zero, List.drop_zero, ← List.drop_take, List.take_of_length_le hrest]
  have hsize : (c.removeBetween start stop h).size = c.size - (stop - start) := rfl
  have hwidth : (c.removeBetween start stop h).elementSize = c.elementSize := rfl
  have htake : (c.toList.take start).length = start := by
    rw [List.length_take, length_toList]
    omega
  apply List.ext_getElem?
  intro i
  rw [toList_eq_map, hsize, hwidth, hbytes, List.getElem?_map]
  by_cases hi : i < c.size - (stop - start)
  · rw [List.getElem?_range hi, Option.map_some, slice_take_append_drop h.1 hstop]
    by_cases hbefore : i < start
    · rw [if_pos hbefore, List.getElem?_append_left (by omega), List.getElem?_take_of_lt hbefore,
        getElem?_toList, element?_eq_slice (by omega)]
    · rw [if_neg hbefore, List.getElem?_append_right (by omega), List.getElem?_drop, htake,
        getElem?_toList, element?_eq_slice (by omega)]
  · rw [List.getElem?_eq_none (by simpa using hi), List.getElem?_eq_none
      (by simp only [List.length_append, htake, List.length_drop, length_toList]; omega)]
    rfl

/-- Removing from an index on takes out what there is between the index and the end of the stretch,
and is a change of nothing when there is nothing. -/
theorem exists_run_removeRange {c : Column} (hsize : c.size < wordLimit) (index count : Nat) :
    ∃ c', (removeRange index count).run c = ⟨.ok (), c', []⟩ ∧ c'.elementSize = c.elementSize ∧
      c'.toList = c.toList.take index ++ c.toList.drop (min (index + count) c.size) := by
  rw [← min_saturate hsize]
  by_cases h : index < min (saturate (index + count)) c.size
  · refine ⟨c.removeBetween index _ ⟨Nat.le_of_lt h, Nat.min_le_right _ _⟩, ?_, rfl,
      toList_removeBetween c _⟩
    simp only [removeRange, Action.run_modify, dif_pos h]
  · refine ⟨c, ?_, rfl, ?_⟩
    · simp only [removeRange, Action.run_modify, dif_neg h]
    · -- Either the index is past the last element, or the stretch is empty.
      rw [min_saturate hsize] at h ⊢
      rcases Nat.lt_or_ge index c.size with hindex | hindex
      · have hend : min (index + count) c.size = index := by omega
        rw [hend, List.take_append_drop]
      · have hend : min (index + count) c.size = c.size := by omega
        rw [hend, List.take_of_length_le (by simpa using hindex), ← length_toList, List.drop_length,
          List.append_nil]

/-! ## Replacing an element -/

theorem splice_zero_of_length_eq {data target : Bytes} (h : data.length = target.length) :
    splice 0 data target = data := by
  rw [splice, Nat.zero_add, h, List.drop_length]
  simp

/-- An element written over the one at an index takes its place in the list. -/
theorem toList_patch_zero {index : Nat} {element : Bytes} (hindex : index < c.size)
    (hlength : element.length = c.elementSize) :
    (c.patch index 0 element).toList = c.toList.set index element := by
  have hold : (c.toList.get ⟨index, by simpa using hindex⟩).length = c.elementSize :=
    length_of_mem_toList (List.get_mem _ _)
  rw [toList_patch hindex (by omega), List.modify_eq_set_get _ (by simpa using hindex),
    splice_zero_of_length_eq (hlength.trans hold.symm)]

theorem exists_run_replaceAt (c : Column) (index : Nat) {element : Bytes}
    (h : element.length = c.elementSize) :
    ∃ c', (replaceAt index element).run c = ⟨.ok (), c', []⟩ ∧ c'.elementSize = c.elementSize ∧
      c'.toList = c.toList.set index element := by
  by_cases hindex : index < c.size
  · refine ⟨c.patch index 0 element, ?_, rfl, toList_patch_zero hindex h⟩
    show replaceAt index element c = _
    rw [replaceAt, if_pos hindex, if_pos h]
    rfl
  · refine ⟨c, ?_, rfl, ?_⟩
    · show replaceAt index element c = _
      rw [replaceAt, if_neg hindex]
      rfl
    · rw [List.set_eq_of_length_le (by simpa using hindex)]

theorem exists_run_updateAt (c : Column) (index : Nat) {change : Bytes → Bytes}
    (h : ∀ element : Bytes, element.length = c.elementSize →
      (change element).length = c.elementSize) :
    ∃ c', (updateAt index change).run c = ⟨.ok (decide (index < c.size)), c', []⟩ ∧
      c'.elementSize = c.elementSize ∧ c'.toList = c.toList.modify index change := by
  by_cases hindex : index < c.size
  · obtain ⟨element, helement⟩ : ∃ element, c.element? index = some element :=
      ⟨_, element?_eq_slice hindex⟩
    have hlength : (change element).length = c.elementSize := h _ (length_of_element? helement)
    refine ⟨c.patch index 0 (change element), ?_, rfl, ?_⟩
    · show updateAt index change c = _
      simp only [updateAt, helement, if_pos hlength, hindex, decide_true]
    · rw [toList_patch_zero hindex hlength, List.modify_eq_set_getElem?, getElem?_toList, helement]
      rfl
  · refine ⟨c, ?_, rfl, ?_⟩
    · show updateAt index change c = _
      simp only [updateAt, element?_eq_none_iff.mpr (Nat.not_lt.mp hindex), hindex, decide_false]
      rfl
    · rw [List.modify_eq_self (by simpa using hindex)]

/-- An element filled with a byte is one that holds only that byte. -/
theorem exists_run_fillAt (c : Column) (index : Nat) (byte : UInt8) :
    ∃ c', (fillAt index byte).run c = ⟨.ok (decide (index < c.size)), c', []⟩ ∧
      c'.elementSize = c.elementSize ∧
      c'.toList = c.toList.set index (List.replicate c.elementSize byte) := by
  have hkeeps : ∀ element : Bytes, element.length = c.elementSize →
      (List.replicate element.length byte).length = c.elementSize := by
    intro element helement
    rw [List.length_replicate, helement]
  obtain ⟨c', hrun, hwidth, hlist⟩ := exists_run_updateAt c index hkeeps
  refine ⟨c', hrun, hwidth, hlist.trans ?_⟩
  rw [List.modify_eq_set_getElem?, getElem?_toList]
  rcases helement : c.element? index with _ | element
  · have hindex : c.toList.length ≤ index := by
      rw [length_toList]
      exact element?_eq_none_iff.mp helement
    rw [List.set_eq_of_length_le hindex]
    rfl
  · rw [← length_of_element? helement]
    rfl

theorem run_reserve_eq (c : Column) (limit additional : Nat) :
    (reserve limit additional).run c =
      if c.bytes.size + saturate (c.elementSize * additional) ≤ limit then ⟨.ok (), c, []⟩
      else ⟨.error (.error .allocation), c, []⟩ := by
  unfold Action.run
  simp only [reserve]
  split <;> rfl

/-! ## Edits -/

/-- One change of a column. -/
inductive Edit where
  /-- Append an element, or one of zeroes, within a limit. -/
  | append (limit : Nat) (element? : Option Bytes)
  /-- Reserve memory for further elements, within a limit. -/
  | reserve (limit additional : Nat)
  /-- Replace the element at an index. -/
  | replaceAt (index : Nat) (element : Bytes)
  /-- Remove `count` elements from an index on, or as many as there are. -/
  | removeRange (index count : Nat)
  /-- Change the element at an index in place. -/
  | updateAt (index : Nat) (change : Bytes → Bytes)

/-- What an edit answers. -/
inductive Reply where
  /-- It has been made. -/
  | done
  /-- The index of the appended element. -/
  | index (index : Nat)
  /-- Whether there was an element to change. -/
  | found (there : Bool)
  deriving DecidableEq

namespace Edit

/-- Make an edit of a column. -/
def perform : Edit → Action Column Reply
  | append limit element? => Column.append limit element? >>= fun index => pure (.index index)
  | reserve limit additional => Column.reserve limit additional >>= fun _ => pure .done
  | replaceAt index element => Column.replaceAt index element >>= fun _ => pure .done
  | removeRange index count => Column.removeRange index count >>= fun _ => pure .done
  | updateAt index change => Column.updateAt index change >>= fun there => pure (.found there)

/-- What an edit answers on a list of elements of the given length, and the list it leaves.  Growing
is refused when the elements would take more bytes than the limit. -/
def settle (elementSize : Nat) : Edit → List Bytes → Except Failure Reply × List Bytes
  | append limit element?, elements =>
    if (elements.length + 1) * elementSize ≤ limit then
      (.ok (.index elements.length), elements ++ [element?.getD (Bytes.zeroes elementSize)])
    else (.error (.error .allocation), elements)
  | reserve limit additional, elements =>
    if (elements.length + additional) * elementSize ≤ limit then (.ok .done, elements)
    else (.error (.error .allocation), elements)
  | replaceAt index element, elements => (.ok .done, elements.set index element)
  | removeRange index count, elements =>
    (.ok .done, elements.take index ++ elements.drop (min (index + count) elements.length))
  | updateAt index change, elements =>
    (.ok (.found (index < elements.length)), elements.modify index change)

/-- An edit that can be asked for: elements have the right length, changes keep it, limits are those
of an address space, and one more element can be counted in a word. -/
def Admitted (elementSize : Nat) : Edit → List Bytes → Prop
  | append limit element?, elements =>
    limit ≤ maxBytes ∧ elements.length + 1 < wordLimit ∧
      ∀ element ∈ element?, element.length = elementSize
  | reserve limit _, _ => limit ≤ maxBytes
  | replaceAt _ element, _ => element.length = elementSize
  | removeRange _ _, _ => True
  | updateAt _ change, _ =>
    ∀ element : Bytes, element.length = elementSize → (change element).length = elementSize

/-- The limit under which an edit appends, if it does. -/
def appendLimit? : Edit → Option Nat
  | append limit _ => some limit
  | _ => none

/-- The answers of edits made one after another, and the column that is left. -/
def performAll : List Edit → Column → List (Except Failure Reply) × Column
  | [], c => ([], c)
  | edit :: edits, c =>
    let outcome := edit.perform.run c
    let (answers, final) := performAll edits outcome.state
    (outcome.answer :: answers, final)

/-- The answers of edits settled one after another, and the list that is left. -/
def settleAll (elementSize : Nat) :
    List Edit → List Bytes → List (Except Failure Reply) × List Bytes
  | [], elements => ([], elements)
  | edit :: edits, elements =>
    let (answer, elements') := edit.settle elementSize elements
    let (answers, final) := settleAll elementSize edits elements'
    (answer :: answers, final)

/-- Each edit can be asked for when its turn comes. -/
def AllAdmitted (elementSize : Nat) : List Edit → List Bytes → Prop
  | [], _ => True
  | edit :: edits, elements =>
    edit.Admitted elementSize elements ∧
      AllAdmitted elementSize edits (edit.settle elementSize elements).2

end Edit

/-! ## The column is the list -/

/-- A column that is a list of elements of the given length. -/
structure IsList (elementSize : Nat) (c : Column) (elements : List Bytes) : Prop where
  /-- The elements have the length. -/
  elementSize_eq : c.elementSize = elementSize
  /-- The size counts the elements, also those that take no room. -/
  size_eq : c.size = elements.length
  /-- The size fits in a word. -/
  size_lt : c.size < wordLimit
  /-- The buffer is the elements one after another. -/
  bytes_eq : c.bytes.toList = elements.flatten
  /-- Each element has the length. -/
  length_of_mem : ∀ element ∈ elements, element.length = elementSize
  /-- Reading an element reads the list. -/
  element?_eq : ∀ index, c.element? index = elements[index]?
  /-- Walking the column walks the list. -/
  toList_eq : c.toList = elements
  /-- The offset of every element, and that of the end, lies in the buffer, and the buffer in the
  address space. -/
  offset_le : ∀ index ≤ c.size, index * elementSize ≤ c.bytes.size ∧ c.bytes.size ≤ maxBytes

namespace IsList

/-- A column and a list agree in everything when they agree in their elements. -/
theorem of_toList_eq (hwidth : c.elementSize = elementSize) (hlist : c.toList = elements)
    (hlength : elements.length < wordLimit) (hroom : elements.length * elementSize ≤ maxBytes) :
    c.IsList elementSize elements := by
  have hsize : c.size = elements.length := by rw [← length_toList, hlist]
  have hbytes : c.bytes.size = elements.length * elementSize := by
    rw [c.bytes_size, hsize, hwidth]
  refine ⟨hwidth, hsize, by omega, ?_, ?_, ?_, hlist, ?_⟩
  · rw [toList_bytes, hlist]
  · intro element hmem
    rw [← hwidth]
    exact length_of_mem_toList (hlist ▸ hmem)
  · intro index
    rw [← getElem?_toList, hlist]
  · intro index hindex
    rw [hbytes]
    exact ⟨Nat.mul_le_mul_right _ (by omega), hroom⟩

theorem bytes_size_eq (h : c.IsList elementSize elements) :
    c.bytes.size = elements.length * elementSize := by
  rw [c.bytes_size, h.size_eq, h.elementSize_eq]

theorem room (h : c.IsList elementSize elements) : elements.length * elementSize ≤ maxBytes := by
  rw [← h.bytes_size_eq]
  exact (h.offset_le 0 (Nat.zero_le _)).2

theorem length_lt (h : c.IsList elementSize elements) : elements.length < wordLimit :=
  h.size_eq ▸ h.size_lt

theorem of_length_le (h : c.IsList elementSize elements) {c' : Column} {elements' : List Bytes}
    (hwidth : c'.elementSize = c.elementSize) (hlist : c'.toList = elements')
    (hle : elements'.length ≤ elements.length) : c'.IsList elementSize elements' := by
  apply of_toList_eq (hwidth.trans h.elementSize_eq) hlist (Nat.lt_of_le_of_lt hle h.length_lt)
  exact Nat.le_trans (Nat.mul_le_mul_right _ hle) h.room

theorem of_create {limit expected : Nat} (h : create limit elementSize expected = .ok c) :
    c.IsList elementSize [] := by
  unfold create at h
  split at h
  · obtain rfl : empty elementSize = c := by simpa using h
    apply of_toList_eq rfl (toList_empty elementSize) (by decide)
    simp
  · cases h

/-- An append is refused exactly when the list says so, and then changes nothing. -/
theorem run_append (h : c.IsList elementSize elements) {limit : Nat} {element? : Option Bytes}
    (hadmitted : (Edit.append limit element?).Admitted elementSize elements) :
    ∃ c', (Edit.append limit element?).perform.run c =
        ⟨((Edit.append limit element?).settle elementSize elements).1, c', []⟩ ∧
      c'.IsList elementSize ((Edit.append limit element?).settle elementSize elements).2 ∧
      (limit < (elements.length + 1) * elementSize → c' = c) := by
  obtain ⟨hlimit, hcount, hsized⟩ := hadmitted
  have hroom : c.bytes.size + c.elementSize = (elements.length + 1) * elementSize := by
    rw [h.bytes_size_eq, h.elementSize_eq, Nat.succ_mul]
  simp only [Edit.perform, Edit.settle, Action.run_bind_pure]
  by_cases hgranted : (elements.length + 1) * elementSize ≤ limit
  · have helement : (element?.getD (Bytes.zeroes c.elementSize)).length = c.elementSize := by
      rcases element? with _ | element
      · exact Bytes.length_zeroes _
      · exact (hsized element rfl).trans h.elementSize_eq.symm
    rw [if_pos hgranted, run_append_of_le (by omega) helement]
    refine ⟨c.push _ helement, by rw [h.size_eq]; rfl, ?_, fun hlt => by omega⟩
    apply of_toList_eq
    · rw [elementSize_push, h.elementSize_eq]
    · rw [toList_push, h.toList_eq, h.elementSize_eq]
    · simpa using hcount
    · simpa using Nat.le_trans hgranted hlimit
  · rw [if_neg hgranted, run_append_of_lt (by omega)]
    exact ⟨c, rfl, h, fun _ => rfl⟩

/-- A reservation is granted within the limit for all elements that there will be. -/
theorem add_saturate_le_iff (h : c.IsList elementSize elements) {limit : Nat}
    (hlimit : limit ≤ maxBytes) (additional : Nat) :
    c.bytes.size + saturate (c.elementSize * additional) ≤ limit ↔
      (elements.length + additional) * elementSize ≤ limit := by
  rw [ByteTable.add_saturate_le_iff hlimit, h.bytes_size_eq, h.elementSize_eq, Nat.add_mul,
    Nat.mul_comm additional]

theorem run_reserve (h : c.IsList elementSize elements) {limit : Nat} (hlimit : limit ≤ maxBytes)
    (additional : Nat) :
    (Edit.reserve limit additional).perform.run c =
      ⟨((Edit.reserve limit additional).settle elementSize elements).1, c, []⟩ ∧
    ((Edit.reserve limit additional).settle elementSize elements).2 = elements := by
  simp only [Edit.perform, Edit.settle, Action.run_bind_pure, run_reserve_eq,
    h.add_saturate_le_iff hlimit]
  split <;> exact ⟨rfl, rfl⟩

/-- An edit answers on the column as on the list, logs nothing, leaves the list it leaves there, and
changes nothing when it is refused. -/
theorem run_perform (h : c.IsList elementSize elements) {edit : Edit}
    (hadmitted : edit.Admitted elementSize elements) :
    ∃ c', edit.perform.run c = ⟨(edit.settle elementSize elements).1, c', []⟩ ∧
      c'.IsList elementSize (edit.settle elementSize elements).2 ∧
      ∀ cause, (edit.settle elementSize elements).1 = .error cause → c' = c := by
  cases edit with
  | append limit element? =>
    obtain ⟨c', hrun, hlist, hrefused⟩ := h.run_append hadmitted
    refine ⟨c', hrun, hlist, fun cause hcause => hrefused (Nat.lt_of_not_le fun hgranted => ?_)⟩
    rw [Edit.settle, if_pos hgranted] at hcause
    cases hcause
  | reserve limit additional =>
    obtain ⟨hrun, hsame⟩ := h.run_reserve hadmitted additional
    exact ⟨c, hrun, by rwa [hsame], fun _ _ => rfl⟩
  | replaceAt index element =>
    have hsized : element.length = c.elementSize := hadmitted.trans h.elementSize_eq.symm
    obtain ⟨c', hrun, hwidth, hlist⟩ := exists_run_replaceAt c index hsized
    refine ⟨c', ?_, h.of_length_le hwidth (h.toList_eq ▸ hlist) (by simp [Edit.settle]),
      fun _ hcause => ?_⟩
    · rw [Edit.perform, Action.run_bind_pure, hrun]
      rfl
    · cases hcause
  | removeRange index count =>
    obtain ⟨c', hrun, hwidth, hlist⟩ := exists_run_removeRange h.size_lt index count
    rw [h.size_eq, h.toList_eq] at hlist
    refine ⟨c', ?_, h.of_length_le hwidth hlist (by simp [Edit.settle]; omega), fun _ hcause => ?_⟩
    · rw [Edit.perform, Action.run_bind_pure, hrun]
      rfl
    · cases hcause
  | updateAt index change =>
    have hkeeps : ∀ element : Bytes, element.length = c.elementSize →
        (change element).length = c.elementSize := by
      rw [h.elementSize_eq]
      exact hadmitted
    obtain ⟨c', hrun, hwidth, hlist⟩ := exists_run_updateAt c index hkeeps
    refine ⟨c', ?_, h.of_length_le hwidth (h.toList_eq ▸ hlist) (by simp [Edit.settle]),
      fun _ hcause => ?_⟩
    · rw [Edit.perform, Action.run_bind_pure, hrun, h.size_eq]
      rfl
    · cases hcause

/-- Any sequence of edits answers on the column as on the list. -/
theorem performAll (h : c.IsList elementSize elements) {edits : List Edit}
    (hadmitted : Edit.AllAdmitted elementSize edits elements) :
    (Edit.performAll edits c).1 = (Edit.settleAll elementSize edits elements).1 ∧
      (Edit.performAll edits c).2.IsList elementSize
        (Edit.settleAll elementSize edits elements).2 := by
  induction edits generalizing c elements with
  | nil => exact ⟨rfl, h⟩
  | cons edit edits ih =>
    obtain ⟨c', hrun, hlist, -⟩ := h.run_perform hadmitted.1
    obtain ⟨hanswers, hfinal⟩ := ih hlist hadmitted.2
    simp only [Edit.performAll, Edit.settleAll, hrun]
    exact ⟨by rw [hanswers], hfinal⟩

end IsList

/-! ## After a reservation -/

/-- An edit makes a list longer only by appending, and then by one element. -/
theorem Edit.length_settle_le (edit : Edit) (elementSize : Nat) (elements : List Bytes) :
    (edit.settle elementSize elements).2.length ≤
      elements.length + edit.appendLimit?.toList.length := by
  cases edit with
  | append limit element? =>
    simp only [settle, appendLimit?]
    split <;> simp
  | reserve limit additional =>
    simp only [settle, appendLimit?]
    split <;> simp
  | replaceAt index element => simp [settle]
  | removeRange index count =>
    simp [settle]
    omega
  | updateAt index change => simp [settle]

theorem Edit.exists_eq_append {edit : Edit} {limit : Nat} (h : edit.appendLimit? = some limit) :
    ∃ element?, edit = .append limit element? := by
  cases edit with
  | append limit' element? =>
    obtain rfl : limit' = limit := Option.some.inj h
    exact ⟨element?, rfl⟩
  | _ => cases h

/-- Appends that can be asked for have limits of an address space. -/
theorem Edit.appendLimit_le {elementSize : Nat} {edits : List Edit} {elements : List Bytes}
    (h : AllAdmitted elementSize edits elements) {limit : Nat}
    (hlimit : limit ∈ edits.filterMap appendLimit?) : limit ≤ maxBytes := by
  induction edits generalizing elements with
  | nil => cases hlimit
  | cons edit edits ih =>
    obtain ⟨hadmitted, hrest⟩ := h
    obtain ⟨edit', hmem, hsome⟩ := List.mem_filterMap.mp hlimit
    rcases List.mem_cons.mp hmem with rfl | hmem
    · obtain ⟨element?, rfl⟩ := edit'.exists_eq_append hsome
      exact hadmitted.1
    · exact ih hrest (List.mem_filterMap.mpr ⟨edit', hmem, hsome⟩)

/-- While there is room for as many further elements as are appended, no append is refused, whatever
else is done in between. -/
theorem Edit.forall₂_settleAll {elementSize room limit : Nat} {edits : List Edit}
    {elements : List Bytes} (hroom : (elements.length + room) * elementSize ≤ limit)
    (hcount : (edits.filterMap appendLimit?).length ≤ room)
    (hlimits : ∀ limit' ∈ edits.filterMap appendLimit?, limit ≤ limit') :
    List.Forall₂
      (fun edit answer => edit.appendLimit?.isSome → ∃ index, answer = .ok (.index index))
      edits (settleAll elementSize edits elements).1 := by
  induction edits generalizing elements room with
  | nil => exact .nil
  | cons edit edits ih =>
    have hle := edit.length_settle_le elementSize elements
    show List.Forall₂ _ (edit :: edits) ((edit.settle elementSize elements).1 ::
      (settleAll elementSize edits (edit.settle elementSize elements).2).1)
    rcases hedit : edit.appendLimit? with _ | limit'
    · simp only [List.filterMap_cons, hedit] at hcount hlimits
      simp only [hedit, Option.toList_none, List.length_nil, Nat.add_zero] at hle
      have hrest : ((edit.settle elementSize elements).2.length + room) * elementSize ≤ limit :=
        Nat.le_trans (Nat.mul_le_mul_right _ (by omega)) hroom
      apply List.Forall₂.cons (fun happend => by simp [hedit] at happend)
      exact ih hrest hcount hlimits
    · simp only [List.filterMap_cons, hedit, List.length_cons, List.forall_mem_cons]
        at hcount hlimits
      simp only [hedit, Option.toList_some, List.length_singleton] at hle
      have hone : (elements.length + 1) * elementSize ≤ limit' :=
        Nat.le_trans (Nat.mul_le_mul_right _ (by omega)) (Nat.le_trans hroom hlimits.1)
      have hrest :
          ((edit.settle elementSize elements).2.length + (room - 1)) * elementSize ≤ limit :=
        Nat.le_trans (Nat.mul_le_mul_right _ (by omega)) hroom
      obtain ⟨element?, rfl⟩ := edit.exists_eq_append hedit
      apply List.Forall₂.cons (fun _ => ⟨elements.length, by simp only [settle, if_pos hone]⟩)
      exact ih hrest (by omega) hlimits.2

/-- From its creation on, a column is the list that the same edits give, and answers every edit as
the list does; one that is refused leaves the column itself as it is.  Once memory for further
elements has been granted, as many are appended without a refusal, whatever other edits are made
between.  The sums and products that machine arithmetic cuts off at the largest word decide the same
as the true ones. -/
theorem exists_performAll {limit expected : Nat}
    (hcreate : create limit elementSize expected = .ok c) {edits : List Edit}
    (hadmitted : Edit.AllAdmitted elementSize edits []) :
    ∃ answers now elements,
      Edit.performAll edits c = (answers, now) ∧
      Edit.settleAll elementSize edits [] = (answers, elements) ∧
      now.IsList elementSize elements ∧
      (∀ edit : Edit, edit.Admitted elementSize elements →
        ∃ next, edit.perform.run now = ⟨(edit.settle elementSize elements).1, next, []⟩ ∧
          next.IsList elementSize (edit.settle elementSize elements).2 ∧
          ∀ cause, (edit.settle elementSize elements).1 = .error cause → next = now) ∧
      (∀ limit additional : Nat, ((reserve limit additional).run now).answer = .ok () →
        ∀ later : List Edit, Edit.AllAdmitted elementSize later elements →
          (later.filterMap Edit.appendLimit?).length ≤ additional →
          (∀ limit' ∈ later.filterMap Edit.appendLimit?, limit ≤ limit') →
          List.Forall₂
            (fun edit answer => edit.appendLimit?.isSome → ∃ index, answer = .ok (.index index))
            later (Edit.performAll later now).1) ∧
      (∀ index count : Nat,
        min (saturate (index + count)) now.size = min (index + count) now.size) ∧
      ∀ limit additional : Nat, limit ≤ maxBytes →
        (now.bytes.size + saturate (elementSize * additional) ≤ limit ↔
          now.bytes.size + elementSize * additional ≤ limit) := by
  obtain ⟨hanswers, hlist⟩ := (IsList.of_create hcreate).performAll hadmitted
  generalize hnow : Edit.performAll edits c = played at hanswers hlist
  generalize hsettled : Edit.settleAll elementSize edits [] = settled at hanswers hlist
  obtain ⟨answers, now⟩ := played
  obtain ⟨answers', elements⟩ := settled
  obtain rfl : answers = answers' := hanswers
  refine ⟨answers, now, elements, rfl, rfl, hlist, fun _ hedit => hlist.run_perform hedit, ?_,
    fun _ _ => min_saturate hlist.size_lt, fun _ _ hlimit => add_saturate_le_iff hlimit⟩
  intro limit additional hgranted later hlater hcount hlimits
  rw [(hlist.performAll hlater).1]
  rcases happends : later.filterMap Edit.appendLimit? with _ | ⟨limit', limits⟩
  · apply Edit.forall₂_settleAll (Nat.le_refl ((elements.length + 0) * elementSize))
    · simp [happends]
    · simp [happends]
  · -- An append has a limit of an address space, so the reservation had one too.
    have hmem : limit' ∈ later.filterMap Edit.appendLimit? := happends ▸ List.mem_cons_self
    have hle := Nat.le_trans (hlimits limit' hmem) (Edit.appendLimit_le hlater hmem)
    have hroom : (elements.length + additional) * elementSize ≤ limit := by
      rw [run_reserve_eq] at hgranted
      by_contra hpast
      rw [if_neg ((hlist.add_saturate_le_iff hle additional).not.mpr hpast)] at hgranted
      cases hgranted
    exact Edit.forall₂_settleAll hroom hcount hlimits

/-- Two elements of five bytes are appended after a reservation, one of them of zeroes.  They are
replaced and changed in place.  A reservation past the largest word is refused, and so is a third
append, whose fifteen bytes are more than was reserved.  The second element is removed with all that
could follow it.  After another reservation two appends are granted. -/
theorem exists_performAll_of_eight_edits :
    ∃ (c now : Column) (edits later : List Edit) (answers : List (Except Failure Reply)),
      create maxBytes 5 0 = .ok c ∧ Edit.AllAdmitted 5 edits [] ∧
      Edit.performAll edits c = (answers, now) ∧
      answers = [.ok .done, .ok (.index 0), .ok (.index 1), .ok .done, .ok (.found true),
        .error (.error .allocation), .error (.error .allocation), .ok .done] ∧
      now.IsList 5 [[2, 3, 4, 5, 6]] ∧ later.filterMap Edit.appendLimit? = [maxBytes, maxBytes] ∧
      List.Forall₂
        (fun edit answer => edit.appendLimit?.isSome → ∃ index, answer = .ok (.index index))
        later (Edit.performAll later now).1 := by
  have hcreate : create maxBytes 5 0 = .ok (empty 5) := by decide
  have hadmitted : Edit.AllAdmitted 5 [.reserve maxBytes 2, .append maxBytes (some [1, 2, 3, 4, 5]),
      .append maxBytes none, .replaceAt 1 [7, 9, 7, 9, 7], .updateAt 0 (List.map (· + 1)),
      .reserve maxBytes (2 ^ 64 - 1), .append 14 none, .removeRange 1 (2 ^ 64 - 1)] [] := by
    simp [Edit.AllAdmitted, Edit.Admitted, Edit.settle, maxBytes, wordLimit]
  obtain ⟨answers, now, elements, hperformed, hsettled, hlist, -, hreserved, -⟩ :=
    exists_performAll hcreate hadmitted
  simp [Edit.settleAll, Edit.settle, maxBytes, Bytes.zeroes] at hsettled
  obtain ⟨rfl, rfl⟩ := hsettled
  have hgranted : ((reserve maxBytes 2).run now).answer = .ok () := by
    rw [run_reserve_eq, if_pos ((hlist.add_saturate_le_iff (Nat.le_refl _) 2).mpr (by decide))]
  have hlater : Edit.AllAdmitted 5
      [.append maxBytes none, .updateAt 9 id, .append maxBytes none] [[2, 3, 4, 5, 6]] := by
    simp [Edit.AllAdmitted, Edit.Admitted, Edit.settle, maxBytes, wordLimit]
  exact ⟨_, now, _, _, _, hcreate, hadmitted, hperformed, rfl, hlist, rfl,
    hreserved maxBytes 2 hgranted _ hlater (by decide) (by simp [Edit.appendLimit?])⟩

end Column

end ByteTable
