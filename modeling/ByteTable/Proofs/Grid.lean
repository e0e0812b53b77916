import ByteTable.Slot

/-!
# Grids

A grid is a list of rows of any lengths.  It is the shape that everything a table stores has, once
the directories and buffers are forgotten: a row is a bucket, and a `Slot` is a place in the grid.
The same grid operations serve the slots themselves and their words, keys, values and raw records,
because an entrywise `image` commutes with all of them.

Two operations change a grid.  `update` changes one entry in place, and `push` adds an entry at the
end of a row.  What each does is said by `at?`, place by place, and by `countP`, for the number of
entries with some property.
-/

namespace ByteTable

/-- Rows of any lengths, addressed by slots: the bucket picks the row and the item the place. -/
abbrev Grid (α : Type) : Type :=
  List (List α)

namespace Grid

variable {α β : Type}

/-- A row of the grid; past the last one there are only empty rows. -/
def row (g : Grid α) (bucket : Nat) : List α :=
  g[bucket]?.getD []

/-- What stands at a slot, if the grid has it. -/
def at? (g : Grid α) (slot : Slot) : Option α :=
  (g.row slot.bucket)[slot.item]?

/-- The grid with the entry at one slot changed. -/
def update (g : Grid α) (slot : Slot) (f : α → α) : Grid α :=
  g.modify slot.bucket fun row => row.modify slot.item f

/-- The grid with one more entry at the end of a row. -/
def push (g : Grid α) (bucket : Nat) (a : α) : Grid α :=
  g.modify bucket (· ++ [a])

/-- The grid of what a function makes of each entry. -/
def image (f : α → β) (g : Grid α) : Grid β :=
  g.map (List.map f)

/-! ## Rows and places -/

theorem row_eq_nil_of_le {g : Grid α} {bucket : Nat} (h : g.length ≤ bucket) :
    g.row bucket = [] := by
  simp [row, List.getElem?_eq_none h]

theorem getElem?_eq_some_row {g : Grid α} {bucket : Nat} (h : bucket < g.length) :
    g[bucket]? = some (g.row bucket) := by
  simp [row, List.getElem?_eq_getElem h]

theorem ext_row {g g' : Grid α} (hlength : g.length = g'.length)
    (hrow : ∀ bucket, g.row bucket = g'.row bucket) : g = g' := by
  apply List.ext_getElem?
  intro bucket
  by_cases h : bucket < g.length
  · rw [getElem?_eq_some_row h, getElem?_eq_some_row (hlength ▸ h), hrow]
  · rw [List.getElem?_eq_none (Nat.not_lt.mp h),
      List.getElem?_eq_none (Nat.not_lt.mp (hlength ▸ h))]

theorem ext_at? {g g' : Grid α} (hlength : g.length = g'.length)
    (hat : ∀ slot, g.at? slot = g'.at? slot) : g = g' := by
  apply ext_row hlength
  intro bucket
  apply List.ext_getElem?
  intro item
  exact hat ⟨bucket, item⟩

theorem bucket_lt_of_at? {g : Grid α} {slot : Slot} {a : α} (h : g.at? slot = some a) :
    slot.bucket < g.length := by
  refine Nat.lt_of_not_le ?_
  intro hge
  simp [at?, row_eq_nil_of_le hge] at h

theorem item_lt_of_at? {g : Grid α} {slot : Slot} {a : α} (h : g.at? slot = some a) :
    slot.item < (g.row slot.bucket).length :=
  (List.getElem?_eq_some_iff.mp h).1

theorem exists_at?_of_item_lt {g : Grid α} {slot : Slot}
    (h : slot.item < (g.row slot.bucket).length) : ∃ a, g.at? slot = some a :=
  ⟨_, List.getElem?_eq_getElem h⟩

/-- The entries of a grid are what stands at its slots. -/
theorem mem_flatten_iff {g : Grid α} {a : α} : a ∈ g.flatten ↔ ∃ slot, g.at? slot = some a := by
  constructor
  · intro h
    obtain ⟨rowOf, hrow, ha⟩ := List.mem_flatten.mp h
    obtain ⟨bucket, hbucket⟩ := List.mem_iff_getElem?.mp hrow
    obtain ⟨item, hitem⟩ := List.mem_iff_getElem?.mp ha
    exact ⟨⟨bucket, item⟩, by simpa [at?, row, hbucket] using hitem⟩
  · rintro ⟨slot, h⟩
    have hrow := getElem?_eq_some_row (bucket_lt_of_at? h)
    exact List.mem_flatten.mpr ⟨_, List.mem_of_getElem? hrow, List.mem_of_getElem? h⟩

theorem length_flatten_le {g : Grid α} {limit : Nat} (h : ∀ rowOf ∈ g, rowOf.length ≤ limit) :
    g.flatten.length ≤ g.length * limit := by
  induction g with
  | nil => exact Nat.zero_le _
  | cons rowOf g ih =>
    have hfirst := h rowOf List.mem_cons_self
    have hrest := ih fun other hother => h other (List.mem_cons_of_mem rowOf hother)
    rw [List.flatten_cons, List.length_append, List.length_cons, Nat.add_mul, Nat.one_mul,
      Nat.add_comm]
    exact Nat.add_le_add hrest hfirst

/-! ## Changing one entry -/

@[simp] theorem length_update (g : Grid α) (slot : Slot) (f : α → α) :
    (g.update slot f).length = g.length :=
  List.length_modify _ _ _

theorem row_update (g : Grid α) (slot : Slot) (f : α → α) (bucket : Nat) :
    (g.update slot f).row bucket =
      if bucket = slot.bucket then (g.row bucket).modify slot.item f else g.row bucket := by
  by_cases h : bucket = slot.bucket
  · subst h
    rcases hrow : g[slot.bucket]? with _ | rowOf <;> simp [row, update, hrow]
  · simp [row, update, h, Ne.symm h]

theorem at?_update (g : Grid α) (slot place : Slot) (f : α → α) :
    (g.update slot f).at? place =
      if place = slot then (g.at? place).map f else g.at? place := by
  obtain ⟨bucket, item⟩ := slot
  obtain ⟨bucket', item'⟩ := place
  by_cases hbucket : bucket' = bucket
  · subst hbucket
    by_cases hitem : item' = item
    · subst hitem
      simp [at?, row_update]
    · simp [at?, row_update, hitem, Ne.symm hitem]
  · simp [at?, row_update, hbucket]

theorem at?_update_of_eq_some {g : Grid α} {slot : Slot} {a : α} (h : g.at? slot = some a)
    (f : α → α) : (g.update slot f).at? slot = some (f a) := by
  rw [at?_update, if_pos rfl, h, Option.map_some]

theorem length_row_update (g : Grid α) (slot : Slot) (f : α → α) (bucket : Nat) :
    ((g.update slot f).row bucket).length = (g.row bucket).length := by
  rw [row_update]
  split <;> simp

theorem update_update (g : Grid α) (slot : Slot) (f f' : α → α) :
    (g.update slot f).update slot f' = g.update slot (f' ∘ f) := by
  simp only [update, List.modify_modify_eq]
  congr 1
  funext rowOf
  exact List.modify_modify_eq _ _ _ _

theorem update_congr {g : Grid α} {slot : Slot} {f f' : α → α}
    (h : ∀ a, g.at? slot = some a → f a = f' a) : g.update slot f = g.update slot f' := by
  apply ext_row (by simp)
  intro bucket
  rw [row_update, row_update]
  by_cases hbucket : bucket = slot.bucket
  · subst hbucket
    rw [if_pos rfl, if_pos rfl]
    apply List.ext_getElem?
    intro item
    rw [List.getElem?_modify, List.getElem?_modify]
    by_cases hitem : slot.item = item
    · subst hitem
      rcases ha : (g.row slot.bucket)[slot.item]? with _ | a
      · rfl
      · simpa using h a ha
    · simp [hitem]
  · rw [if_neg hbucket, if_neg hbucket]

/-! ## Adding an entry -/

@[simp] theorem length_push (g : Grid α) (bucket : Nat) (a : α) :
    (g.push bucket a).length = g.length :=
  List.length_modify _ _ _

theorem row_push {g : Grid α} {bucket : Nat} (h : bucket < g.length) (a : α) (bucket' : Nat) :
    (g.push bucket a).row bucket' =
      if bucket' = bucket then g.row bucket' ++ [a] else g.row bucket' := by
  by_cases hbucket : bucket' = bucket
  · subst hbucket
    simp [row, push, List.getElem?_eq_getElem h]
  · simp [row, push, hbucket, Ne.symm hbucket]

/-- The new entry stands just past the end of its row, and no other place changes. -/
theorem at?_push {g : Grid α} {bucket : Nat} (h : bucket < g.length) (a : α) (place : Slot) :
    (g.push bucket a).at? place =
      if place = ⟨bucket, (g.row bucket).length⟩ then some a else g.at? place := by
  obtain ⟨bucket', item'⟩ := place
  by_cases hbucket : bucket' = bucket
  · subst hbucket
    simp only [at?, row_push h, if_true, Slot.mk.injEq, true_and]
    rcases Nat.lt_trichotomy item' (g.row bucket').length with hitem | hitem | hitem
    · rw [List.getElem?_append_left hitem, if_neg (Nat.ne_of_lt hitem)]
    · simp [hitem]
    · rw [if_neg (Nat.ne_of_gt hitem), List.getElem?_eq_none (Nat.le_of_lt hitem),
        List.getElem?_eq_none (by simp; omega)]
  · simp [at?, row_push h, hbucket]

theorem at?_push_self {g : Grid α} {bucket : Nat} (h : bucket < g.length) (a : α) :
    (g.push bucket a).at? ⟨bucket, (g.row bucket).length⟩ = some a := by
  rw [at?_push h, if_pos rfl]

/-- To change an entry just added is to add it changed. -/
theorem update_push {g : Grid α} {bucket : Nat} (h : bucket < g.length) (a : α) (f : α → α) :
    (g.push bucket a).update ⟨bucket, (g.row bucket).length⟩ f = g.push bucket (f a) := by
  apply ext_row (by simp)
  intro bucket'
  rw [row_update, row_push h, row_push h]
  by_cases hbucket : bucket' = bucket
  · subst hbucket
    simp [List.modify_eq_take_drop]
  · simp [hbucket]

/-! ## Entrywise images -/

@[simp] theorem length_image (f : α → β) (g : Grid α) : (g.image f).length = g.length :=
  List.length_map _

theorem row_image (f : α → β) (g : Grid α) (bucket : Nat) :
    (g.image f).row bucket = (g.row bucket).map f := by
  rcases h : g[bucket]? with _ | rowOf <;> simp [row, image, h]

@[simp] theorem length_row_image (f : α → β) (g : Grid α) (bucket : Nat) :
    ((g.image f).row bucket).length = (g.row bucket).length := by
  rw [row_image, List.length_map]

theorem at?_image (f : α → β) (g : Grid α) (slot : Slot) :
    (g.image f).at? slot = (g.at? slot).map f := by
  simp [at?, row_image]

theorem at?_image_of_eq_some {f : α → β} {g : Grid α} {slot : Slot} {a : α}
    (h : g.at? slot = some a) : (g.image f).at? slot = some (f a) := by
  rw [at?_image, h, Option.map_some]

theorem image_push (f : α → β) (g : Grid α) (bucket : Nat) (a : α) :
    (g.push bucket a).image f = (g.image f).push bucket (f a) := by
  apply List.ext_getElem?
  intro bucket'
  by_cases h : bucket = bucket' <;> simp [image, push, h, Function.comp_def]

theorem image_update {f : α → β} {u : α → α} {v : β → β} {g : Grid α} {slot : Slot}
    (h : ∀ a, g.at? slot = some a → f (u a) = v (f a)) :
    (g.update slot u).image f = (g.image f).update slot v := by
  apply ext_row (by simp)
  intro bucket
  rw [row_image, row_update, row_update, row_image]
  by_cases hbucket : bucket = slot.bucket
  · subst hbucket
    rw [if_pos rfl, if_pos rfl]
    apply List.ext_getElem?
    intro item
    rw [List.getElem?_map, List.getElem?_modify, List.getElem?_modify, List.getElem?_map]
    by_cases hitem : slot.item = item
    · subst hitem
      rcases ha : (g.row slot.bucket)[slot.item]? with _ | a
      · rfl
      · simpa using h a ha
    · simp [hitem]
  · rw [if_neg hbucket, if_neg hbucket]

theorem image_update_of_eq {f : α → β} {u : α → α} {g : Grid α} {slot : Slot}
    (h : ∀ a, g.at? slot = some a → f (u a) = f a) : (g.update slot u).image f = g.image f := by
  rw [image_update (fun a ha => (h a ha).trans (id_eq _).symm), update]
  simp only [List.modify_id]
  exact List.modify_id _ _

/-! ## Counting -/

/-- Changing an entry changes the count by what it changes for that entry. -/
theorem countP_update {g : Grid α} {slot : Slot} {a : α} (h : g.at? slot = some a)
    (p : α → Bool) (f : α → α) :
    (g.update slot f).flatten.countP p + (if p a then 1 else 0) =
      g.flatten.countP p + (if p (f a) then 1 else 0) := by
  obtain ⟨above, rowOf, below, hg, habove, hmodify⟩ := List.exists_of_modify
    (fun row => row.modify slot.item f) (bucket_lt_of_at? h)
  have hrow : g.row slot.bucket = rowOf := by simp [row, hg, ← habove]
  obtain ⟨left, a', right, hrowOf, hleft, hmodify'⟩ := List.exists_of_modify f
    (hrow ▸ item_lt_of_at? h)
  have ha : a' = a := by simpa [at?, hrow, hrowOf, ← hleft] using h
  rw [update, hmodify, hmodify', hg, hrowOf, ha]
  simp only [List.flatten_append, List.flatten_cons, List.countP_append, List.countP_cons]
  omega

theorem countP_push {g : Grid α} {bucket : Nat} (h : bucket < g.length) (p : α → Bool) (a : α) :
    (g.push bucket a).flatten.countP p = g.flatten.countP p + (if p a then 1 else 0) := by
  obtain ⟨above, rowOf, below, hg, -, hmodify⟩ := List.exists_of_modify (· ++ [a]) h
  rw [push, hmodify, hg]
  simp only [List.flatten_append, List.flatten_cons, List.countP_append, List.countP_singleton]
  omega

end Grid

end ByteTable
