import ByteTable.Proofs.Buckets.Invariant
import Mathlib.Data.List.Find

/-!
# Finite maps from keys

What a table is meant to be, with nothing about slots in it.  A `KeyMap` is a list of entries, at
most one for each key; an entry has a value once one was written.  Which keys are the same is for
the policy to say, so an entry is found under every key that is the same as its own.

The laws at the end say that it is a map: `get?` gives the last value that was written for a key
since the key was last removed.
-/

namespace ByteTable

/-- A key that is present, and its value if one was written. -/
structure Entry where
  /-- The key, as it was when it became present. -/
  key : Bytes
  /-- The value. -/
  value? : Option Bytes
  deriving DecidableEq

/-- Whether this is the entry of a key. -/
def Entry.isOf (policy : Policy) (key : Bytes) (entry : Entry) : Bool :=
  policy.keysEqual key entry.key

/-- The entry with a value written. -/
def Entry.written (value : Bytes) (entry : Entry) : Entry :=
  { entry with value? := some value }

/-- The key and the value of an entry that has one. -/
def Entry.pair? (entry : Entry) : Option (Bytes × Bytes) :=
  entry.value?.map fun value => (entry.key, value)

/-- The present keys, in no particular order. -/
abbrev KeyMap : Type :=
  List Entry

namespace KeyMap

/-- The entry of a key. -/
def held? (policy : Policy) (m : KeyMap) (key : Bytes) : Option Entry :=
  m.find? (Entry.isOf policy key)

/-- Whether a key is present. -/
def contains (policy : Policy) (m : KeyMap) (key : Bytes) : Bool :=
  (m.held? policy key).isSome

/-- The value of a key. -/
def get? (policy : Policy) (m : KeyMap) (key : Bytes) : Option Bytes :=
  (m.held? policy key).bind Entry.value?

/-- Make a key present. -/
def reserve (policy : Policy) (m : KeyMap) (key : Bytes) : KeyMap :=
  if m.contains policy key then m else ⟨key, none⟩ :: m

/-- Write the value of a key that is present. -/
def assign (policy : Policy) (m : KeyMap) (key value : Bytes) : KeyMap :=
  m.map fun entry => if entry.isOf policy key then entry.written value else entry

/-- Make a key present and write its value. -/
def insert (policy : Policy) (m : KeyMap) (key value : Bytes) : KeyMap :=
  (m.reserve policy key).assign policy key value

/-- Remove a key. -/
def erase (policy : Policy) (m : KeyMap) (key : Bytes) : KeyMap :=
  m.filter fun entry => !entry.isOf policy key

/-! ## The order of the entries -/

variable {policy : Policy} {m m' : KeyMap} {key value : Bytes}

theorem contains_eq_any (policy : Policy) (m : KeyMap) (key : Bytes) :
    m.contains policy key = m.any (Entry.isOf policy key) := by
  rw [contains, held?, List.isSome_find?]

theorem contains_congr (h : m.Perm m') (key : Bytes) :
    m.contains policy key = m'.contains policy key := by
  rw [contains_eq_any, contains_eq_any, h.any_eq]

theorem reserve_perm (h : m.Perm m') (key : Bytes) :
    (m.reserve policy key).Perm (m'.reserve policy key) := by
  rw [reserve, reserve, contains_congr h]
  split
  · exact h
  · exact h.cons _

theorem assign_perm (h : m.Perm m') (key value : Bytes) :
    (m.assign policy key value).Perm (m'.assign policy key value) :=
  h.map _

theorem insert_perm (h : m.Perm m') (key value : Bytes) :
    (m.insert policy key value).Perm (m'.insert policy key value) :=
  assign_perm (reserve_perm h key) key value

theorem erase_perm (h : m.Perm m') (key : Bytes) :
    (m.erase policy key).Perm (m'.erase policy key) :=
  h.filter _

/-! ## Keys that are absent -/

theorem isOf_of_contains_eq_false (h : m.contains policy key = false) {entry : Entry}
    (hentry : entry ∈ m) : entry.isOf policy key = false := by
  rw [contains_eq_any, List.any_eq_false] at h
  exact Bool.eq_false_iff.mpr (h entry hentry)

theorem assign_of_contains_eq_false (h : m.contains policy key = false) (value : Bytes) :
    m.assign policy key value = m := by
  rw [assign, List.map_congr_left fun entry hentry =>
    if_neg (Bool.eq_false_iff.mp (isOf_of_contains_eq_false h hentry)), List.map_id']

theorem erase_of_contains_eq_false (h : m.contains policy key = false) :
    m.erase policy key = m := by
  rw [erase, List.filter_eq_self]
  intro entry hentry
  rw [isOf_of_contains_eq_false h hentry, Bool.not_false]

/-! ## It is a map -/

/-- Whether all keys have the length that the policy asks for. -/
def Sized (policy : Policy) (m : KeyMap) : Prop :=
  ∀ entry ∈ m, entry.key.length = policy.keySize

theorem isOf_congr (hconsistent : policy.Consistent) {key key' : Bytes}
    (hkey : key.length = policy.keySize) (hkey' : key'.length = policy.keySize)
    (hequal : policy.keysEqual key' key = true) {entry : Entry}
    (hentry : entry.key.length = policy.keySize) :
    entry.isOf policy key' = entry.isOf policy key := by
  have hequal' := hconsistent.symm key' key hkey' hkey hequal
  rw [Bool.eq_iff_iff, Entry.isOf, Entry.isOf]
  exact ⟨hconsistent.trans key key' entry.key hkey hkey' hentry hequal',
    hconsistent.trans key' key entry.key hkey' hkey hentry hequal⟩

theorem isOf_eq_false (hconsistent : policy.Consistent) {key key' : Bytes}
    (hkey : key.length = policy.keySize) (hkey' : key'.length = policy.keySize)
    (hdifferent : policy.keysEqual key' key = false) {entry : Entry}
    (hentry : entry.key.length = policy.keySize) (h : entry.isOf policy key' = true) :
    entry.isOf policy key = false := by
  rw [← Bool.not_eq_true]
  intro hmatch
  have hback := hconsistent.symm key entry.key hkey hentry hmatch
  rw [hconsistent.trans key' entry.key key hkey' hentry hkey h hback] at hdifferent
  cases hdifferent

theorem held?_congr (hconsistent : policy.Consistent) (hm : m.Sized policy) {key key' : Bytes}
    (hkey : key.length = policy.keySize) (hkey' : key'.length = policy.keySize)
    (hequal : policy.keysEqual key' key = true) : m.held? policy key' = m.held? policy key := by
  unfold held?
  exact List.find?_congr fun entry hentry =>
    isOf_congr hconsistent hkey hkey' hequal (hm entry hentry)

/-- Making a key present writes no value. -/
theorem get?_reserve (hconsistent : policy.Consistent) (hm : m.Sized policy) {key key' : Bytes}
    (hkey : key.length = policy.keySize) (hkey' : key'.length = policy.keySize) :
    (m.reserve policy key).get? policy key' = m.get? policy key' := by
  unfold reserve
  rcases hcontains : m.contains policy key with _ | _
  · rw [if_neg Bool.false_ne_true, get?, held?, List.find?_cons, get?]
    rcases hequal : policy.keysEqual key' key with _ | _
    · rw [show Entry.isOf policy key' ⟨key, none⟩ = false from hequal]
      rfl
    · rw [show Entry.isOf policy key' ⟨key, none⟩ = true from hequal,
        held?_congr hconsistent hm hkey hkey' hequal]
      rw [contains, Option.isSome_eq_false_iff, Option.isNone_iff_eq_none] at hcontains
      rw [hcontains]
      rfl
  · rw [if_pos rfl]

theorem contains_reserve (hconsistent : policy.Consistent) (hm : m.Sized policy)
    {key key' : Bytes} (hkey : key.length = policy.keySize) (hkey' : key'.length = policy.keySize) :
    (m.reserve policy key).contains policy key' =
      (policy.keysEqual key' key || m.contains policy key') := by
  unfold reserve
  rcases hcontains : m.contains policy key with _ | _
  · rw [if_neg Bool.false_ne_true, contains_eq_any, List.any_cons, ← contains_eq_any]
    rfl
  · rw [if_pos rfl]
    rcases hequal : policy.keysEqual key' key with _ | _
    · rw [Bool.false_or]
    · rw [contains, held?_congr hconsistent hm hkey hkey' hequal, Bool.true_or, ← contains,
        hcontains]

/-- A written value is found under every key that is the same. -/
theorem get?_assign (hconsistent : policy.Consistent) (hm : m.Sized policy) {key key' : Bytes}
    (hkey : key.length = policy.keySize) (hkey' : key'.length = policy.keySize) (value : Bytes) :
    (m.assign policy key value).get? policy key' =
      if policy.keysEqual key' key && m.contains policy key' then some value
      else m.get? policy key' := by
  have hsame : Entry.isOf policy key' ∘
      (fun entry => if entry.isOf policy key then entry.written value else entry) =
      Entry.isOf policy key' := by
    funext entry
    rw [Function.comp_apply]
    split <;> rfl
  rw [get?, held?, assign, List.find?_map, hsame, ← held?, contains, get?]
  rcases hentry : m.held? policy key' with _ | entry
  · rw [Option.isSome_none, Bool.and_false, if_neg Bool.false_ne_true]
    rfl
  · have hsize := hm entry (List.mem_of_find?_eq_some hentry)
    have hisOf : entry.isOf policy key' = true := List.find?_some hentry
    rw [Option.isSome_some, Bool.and_true, Option.map_some, Option.bind_some, Option.bind_some]
    rcases hequal : policy.keysEqual key' key with _ | _
    · rw [isOf_eq_false hconsistent hkey hkey' hequal hsize hisOf, if_neg Bool.false_ne_true,
        if_neg Bool.false_ne_true]
    · rw [← isOf_congr hconsistent hkey hkey' hequal hsize, hisOf, if_pos rfl, if_pos rfl]
      rfl

theorem sized_reserve (hm : m.Sized policy) (hkey : key.length = policy.keySize) :
    Sized policy (m.reserve policy key) := by
  unfold reserve
  split
  · exact hm
  · intro entry hentry
    rcases List.mem_cons.mp hentry with rfl | hentry
    · exact hkey
    · exact hm entry hentry

/-- The last value written for a key is its value. -/
theorem get?_insert (hconsistent : policy.Consistent) (hm : m.Sized policy) {key key' : Bytes}
    (hkey : key.length = policy.keySize) (hkey' : key'.length = policy.keySize) (value : Bytes) :
    (m.insert policy key value).get? policy key' =
      if policy.keysEqual key' key then some value else m.get? policy key' := by
  rw [insert, get?_assign hconsistent (sized_reserve hm hkey) hkey hkey',
    contains_reserve hconsistent hm hkey hkey', get?_reserve hconsistent hm hkey hkey']
  cases policy.keysEqual key' key <;> rfl

/-- A removed key has no value, and no other key loses its own. -/
theorem get?_erase (hconsistent : policy.Consistent) (hm : m.Sized policy) {key key' : Bytes}
    (hkey : key.length = policy.keySize) (hkey' : key'.length = policy.keySize) :
    (m.erase policy key).get? policy key' =
      if policy.keysEqual key' key then none else m.get? policy key' := by
  rw [get?, held?, erase, List.find?_filter, get?, held?]
  rcases hequal : policy.keysEqual key' key with _ | _
  · have hsame : m.find? (fun entry => (!entry.isOf policy key) = true ∧
        entry.isOf policy key' = true) = m.find? (Entry.isOf policy key') := by
      refine List.find?_congr fun entry hentry => ?_
      rcases hisOf : entry.isOf policy key' with _ | _
      · simp
      · have hother := isOf_eq_false hconsistent hkey hkey' hequal (hm entry hentry) hisOf
        simp [hother]
    rw [hsame, if_neg Bool.false_ne_true]
  · have hnone : m.find? (fun entry => (!entry.isOf policy key) = true ∧
        entry.isOf policy key' = true) = none := by
      rw [List.find?_eq_none]
      intro entry hentry
      rw [isOf_congr hconsistent hkey hkey' hequal (hm entry hentry)]
      simp
    rw [hnone, if_pos rfl]
    rfl

end KeyMap

end ByteTable
