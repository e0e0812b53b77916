import ByteTable.Proofs.Action.Relations
import ByteTable.Slot.Handle

/-!
# Handles as numbers

A handle is the number `item * 2 ^ width + (bucket + 1)`, where `width` is the number of bits of the
bucket count plus one.  The low summand is below `2 ^ width` and not zero, so both coordinates are
read back by division, which is `slotAt_of_packed?_eq_some`.

`packed?` and `slotAt` are packing and unpacking without the checks for numbers beyond a machine
word, which no table can fail.
-/

namespace ByteTable

namespace Handle

/-- The handle of a slot in a table of `bucketCount` buckets, if its item leaves room for one. -/
def packed? (bucketCount : Nat) (slot : Slot) : Option Handle :=
  if slot.item < 1 <<< (64 - bitLength (bucketCount + 1)) then
    ofRaw? (UInt64.ofNat (slot.item <<< bitLength (bucketCount + 1) ||| (slot.bucket + 1)))
  else none

/-- The slot that a handle stands for in a table of `bucketCount` buckets. -/
def slotAt (bucketCount : Nat) (handle : Handle) : Slot :=
  let low := handle.raw.toNat % (1 <<< bitLength (bucketCount + 1))
  ⟨if low = 0 then wordLimit - 1 else low - 1,
    handle.raw.toNat >>> bitLength (bucketCount + 1)⟩

/-! ## The field -/

theorem lt_shiftLeft_bitLength (n : Nat) : n < 1 <<< bitLength n := by
  rw [Nat.one_shiftLeft, bitLength]
  split
  · omega
  · exact Nat.lt_log2_self

theorem bitLength_le {n : Nat} (h : n < wordLimit) : bitLength n ≤ 64 := by
  unfold bitLength
  split
  · omega
  · have hlog : n.log2 < 64 := (Nat.log2_lt (by omega)).mpr h
    omega

/-- The field is no wider than a machine word. -/
theorem shiftLeft_bitLength_le {n : Nat} (h : n < wordLimit) : 1 <<< bitLength n ≤ wordLimit := by
  rw [Nat.one_shiftLeft]
  exact Nat.pow_le_pow_right Nat.zero_lt_two (bitLength_le h)

/-- The field of a table's handles is wide enough for each of its buckets. -/
theorem succ_lt_field {bucket bucketCount : Nat} (h : bucket < bucketCount) :
    bucket + 1 < 1 <<< bitLength (bucketCount + 1) := by
  have hcount := lt_shiftLeft_bitLength (bucketCount + 1)
  omega

/-! ## Running -/

theorem fieldWidth_eq {bucketCount : Nat} (h : bucketCount + 1 < wordLimit) :
    fieldWidth bucketCount = .ok (bitLength (bucketCount + 1)) := by
  rw [fieldWidth, addSizes_of_lt h]
  rfl

theorem run_pack_of_lt_field {σ : Type} {bucketCount : Nat} {slot : Slot}
    (h : bucketCount + 1 < wordLimit)
    (hbucket : slot.bucket + 1 < 1 <<< bitLength (bucketCount + 1)) (s : σ) :
    (pack bucketCount slot).run s =
      ⟨.ok (packed? bucketCount slot), s,
        if slot.item < 1 <<< (64 - bitLength (bucketCount + 1)) then []
        else [.unaddressable bucketCount slot]⟩ := by
  rw [pack, fieldWidth_eq h, Action.liftM_ok_bind, packed?]
  by_cases hitem : slot.item < 1 <<< (64 - bitLength (bucketCount + 1))
  · have hlimit := shiftLeft_bitLength_le h
    rw [if_pos hitem, if_pos hitem, if_pos hitem, addSizes_of_lt (by omega),
      Action.liftM_ok_bind, Action.run_pure]
  · rw [if_neg hitem, if_neg hitem, if_neg hitem, Action.run_bind, Action.run_note]
    rfl

/-- Packing never fails; it warns when there is no handle for the item. -/
theorem run_pack {σ : Type} {bucketCount : Nat} {slot : Slot} (h : bucketCount + 1 < wordLimit)
    (hbucket : slot.bucket < bucketCount) (s : σ) :
    (pack bucketCount slot).run s =
      ⟨.ok (packed? bucketCount slot), s,
        if slot.item < 1 <<< (64 - bitLength (bucketCount + 1)) then []
        else [.unaddressable bucketCount slot]⟩ :=
  run_pack_of_lt_field h (succ_lt_field hbucket) s

theorem unpack_eq {bucketCount : Nat} (h : bucketCount + 1 < wordLimit) (handle : Handle) :
    unpack bucketCount handle = .ok (slotAt bucketCount handle) := by
  rw [unpack, fieldWidth_eq h]
  rfl

/-! ## Reading back -/

theorem pack_number {width item low : Nat} (hwidth : width ≤ 64) (hlow : low < 1 <<< width)
    (hitem : item < 1 <<< (64 - width)) :
    item <<< width ||| low = 1 <<< width * item + low ∧
      1 <<< width * item + low < wordLimit := by
  simp only [Nat.one_shiftLeft] at hlow hitem ⊢
  have hlimit : 2 ^ width * 2 ^ (64 - width) = wordLimit := by
    rw [← Nat.pow_add, Nat.add_sub_cancel' hwidth]
    rfl
  constructor
  · rw [← Nat.shiftLeft_add_eq_or_of_lt hlow, Nat.shiftLeft_eq, Nat.mul_comm]
  · calc 2 ^ width * item + low < 2 ^ width * item + 2 ^ width := Nat.add_lt_add_left hlow _
      _ = 2 ^ width * (item + 1) := (Nat.mul_succ _ _).symm
      _ ≤ 2 ^ width * 2 ^ (64 - width) := Nat.mul_le_mul_left _ hitem
      _ = wordLimit := hlimit

/-- An addressable slot has a handle, and the handle stands for it. -/
theorem exists_packed?_of_lt_field {bucketCount : Nat} {slot : Slot}
    (h : bucketCount + 1 < wordLimit)
    (hlow : slot.bucket + 1 < 1 <<< bitLength (bucketCount + 1))
    (hitem : slot.item < 1 <<< (64 - bitLength (bucketCount + 1))) :
    ∃ handle, packed? bucketCount slot = some handle ∧ slotAt bucketCount handle = slot := by
  obtain ⟨hnumber, hlimit⟩ := pack_number (bitLength_le h) hlow hitem
  rw [packed?, if_pos hitem, hnumber]
  unfold slotAt
  generalize bitLength (bucketCount + 1) = width at hlow hlimit
  have hraw : (UInt64.ofNat (1 <<< width * slot.item + (slot.bucket + 1))).toNat =
      1 <<< width * slot.item + (slot.bucket + 1) :=
    UInt64.toNat_ofNat_of_lt' hlimit
  have hne : UInt64.ofNat (1 <<< width * slot.item + (slot.bucket + 1)) ≠ 0 := by
    intro hzero
    rw [hzero] at hraw
    simp at hraw
  refine ⟨⟨_, hne⟩, dif_neg hne, ?_⟩
  have hmod : (1 <<< width * slot.item + (slot.bucket + 1)) % (1 <<< width) =
      slot.bucket + 1 := by
    rw [Nat.mul_add_mod, Nat.mod_eq_of_lt hlow]
  have hdiv : (1 <<< width * slot.item + (slot.bucket + 1)) >>> width = slot.item := by
    have hpos : 0 < 1 <<< width := by omega
    rw [Nat.shiftRight_eq_div_pow, ← Nat.one_shiftLeft, Nat.mul_add_div hpos,
      Nat.div_eq_of_lt hlow, Nat.add_zero]
  rw [hraw, hmod, hdiv]
  rfl

theorem exists_packed?_eq_some {bucketCount : Nat} {slot : Slot}
    (h : bucketCount + 1 < wordLimit) (hbucket : slot.bucket < bucketCount)
    (hitem : slot.item < 1 <<< (64 - bitLength (bucketCount + 1))) :
    ∃ handle, packed? bucketCount slot = some handle ∧ slotAt bucketCount handle = slot :=
  exists_packed?_of_lt_field h (succ_lt_field hbucket) hitem

theorem slotAt_of_packed?_of_lt_field {bucketCount : Nat} {slot : Slot} {handle : Handle}
    (h : bucketCount + 1 < wordLimit)
    (hlow : slot.bucket + 1 < 1 <<< bitLength (bucketCount + 1))
    (hpacked : packed? bucketCount slot = some handle) : slotAt bucketCount handle = slot := by
  by_cases hitem : slot.item < 1 <<< (64 - bitLength (bucketCount + 1))
  · obtain ⟨handle', hpacked', hslot⟩ := exists_packed?_of_lt_field h hlow hitem
    rw [hpacked, Option.some.injEq] at hpacked'
    rw [hpacked', hslot]
  · rw [packed?, if_neg hitem] at hpacked
    cases hpacked

theorem slotAt_of_packed?_eq_some {bucketCount : Nat} {slot : Slot} {handle : Handle}
    (h : bucketCount + 1 < wordLimit) (hbucket : slot.bucket < bucketCount)
    (hpacked : packed? bucketCount slot = some handle) : slotAt bucketCount handle = slot :=
  slotAt_of_packed?_of_lt_field h (succ_lt_field hbucket) hpacked

/-- No two handles stand for the same slot, whether a table has it or not. -/
theorem slotAt_inj {bucketCount : Nat} (h : bucketCount + 1 < wordLimit) {handle handle' : Handle} :
    slotAt bucketCount handle = slotAt bucketCount handle' ↔ handle = handle' := by
  refine ⟨fun hsame => ?_, fun hsame => by rw [hsame]⟩
  have hlimit := shiftLeft_bitLength_le h
  unfold slotAt at hsame
  generalize bitLength (bucketCount + 1) = width at hsame hlimit
  obtain ⟨hbucket, hitem⟩ := Slot.mk.inj hsame
  have hpos : 0 < 1 <<< width := by
    rw [Nat.one_shiftLeft]
    exact Nat.two_pow_pos width
  have hlow := Nat.mod_lt handle.raw.toNat hpos
  have hlow' := Nat.mod_lt handle'.raw.toNat hpos
  have hdigit : handle.raw.toNat % (1 <<< width) = handle'.raw.toNat % (1 <<< width) := by
    generalize handle.raw.toNat % (1 <<< width) = low at hbucket hlow ⊢
    generalize handle'.raw.toNat % (1 <<< width) = low' at hbucket hlow' ⊢
    split at hbucket <;> split at hbucket <;> omega
  rw [Nat.shiftRight_eq_div_pow, Nat.shiftRight_eq_div_pow, ← Nat.one_shiftLeft] at hitem
  have hraw : handle.raw.toNat = handle'.raw.toNat := by
    rw [← Nat.div_add_mod handle.raw.toNat (1 <<< width), hitem, hdigit, Nat.div_add_mod]
  obtain ⟨raw, hne⟩ := handle
  obtain ⟨raw', hne'⟩ := handle'
  rw [mk.injEq]
  exact UInt64.toNat_inj.mp hraw

theorem agrees_pack {σ τ : Type} {R : σ → τ → Prop} {s : σ} {t : τ} (h : R s t)
    (bucketCount : Nat) (slot : Slot) :
    ((pack bucketCount slot).run s).Agrees R R ((pack bucketCount slot).run t) := by
  rw [pack, pack]
  refine Action.agrees_read_bind (s := s) (t := t) rfl h fun width _ => ?_
  by_cases hitem : slot.item < 1 <<< (64 - width)
  · rw [if_pos hitem, if_pos hitem]
    exact Action.agrees_read_bind (s := s) (t := t) rfl h fun low _ => .answered h
  · rw [if_neg hitem, if_neg hitem, Action.run_bind, Action.run_bind]
    exact .answered h

end Handle

end ByteTable
