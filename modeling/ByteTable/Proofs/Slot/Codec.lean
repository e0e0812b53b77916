import ByteTable.Proofs.Slot.Handle
import Mathlib.Algebra.Group.Nat.Defs
import Mathlib.Data.Nat.Size

/-!
# Slots and handles name each other

Packing and unpacking are inverse to each other, for every number of buckets that a machine word can
hold, up to the widest field, where the bucket takes all 64 bits and only item 0 has a handle.

The slots in question are those whose bucket the field can hold, whether the table has the bucket or
not, and whose item fits in the bits above the field.  The handles are those with a bucket in their
field.  A handle whose field is zero still stands for a slot of its own, but no packing gives it.
-/

namespace ByteTable

namespace Handle

theorem bitLength_eq_size (n : Nat) : bitLength n = n.size := by
  by_cases hzero : n = 0
  · rw [hzero]
    rfl
  · rw [bitLength, if_neg hzero]
    apply Nat.le_antisymm
    · exact Nat.lt_size.mpr (Nat.log2_self_le hzero)
    · exact Nat.size_le.mpr Nat.lt_log2_self

/-- Whether packing and unpacking are inverse to each other in a table of so many buckets, with a
bucket field of `width` bits. -/
structure Codec (bucketCount width : Nat) : Prop where
  /-- The field has a place for every bucket of the table. -/
  bucket_lt {bucket : Nat} : bucket < bucketCount → bucket < 2 ^ width - 1
  /-- An item that does not fit above the field has no handle, which is logged. -/
  run_pack_of_le {σ : Type} {slot : Slot} (s : σ) : slot.bucket < 2 ^ width - 1 →
    2 ^ (64 - width) ≤ slot.item →
    (pack bucketCount slot).run s = ⟨.ok none, s, [.unaddressable bucketCount slot]⟩
  /-- Any other item has one, which is not zero, as no handle is, and reads as the slot. -/
  exists_handle (slot : Slot) : slot.bucket < 2 ^ width - 1 → slot.item < 2 ^ (64 - width) →
    ∃ handle : Handle,
      (∀ {σ : Type} (s : σ), (pack bucketCount slot).run s = ⟨.ok (some handle), s, []⟩) ∧
      unpack bucketCount handle = .ok slot
  slot_unique {σ : Type} {slot slot' : Slot} {handle : Handle} (s : σ) :
    slot.bucket < 2 ^ width - 1 → slot'.bucket < 2 ^ width - 1 →
    ((pack bucketCount slot).run s).answer = .ok (some handle) →
    ((pack bucketCount slot').run s).answer = .ok (some handle) → slot = slot'
  /-- A number with a bucket in its field is the handle of the slot that it reads as. -/
  pack_unpack {raw : UInt64} : raw.toNat % 2 ^ width ≠ 0 →
    ∃ (handle : Handle) (slot : Slot), ofRaw? raw = some handle ∧ handle.raw = raw ∧
      unpack bucketCount handle = .ok slot ∧
      ∀ {σ : Type} (s : σ), (pack bucketCount slot).run s = ⟨.ok (some handle), s, []⟩
  /-- Every number but zero reads as a slot, and no two as the same. -/
  exists_unpack (handle : Handle) : ∃ slot, unpack bucketCount handle = .ok slot
  handle_unique {handle handle' : Handle} {slot : Slot} : unpack bucketCount handle = .ok slot →
    unpack bucketCount handle' = .ok slot → handle = handle'

section

variable {bucketCount : Nat} {slot : Slot} {handle : Handle}

/-- The slot that a handle with a bucket in its field stands for is addressable. -/
theorem slotAt_addressable (h : bucketCount + 1 < wordLimit)
    (hfield : handle.raw.toNat % (1 <<< bitLength (bucketCount + 1)) ≠ 0) :
    (slotAt bucketCount handle).bucket + 1 < 1 <<< bitLength (bucketCount + 1) ∧
      (slotAt bucketCount handle).item < 1 <<< (64 - bitLength (bucketCount + 1)) := by
  have hwidth := bitLength_le h
  have hraw : handle.raw.toNat < wordLimit := handle.raw.toNat_lt
  unfold slotAt
  dsimp only
  rw [if_neg hfield]
  generalize bitLength (bucketCount + 1) = width at hfield hwidth ⊢
  have hpos : 0 < 1 <<< width := by
    rw [Nat.one_shiftLeft]
    exact Nat.two_pow_pos width
  constructor
  · have hlow := Nat.mod_lt handle.raw.toNat hpos
    omega
  · have hlimit : wordLimit = 2 ^ width * 2 ^ (64 - width) := by
      rw [← Nat.pow_add, Nat.add_sub_cancel' hwidth]
      rfl
    rw [Nat.shiftRight_eq_div_pow, Nat.one_shiftLeft]
    exact Nat.div_lt_of_lt_mul (hlimit ▸ hraw)

/-- If a handle has a bucket in its field, packing the slot that it stands for gives the handle
back. -/
theorem packed?_slotAt (h : bucketCount + 1 < wordLimit)
    (hfield : handle.raw.toNat % (1 <<< bitLength (bucketCount + 1)) ≠ 0) :
    packed? bucketCount (slotAt bucketCount handle) = some handle := by
  obtain ⟨hbucket, hitem⟩ := slotAt_addressable h hfield
  obtain ⟨handle', hpacked, hslot⟩ := exists_packed?_of_lt_field h hbucket hitem
  rw [hpacked, (slotAt_inj h).mp hslot]

theorem run_pack_of_packed? {σ : Type} (h : bucketCount + 1 < wordLimit)
    (hbucket : slot.bucket + 1 < 1 <<< bitLength (bucketCount + 1))
    (hpacked : packed? bucketCount slot = some handle) (s : σ) :
    (pack bucketCount slot).run s = ⟨.ok (some handle), s, []⟩ := by
  have hitem : slot.item < 1 <<< (64 - bitLength (bucketCount + 1)) := by
    by_contra hdeep
    rw [packed?, if_neg hdeep] at hpacked
    cases hpacked
  rw [run_pack_of_lt_field h hbucket, hpacked, if_pos hitem]

end

/-- Packing and unpacking are inverse to each other. -/
theorem codec {bucketCount : Nat} (h : bucketCount + 1 < wordLimit) :
    Codec bucketCount (bucketCount + 1).size := by
  rw [← bitLength_eq_size]
  have hfield : ∀ {bucket : Nat}, bucket < 2 ^ bitLength (bucketCount + 1) - 1 →
      bucket + 1 < 1 <<< bitLength (bucketCount + 1) := by
    intro bucket hbucket
    rw [Nat.one_shiftLeft]
    omega
  constructor
  case bucket_lt =>
    intro bucket hbucket
    have hlow := succ_lt_field hbucket
    rw [Nat.one_shiftLeft] at hlow
    omega
  case run_pack_of_le =>
    intro σ slot s hbucket hitem
    rw [← Nat.one_shiftLeft] at hitem
    rw [run_pack_of_lt_field h (hfield hbucket), packed?, if_neg (Nat.not_lt.mpr hitem),
      if_neg (Nat.not_lt.mpr hitem)]
  case exists_handle =>
    intro slot hbucket hitem
    rw [← Nat.one_shiftLeft] at hitem
    obtain ⟨handle, hpacked, hslot⟩ := exists_packed?_of_lt_field h (hfield hbucket) hitem
    refine ⟨handle, run_pack_of_packed? h (hfield hbucket) hpacked, ?_⟩
    rw [unpack_eq h, hslot]
  case slot_unique =>
    intro σ slot slot' handle s hbucket hbucket' hpack hpack'
    rw [run_pack_of_lt_field h (hfield hbucket), Except.ok.injEq] at hpack
    rw [run_pack_of_lt_field h (hfield hbucket'), Except.ok.injEq] at hpack'
    rw [← slotAt_of_packed?_of_lt_field h (hfield hbucket) hpack,
      slotAt_of_packed?_of_lt_field h (hfield hbucket') hpack']
  case pack_unpack =>
    intro raw hraw
    have hne : raw ≠ 0 := by
      rintro rfl
      exact hraw (Nat.zero_mod _)
    obtain ⟨handle, rfl⟩ : ∃ handle : Handle, handle.raw = raw := ⟨⟨raw, hne⟩, rfl⟩
    rw [← Nat.one_shiftLeft] at hraw
    have hbucket := (slotAt_addressable h hraw).1
    exact ⟨handle, slotAt bucketCount handle, dif_neg hne, rfl, unpack_eq h handle,
      run_pack_of_packed? h hbucket (packed?_slotAt h hraw)⟩
  case exists_unpack =>
    intro handle
    exact ⟨_, unpack_eq h handle⟩
  case handle_unique =>
    intro handle handle' slot hslot hslot'
    rw [unpack_eq h, Except.ok.injEq] at hslot hslot'
    exact (slotAt_inj h).mp (hslot.trans hslot'.symm)

/-- The widest field leaves no bit for the item. -/
theorem codec_of_widest_field :
    wordLimit - 2 + 1 < wordLimit ∧ Codec (wordLimit - 2) 64 ∧
      ((pack (wordLimit - 2) ⟨wordLimit - 3, 1⟩).run ()).answer = .ok none ∧
      ∃ handle, ((pack (wordLimit - 2) ⟨wordLimit - 3, 0⟩).run ()).answer = .ok (some handle) ∧
        unpack (wordLimit - 2) handle = .ok ⟨wordLimit - 3, 0⟩ := by
  have h : wordLimit - 2 + 1 < wordLimit := by decide
  have hcodec := codec h
  have hwidth : (wordLimit - 2 + 1).size = 64 := by
    rw [← bitLength_eq_size]
    decide +kernel
  rw [hwidth] at hcodec
  refine ⟨h, hcodec, ?_, ?_⟩
  · rw [hcodec.run_pack_of_le () (by decide) (by decide)]
  · obtain ⟨handle, hpack, hunpack⟩ :=
      hcodec.exists_handle ⟨wordLimit - 3, 0⟩ (by decide) (by decide)
    exact ⟨handle, by rw [hpack], hunpack⟩

end Handle

end ByteTable
