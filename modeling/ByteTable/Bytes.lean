/-!
# Byte strings

Keys and values are byte strings, and a slot's word is kept as eight of them.  This module fixes
the one number format that the library stores: least significant byte first.

`Bytes.toNat` reads a byte string as a number and `Bytes.ofNat` writes a number with a given
count of bytes.  `toNat_ofNat` says that reading undoes writing up to the digits that did not
fit, and `toWord_ofWord` that a 64-bit word survives the trip unchanged.  Powers of two are
written as shifts.
-/

namespace ByteTable

/-- A byte string. -/
abbrev Bytes := List UInt8

namespace Bytes

/-- The byte string of `width` zeroes. -/
def zeroes (width : Nat) : Bytes :=
  List.replicate width 0

/-- The number that a byte string spells, least significant byte first. -/
def toNat : Bytes → Nat
  | [] => 0
  | b :: bs => b.toNat + 256 * toNat bs

/-- The `width` lowest base-256 digits of a number, least significant first. -/
def ofNat : Nat → Nat → Bytes
  | 0, _ => []
  | width + 1, n => UInt8.ofNat n :: ofNat width (n / 256)

/-- A byte string read as a machine word; what lies past the eighth byte falls off. -/
def toWord (bs : Bytes) : UInt64 :=
  UInt64.ofNat bs.toNat

/-- The eight bytes of a machine word. -/
def ofWord (w : UInt64) : Bytes :=
  ofNat 8 w.toNat

/-- Lexicographic order of unsigned bytes, in which a proper beginning comes first. -/
def le : Bytes → Bytes → Bool
  | [], _ => true
  | _ :: _, [] => false
  | a :: as, b :: bs => if a = b then le as bs else a < b

/-! ## Small laws -/

@[simp] theorem length_zeroes (width : Nat) : (zeroes width).length = width := by
  simp [zeroes]

@[simp] theorem length_ofNat (width n : Nat) : (ofNat width n).length = width := by
  induction width generalizing n with
  | zero => rfl
  | succ width ih => simp [ofNat, ih]

@[simp] theorem length_ofWord (w : UInt64) : (ofWord w).length = 8 :=
  length_ofNat 8 _

/-- Eight more bits are one more base-256 digit. -/
theorem one_shiftLeft_succ (width : Nat) : 1 <<< (8 * (width + 1)) = 256 * (1 <<< (8 * width)) := by
  rw [Nat.mul_succ, Nat.shiftLeft_add, Nat.shiftLeft_eq (1 <<< (8 * width)) 8, Nat.mul_comm]

/-- A byte string spells a number that has as many bits. -/
theorem toNat_lt (bs : Bytes) : bs.toNat < 1 <<< (8 * bs.length) := by
  induction bs with
  | nil => decide
  | cons b bs ih =>
    have hb : b.toNat < 256 := b.toNat_lt
    rw [List.length_cons, one_shiftLeft_succ]
    simp only [toNat]
    omega

/-- Writing with `width` bytes keeps the lowest `8 * width` bits of a number. -/
theorem toNat_ofNat (width n : Nat) : (ofNat width n).toNat = n % (1 <<< (8 * width)) := by
  induction width generalizing n with
  | zero => exact (Nat.mod_one n).symm
  | succ width ih =>
    rw [one_shiftLeft_succ, Nat.mod_mul]
    simp [ofNat, toNat, ih]

/-- A number that a byte string spells is written as that byte string. -/
@[simp] theorem ofNat_toNat (bs : Bytes) : ofNat bs.length bs.toNat = bs := by
  induction bs with
  | nil => rfl
  | cons b bs ih =>
    have hb : b.toNat < 256 := b.toNat_lt
    have hhead : UInt8.ofNat (toNat (b :: bs)) = b := by
      rw [← UInt8.toNat_inj, UInt8.toNat_ofNat', toNat]
      omega
    have htail : toNat (b :: bs) / 256 = toNat bs := by
      rw [toNat]
      omega
    rw [List.length_cons, ofNat, hhead, htail, ih]

/-- A machine word tells byte strings of one length apart, if it has room for them. -/
theorem toWord_eq_iff {as bs : Bytes} (hlength : as.length = bs.length) (hfits : as.length ≤ 8) :
    as.toWord = bs.toWord ↔ as = bs := by
  have hlt : ∀ cs : Bytes, cs.length ≤ 8 → cs.toNat < 2 ^ 64 := by
    intro cs hcs
    refine Nat.lt_of_lt_of_le cs.toNat_lt ?_
    rw [Nat.one_shiftLeft]
    exact Nat.pow_le_pow_right Nat.two_pos (by omega)
  constructor
  · intro h
    have hnat := congrArg UInt64.toNat h
    rw [toWord, toWord, UInt64.toNat_ofNat', UInt64.toNat_ofNat',
      Nat.mod_eq_of_lt (hlt as hfits), Nat.mod_eq_of_lt (hlt bs (hlength ▸ hfits))] at hnat
    rw [← ofNat_toNat as, ← ofNat_toNat bs, hlength, hnat]
  · intro h
    rw [h]

/-- A machine word is what its eight bytes spell. -/
@[simp] theorem toWord_ofWord (w : UInt64) : (ofWord w).toWord = w := by
  have hw : w.toNat < 1 <<< (8 * 8) := w.toNat_lt
  rw [toWord, ofWord, toNat_ofNat, Nat.mod_eq_of_lt hw, UInt64.ofNat_toNat]

end Bytes

end ByteTable
