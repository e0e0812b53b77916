import ByteTable.Policy.Stock
import ByteTable.Proofs.Buckets.Invariant

/-!
# What the stock policies tell apart

Which keys have the same hash, and which comparisons go with which hash.

The default hash tells keys apart by their first eight bytes, and masking it or reversing its bytes
leaves it at that.  The sum of a key's bytes is blind to their order.  FNV-1a tells any two keys
apart that differ in one byte only, because each of its steps can be undone: the multiplier is odd.

A table under a `Policy.Consistent` policy is a map whose keys are the classes of the comparison.  A
comparison that looks at one view of the keys is consistent with every hash of that view, so with a
constant hash in any case.  Ignoring case is not consistent with the default hash, and
`Comparator.never` and `Comparator.notAbove` are no equivalences and consistent with no hash at all.
-/

namespace ByteTable

/-! ## Keys with the same hash -/

/-- The default hash tells keys of one length apart by their first eight bytes. -/
theorem structuralHash_eq_iff {a b : Bytes} (hlength : a.length = b.length) :
    structuralHash a = structuralHash b ↔ a.take 8 = b.take 8 := by
  refine Bytes.toWord_eq_iff ?_ (List.length_take_le 8 a)
  rw [List.length_take, List.length_take, hlength]

namespace Hasher

variable {a b : Bytes}

theorem hash_masked_eq_iff (mask : UInt64) :
    (masked mask).hash a = (masked mask).hash b ↔ structuralHash a = structuralHash b :=
  UInt64.xor_left_inj mask

theorem hash_bigEndian_eq_iff :
    bigEndian.hash a = bigEndian.hash b ↔ structuralHash a = structuralHash b := by
  have hlength (key : Bytes) : (Bytes.ofWord (structuralHash key)).reverse.length = 8 := by
    rw [List.length_reverse, Bytes.length_ofWord]
  have hbytes := Bytes.toWord_eq_iff ((hlength a).trans (hlength b).symm)
    (Nat.le_of_eq (hlength a))
  refine hbytes.trans (List.reverse_inj.trans ⟨fun h => ?_, fun h => by rw [h]⟩)
  rw [← Bytes.toWord_ofWord (structuralHash a), h, Bytes.toWord_ofWord]

/-- No more buckets than the modulus are used, however many there are. -/
theorem toNat_hash_reduced_lt {modulus : UInt64} (hpos : 0 < modulus.toNat) (key : Bytes) :
    ((reduced modulus).hash key).toNat < modulus.toNat := by
  rw [reduced, hash, UInt64.toNat_mod]
  exact Nat.mod_lt _ hpos

theorem hash_byteSum_of_perm (h : a.Perm b) : byteSum.hash a = byteSum.hash b := by
  refine h.foldl_eq' (fun x _ y _ sum => ?_) 0
  rw [UInt64.add_assoc, UInt64.add_comm x.toUInt64, ← UInt64.add_assoc]

/-! ### FNV-1a -/

/-- Multiplying by the inverse of the odd multiplier undoes a step. -/
theorem mul_fnvStep (hash : UInt64) (b : UInt8) :
    fnvStep hash b * 0xce965057aff6957b = hash ^^^ b.toUInt64 := by
  have hone : (0x100000001b3 : UInt64) * 0xce965057aff6957b = 1 := by decide +kernel
  rw [fnvStep, UInt64.mul_assoc, hone, UInt64.mul_one]

theorem fnvStep_eq_iff_xor {hash hash' : UInt64} {b b' : UInt8} :
    fnvStep hash b = fnvStep hash' b' ↔ hash ^^^ b.toUInt64 = hash' ^^^ b'.toUInt64 := by
  constructor
  · intro h
    rw [← mul_fnvStep, h, mul_fnvStep]
  · intro h
    rw [fnvStep, h, fnvStep]

theorem foldl_fnvStep_inj {hash hash' : UInt64} (bs : Bytes) :
    bs.foldl fnvStep hash = bs.foldl fnvStep hash' ↔ hash = hash' := by
  induction bs generalizing hash hash' with
  | nil => rfl
  | cons b bs ih =>
    rw [List.foldl_cons, List.foldl_cons, ih, fnvStep_eq_iff_xor]
    exact UInt64.xor_left_inj b.toUInt64

/-- Byte strings that differ in one byte have different hashes. -/
theorem fnvHash_append_cons_eq_iff (front back : Bytes) (b b' : UInt8) :
    fnvHash (front ++ b :: back) = fnvHash (front ++ b' :: back) ↔ b = b' := by
  rw [fnvHash, fnvHash, List.foldl_append, List.foldl_append, List.foldl_cons, List.foldl_cons,
    foldl_fnvStep_inj, fnvStep_eq_iff_xor, UInt64.xor_right_inj, UInt8.toUInt64_inj]

theorem hash_fnv_append_cons_eq_iff (front back : Bytes) (b b' : UInt8) :
    fnv.hash (front ++ b :: back) = fnv.hash (front ++ b' :: back) ↔ b = b' :=
  fnvHash_append_cons_eq_iff front back b b'

theorem hash_fnvWithLength_append_cons_eq_iff (front back : Bytes) (b b' : UInt8) :
    fnvWithLength.hash (front ++ b :: back) = fnvWithLength.hash (front ++ b' :: back) ↔
      b = b' := by
  -- The length that is hashed in front is the same on both sides.
  have hlength : (front ++ b' :: back).length = (front ++ b :: back).length := by
    rw [List.length_append, List.length_append, List.length_cons, List.length_cons]
  rw [fnvWithLength, hash, hash, hlength, ← List.append_assoc, ← List.append_assoc]
  exact fnvHash_append_cons_eq_iff _ back b b'

end Hasher

/-! ## Comparisons -/

namespace Comparator

theorem comparesBy_sameFirstByte : sameFirstByte.ComparesBy List.head? :=
  fun _ _ => beq_iff_eq

theorem comparesBy_always : always.ComparesBy fun _ => () :=
  fun _ _ => ⟨fun _ => rfl, fun _ => rfl⟩

theorem comparesBy_ignoringCase : ignoringCase.ComparesBy (List.map lowerByte) :=
  fun _ _ => beq_iff_eq

end Comparator

namespace Policy

variable {policy : Policy}

/-- With all keys in one bucket, any comparison by a view will do. -/
theorem consistent_of_constant {α : Type} {view : Bytes → α} {hash : UInt64}
    (hhasher : policy.hasher = .constant hash) (h : policy.comparator.ComparesBy view) :
    policy.Consistent := by
  refine consistent_of_comparesBy h fun a b _ _ _ => ?_
  rw [Policy.hash, Policy.hash, hhasher]
  rfl

/-- A table that hashes and compares keys by their first bytes holds one key for each of them. -/
theorem consistent_of_firstByte (hhasher : policy.hasher = .firstByte)
    (hcomparator : policy.comparator = .sameFirstByte) : policy.Consistent := by
  refine consistent_of_comparesBy (hcomparator ▸ Comparator.comparesBy_sameFirstByte) ?_
  intro a b _ _ hsame
  rw [Policy.hash, Policy.hash, hhasher, Hasher.firstByte, Hasher.hash, Hasher.hash,
    List.headD_eq_head?_getD, List.headD_eq_head?_getD, hsame]

theorem not_consistent_of_never (hcomparator : policy.comparator = .never) :
    ¬policy.Consistent := by
  intro h
  have hself := h.refl (Bytes.zeroes policy.keySize) (Bytes.length_zeroes _)
  rw [keysEqual, hcomparator] at hself
  cases hself

section

variable (hpos : 0 < policy.keySize)

include hpos

theorem length_cons_zeroes (b : UInt8) :
    (b :: Bytes.zeroes (policy.keySize - 1)).length = policy.keySize := by
  rw [List.length_cons, Bytes.length_zeroes, Nat.sub_add_cancel hpos]

/-- An order of keys is not symmetric, unless the empty key is the only one. -/
theorem not_consistent_of_notAbove (hcomparator : policy.comparator = .notAbove) :
    ¬policy.Consistent := by
  intro h
  have hsymm := h.symm _ _ (length_cons_zeroes hpos 0) (length_cons_zeroes hpos 1)
  rw [keysEqual, keysEqual, hcomparator] at hsymm
  cases hsymm rfl

/-- A comparison that ignores case needs a hash that ignores it too. -/
theorem not_consistent_of_ignoringCase (hhasher : policy.hasher = .structural)
    (hcomparator : policy.comparator = .ignoringCase) : ¬policy.Consistent := by
  intro h
  have hupper := length_cons_zeroes hpos 65
  have hlower := length_cons_zeroes hpos 97
  have hequal : policy.keysEqual (65 :: Bytes.zeroes (policy.keySize - 1))
      (97 :: Bytes.zeroes (policy.keySize - 1)) = true := by
    rw [keysEqual, hcomparator]
    exact (Comparator.comparesBy_ignoringCase _ _).mpr rfl
  have hhash := h.hash_eq _ _ hupper hlower hequal
  rw [Policy.hash, Policy.hash, hhasher] at hhash
  have htake := (structuralHash_eq_iff (hupper.trans hlower.symm)).mp hhash
  rw [List.take_succ_cons, List.take_succ_cons] at htake
  cases (List.cons.inj htake).1

end

end Policy

end ByteTable
