import ByteTable.Slot.Word

/-!
# The states of a slot's word

A word is a reserved, a written or a tombstone word, and its operations move between these: marking
keeps a word live, tombstoning ends its life, and neither touches the truncated hash.  That a
tombstone agrees with no hash (`isTombstone_eq_false_of_agrees`) is why a search never has to look
at the state of what it finds.
-/

namespace ByteTable

namespace SlotWord

/-- A mask sees through bits that it does not cover. -/
theorem or_and_of_and_eq_zero {a b mask : UInt64} (h : b &&& mask = 0) :
    (a ||| b) &&& mask = a &&& mask := by
  have hdistrib : (a ||| b) &&& mask = (a &&& mask) ||| (b &&& mask) := by
    apply UInt64.toBitVec_inj.1
    ext i
    simp [Bool.and_or_distrib_right]
  rw [hdistrib, h, UInt64.or_zero]

@[simp] theorem isTombstone_markWritten (w : SlotWord) :
    w.markWritten.isTombstone = w.isTombstone := by
  rw [isTombstone, isTombstone, markWritten, or_and_of_and_eq_zero (by decide)]

@[simp] theorem isTombstone_tombstoned (w : SlotWord) : w.tombstoned.isTombstone = true := by
  have h : ~~~writtenBit &&& tombstoneBit = tombstoneBit := by decide
  have hbits : (w.bits ||| tombstoneBit) &&& tombstoneBit = tombstoneBit := by
    apply UInt64.toBitVec_inj.1
    ext i
    simpa using Or.inr
  simp [isTombstone, tombstoned, UInt64.and_assoc, h, hbits, show tombstoneBit ≠ 0 by decide]

@[simp] theorem truncated_markWritten (w : SlotWord) : w.markWritten.truncated = w.truncated := by
  rw [truncated, truncated, markWritten, or_and_of_and_eq_zero (by decide)]

@[simp] theorem truncated_tombstoned (w : SlotWord) : w.tombstoned.truncated = w.truncated := by
  have hmask : ~~~writtenBit &&& hashMask = hashMask := by decide
  rw [truncated, truncated, tombstoned, UInt64.and_assoc, hmask,
    or_and_of_and_eq_zero (by decide)]

/-- Whether a value was written plays no part in the comparison with a hash. -/
@[simp] theorem agrees_markWritten (w : SlotWord) (hash : UInt64) :
    w.markWritten.agrees hash = w.agrees hash := by
  rw [agrees, agrees, markWritten, or_and_of_and_eq_zero (by decide)]

@[simp] theorem markWritten_markWritten (w : SlotWord) :
    w.markWritten.markWritten = w.markWritten := by
  simp [markWritten, UInt64.or_assoc]

/-- A word that agrees with a hash is live. -/
theorem isTombstone_eq_false_of_agrees {w : SlotWord} {hash : UInt64} (h : w.agrees hash = true) :
    w.isTombstone = false := by
  have hbits : w.bits &&& ~~~writtenBit = hash &&& hashMask := by simpa [agrees] using h
  have hmask : ~~~writtenBit &&& tombstoneBit = tombstoneBit := by decide
  have hzero : hashMask &&& tombstoneBit = 0 := by decide
  have htomb : w.bits &&& tombstoneBit = 0 := by
    rw [← hmask, ← UInt64.and_assoc, hbits, UInt64.and_assoc, hzero, UInt64.and_zero]
  simp [isTombstone, htomb]

theorem agrees_live_self (hash : UInt64) : (live hash).agrees hash = true := by
  simp [agrees_live]

end SlotWord

end ByteTable
