import ByteTable.Description

/-!
# The word of a slot

Each slot carries one 64-bit word.  Its low 62 bits are the truncated hash of the slot's key, a
cheap test before keys are compared.  The two bits above hold the slot's state: bit 62 is set once
a value has been written, bit 63 marks a tombstone, a slot whose key was removed.

A fresh slot is `SlotWord.live` of its key's hash.  Tombstoning clears the written bit, so a slot
is in one of three states: reserved, written, tombstone.  `agrees_live` says that the word of a
fresh slot agrees with a hash exactly when the truncated hashes are the same.
-/

namespace ByteTable

/-- The word of a slot: a truncated hash below two bits of state. -/
structure SlotWord where
  /-- The 64 bits. -/
  bits : UInt64
  deriving DecidableEq

namespace SlotWord

/-- The bit that marks a tombstone. -/
def tombstoneBit : UInt64 := 0x8000000000000000

/-- The bit that marks a written value. -/
def writtenBit : UInt64 := 0x4000000000000000

/-- The bits that hold the truncated hash. -/
def hashMask : UInt64 := 0x3fffffffffffffff

/-- The word of a fresh slot for a key with the given hash: live, no value written. -/
def live (hash : UInt64) : SlotWord :=
  ⟨hash &&& hashMask⟩

/-- The word once a value has been written. -/
def markWritten (w : SlotWord) : SlotWord :=
  ⟨w.bits ||| writtenBit⟩

/-- The word of the same slot after its key was removed. -/
def tombstoned (w : SlotWord) : SlotWord :=
  ⟨(w.bits ||| tombstoneBit) &&& ~~~writtenBit⟩

/-- Whether the slot's key was removed. -/
def isTombstone (w : SlotWord) : Bool :=
  w.bits &&& tombstoneBit != 0

/-- Whether the slot's value has been written. -/
def isWritten (w : SlotWord) : Bool :=
  w.bits &&& writtenBit != 0

/-- Whether a live slot carries the truncation of this hash.  The tombstone bit takes part in the
comparison, so a tombstone agrees with no hash. -/
def agrees (w : SlotWord) (hash : UInt64) : Bool :=
  w.bits &&& ~~~writtenBit == hash &&& hashMask

/-- The truncated hash. -/
def truncated (w : SlotWord) : UInt64 :=
  w.bits &&& hashMask

/-- The lower-case hexadecimal digits of a word, without leading zeroes. -/
def hexText (w : UInt64) : String :=
  "0x" ++ String.ofList (Nat.toDigits 16 w.toNat)

instance : Describe SlotWord :=
  ⟨fun w => Description.record "SlotHash"
    [("hash", hexText w.truncated), ("initialized", describe w.isWritten),
      ("tombstoned", describe w.isTombstone)]⟩

/-! ## Small laws -/

@[simp] theorem isTombstone_live (hash : UInt64) : (live hash).isTombstone = false := by
  have h : hashMask &&& tombstoneBit = 0 := by decide
  simp [isTombstone, live, UInt64.and_assoc, h]

@[simp] theorem isWritten_live (hash : UInt64) : (live hash).isWritten = false := by
  have h : hashMask &&& writtenBit = 0 := by decide
  simp [isWritten, live, UInt64.and_assoc, h]

@[simp] theorem isWritten_markWritten (w : SlotWord) : w.markWritten.isWritten = true := by
  have h : (w.bits ||| writtenBit) &&& writtenBit = writtenBit := by
    apply UInt64.toBitVec_inj.1
    ext i
    simpa using Or.inr
  simp [isWritten, markWritten, h, show writtenBit ≠ 0 by decide]

@[simp] theorem isWritten_tombstoned (w : SlotWord) : w.tombstoned.isWritten = false := by
  have h : ~~~writtenBit &&& writtenBit = 0 := by decide
  simp [isWritten, tombstoned, UInt64.and_assoc, h]

/-- The word of a fresh slot agrees with a hash when the truncations are the same. -/
theorem agrees_live (stored hash : UInt64) :
    (live stored).agrees hash = (stored &&& hashMask == hash &&& hashMask) := by
  have h : hashMask &&& ~~~writtenBit = hashMask := by decide
  simp [agrees, live, UInt64.and_assoc, h]

end SlotWord

end ByteTable
