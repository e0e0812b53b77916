import ByteTable.Policy

/-!
# Stock hashers and comparators

Ready-made functions to hash and compare keys with.  Some serve real keys, such as `Hasher.fnv`
and `Comparator.ignoringCase`; the others are deliberately poor or inconsistent, and exercise the
tables: a constant hash puts all keys in one bucket, and `Comparator.notAbove` is not even
symmetric.
-/

namespace ByteTable

namespace Hasher

/-- The first byte of the key. -/
def firstByte : Hasher :=
  custom fun key => (key.headD 0).toUInt64

/-- The sum of the key's bytes. -/
def byteSum : Hasher :=
  custom fun key => key.foldl (fun sum b => sum + b.toUInt64) 0

/-- The first eight bytes of the key, most significant first. -/
def bigEndian : Hasher :=
  custom fun key => Bytes.toWord (Bytes.ofWord (structuralHash key)).reverse

/-- The same hash for every key. -/
def constant (hash : UInt64) : Hasher :=
  custom fun _ => hash

/-- The default hash with some bits flipped. -/
def masked (mask : UInt64) : Hasher :=
  custom fun key => structuralHash key ^^^ mask

/-- The default hash reduced by a modulus. -/
def reduced (modulus : UInt64) : Hasher :=
  custom fun key => structuralHash key % modulus

/-- One step of the 64-bit FNV-1a hash. -/
def fnvStep (hash : UInt64) (b : UInt8) : UInt64 :=
  (hash ^^^ b.toUInt64) * 0x100000001b3

/-- The 64-bit FNV-1a hash of a byte string. -/
def fnvHash (bs : Bytes) : UInt64 :=
  bs.foldl fnvStep 0xcbf29ce484222325

/-- The FNV-1a hash of the key. -/
def fnv : Hasher :=
  custom fnvHash

/-- The FNV-1a hash of the key behind its length as eight bytes, which tells a key from the
beginning of a longer one. -/
def fnvWithLength : Hasher :=
  custom fun key => fnvHash (Bytes.ofNat 8 key.length ++ key)

end Hasher

namespace Comparator

/-- Both keys are empty, or they begin with the same byte. -/
def sameFirstByte : Comparator :=
  custom fun query stored => query.head? == stored.head?

/-- Every key is the same as every other. -/
def always : Comparator :=
  custom fun _ _ => true

/-- No key is the same as any, not even as itself. -/
def never : Comparator :=
  custom fun _ _ => false

/-- The key looked up does not come after the stored one. -/
def notAbove : Comparator :=
  custom Bytes.le

/-- The lower-case form of an ASCII letter; other bytes stay as they are. -/
def lowerByte (b : UInt8) : UInt8 :=
  if 65 ≤ b ∧ b ≤ 90 then b + 32 else b

/-- The keys differ at most in the case of ASCII letters. -/
def ignoringCase : Comparator :=
  custom fun query stored => query.map lowerByte == stored.map lowerByte

end Comparator

end ByteTable
