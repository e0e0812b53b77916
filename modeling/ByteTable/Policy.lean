import ByteTable.Bytes
import ByteTable.Description
import ByteTable.Failure

/-!
# Policies

A table does not decide for itself when two keys are the same, nor where a key goes.  Its `Policy`
says how long keys and values are, how a key is hashed, and how a key that is looked up is
compared with a stored one.

By default a key's hash is its first eight bytes read as a word, and two keys are the same when
their bytes are.  Any function can stand in for either.  `Comparator.equal query stored` is given
the key that is looked up first; a comparator need not be symmetric, nor respect the hash.
-/

namespace ByteTable

/-- How keys are hashed. -/
inductive Hasher where
  /-- The first eight bytes of the key as a word, padded with zeroes. -/
  | structural
  /-- Any function. -/
  | custom (hash : Bytes → UInt64)

/-- The default hash: the first eight bytes of a key, least significant first. -/
def structuralHash (key : Bytes) : UInt64 :=
  Bytes.toWord (key.take 8)

namespace Hasher

/-- The hash of a key. -/
def hash : Hasher → Bytes → UInt64
  | structural, key => structuralHash key
  | custom f, key => f key

instance : Describe Hasher :=
  ⟨fun
    | structural => "Structural"
    | custom _ => "Custom(..)"⟩

end Hasher

/-- How keys are compared. -/
inductive Comparator where
  /-- Keys are the same when their bytes are. -/
  | bytewise
  /-- Any relation of a key looked up and a stored key. -/
  | custom (equal : Bytes → Bytes → Bool)

namespace Comparator

/-- Whether a key looked up is the same as a stored key. -/
def equal : Comparator → Bytes → Bytes → Bool
  | bytewise, query, stored => query == stored
  | custom f, query, stored => f query stored

instance : Describe Comparator :=
  ⟨fun
    | bytewise => "Bytewise"
    | custom _ => "Custom(..)"⟩

end Comparator

/-- The sizes of a table's keys and values, and how its keys are hashed and compared. -/
structure Policy where
  /-- The length of every key. -/
  keySize : Nat
  /-- The length of every value. -/
  valueSize : Nat
  /-- How keys are hashed. -/
  hasher : Hasher
  /-- How keys are compared. -/
  comparator : Comparator

namespace Policy

/-- The policy with the default hash and comparison. -/
def standard (keySize valueSize : Nat) : Policy :=
  ⟨keySize, valueSize, .structural, .bytewise⟩

/-- The hash of a key. -/
def hash (policy : Policy) (key : Bytes) : UInt64 :=
  policy.hasher.hash key

/-- Whether a key looked up is the same as a stored key. -/
def keysEqual (policy : Policy) (query stored : Bytes) : Bool :=
  policy.comparator.equal query stored

/-- The bucket of a key with this hash among `bucketCount`, which must not be zero. -/
def bucketOf (hash : UInt64) (bucketCount : Nat) : Except Crash Nat :=
  if bucketCount = 0 then .error .divisionByZero else .ok (hash.toNat % bucketCount)

instance : Describe Policy :=
  ⟨fun policy => Description.record "KeyPolicy"
    [("key_size", describe policy.keySize), ("value_size", describe policy.valueSize),
      ("hasher", describe policy.hasher), ("comparator", describe policy.comparator)]⟩

end Policy

end ByteTable
