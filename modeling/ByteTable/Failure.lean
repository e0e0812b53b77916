/-!
# How an operation can fail

Two kinds of failure are kept apart.  A `TableError` is an answer that callers are promised to
get: the request for zero buckets, or memory that could not be reserved.  A `Crash` is a broken
promise, found by a check inside the table: an operation on sizes that do not fit a machine word,
a slot that does not exist, a key of the wrong length.  A table that is used as intended never
crashes, and keeping the two apart lets a theorem say so.

Sizes and indices are natural numbers here.  Where the machine's 64 bits can be exceeded by an
input, the sum is formed by `addSizes`, which crashes instead of wrapping, or the sum or product is
cut off at the largest word by `saturate`.
-/

namespace ByteTable

/-- The errors a caller is promised. -/
inductive TableError where
  /-- A table needs at least one bucket; `got` were asked for. -/
  | invalidBucketCount (got : Nat)
  /-- A buffer would have to be larger than memory allows. -/
  | allocation
  deriving DecidableEq

namespace TableError

/-- The wording of an error. -/
def message : TableError → String
  | .invalidBucketCount got => s!"bucket count must be at least 1 (got {got})"
  | .allocation =>
    "failed to reserve bucket storage: memory allocation failed because " ++
      "the computed capacity exceeded the collection's maximum"

end TableError

/-- The checks that only a misuse, or a size beyond the machine's, can trip. -/
inductive Crash where
  /-- A key whose length is not the table's key size. -/
  | keySize
  /-- A value whose length is not the table's value size. -/
  | valueSize
  /-- An element appended to a column of another element size. -/
  | elementSize
  /-- Bytes copied into a place of another length. -/
  | copyLength
  /-- A bucket or slot that does not exist. -/
  | outOfBounds
  /-- A sum, difference or count that leaves the 64-bit range. -/
  | overflow
  /-- A bucket was to be chosen among zero buckets. -/
  | divisionByZero
  /-- The columns of one bucket differ in length. -/
  | columnsDiffer
  /-- A rebuild that did not keep the number of live slots. -/
  | liveCountChanged
  /-- A storage whose bucket count differs from the one it was rehashed to. -/
  | bucketCountDiffers
  deriving DecidableEq

namespace Crash

/-- The wording of those checks that have one. -/
def message? : Crash → Option String
  | .keySize => some "key size mismatch"
  | .valueSize => some "value size mismatch"
  | .elementSize => some "element size mismatch"
  | _ => none

end Crash

/-- Why an operation did not give an answer. -/
inductive Failure where
  /-- An error that callers are promised. -/
  | error (cause : TableError)
  /-- A failed check. -/
  | crash (cause : Crash)
  deriving DecidableEq

/-- One more than the largest number of a machine word. -/
def wordLimit : Nat :=
  0x10000000000000000

/-- The sum of two sizes, which must fit a machine word. -/
def addSizes (a b : Nat) : Except Crash Nat :=
  if a + b < wordLimit then .ok (a + b) else .error .overflow

theorem addSizes_of_lt {a b : Nat} (h : a + b < wordLimit) : addSizes a b = .ok (a + b) :=
  if_pos h

theorem addSizes_of_le {a b : Nat} (h : wordLimit ≤ a + b) :
    addSizes a b = .error .overflow :=
  if_neg (Nat.not_lt.mpr h)

/-- A number as machine arithmetic gives it that stops at the largest word. -/
def saturate (n : Nat) : Nat :=
  min n (wordLimit - 1)

theorem saturate_le (n : Nat) : saturate n ≤ n :=
  Nat.min_le_left _ _

end ByteTable
