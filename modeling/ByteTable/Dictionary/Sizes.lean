import ByteTable.Single

/-!
# Growth

When a dictionary grows, and to what.  It grows before an insertion that finds three keys or more
to every four buckets, to the next size of a fixed list; past the end of the list it stays as it
is.  A hint of the number of keys to expect picks the size to begin with.
-/

namespace ByteTable

namespace Growth

/-- The bucket counts that a dictionary steps through. -/
def sizes : Array Nat := #[
  3, 6, 11, 19, 32, 52, 85, 118,
  155, 237, 390, 672, 1065, 1732, 2795, 4543,
  7391, 12019, 19302, 31324, 50629, 81956, 132580, 214215,
  346784, 561026, 907847, 1468567, 2376414, 3844982, 6221390, 10066379,
  16287773, 26354132, 42641916, 68996399, 111638327, 180634415, 292272755, 472907503]

/-- The load factor from which on an insertion first grows the table: 0.75. -/
def threshold : Single := ⟨0xc00000, -24⟩

/-- The first size above a bucket count, or that bucket count if there is none. -/
def next (bucketCount : Nat) : Nat :=
  (sizes.find? (bucketCount < ·)).getD bucketCount

end Growth

/-- How many keys to expect in a dictionary. -/
inductive SizeHint where
  | small
  | medium
  | large
  deriving DecidableEq

/-- The bucket count to begin with. -/
def SizeHint.bucketCount : SizeHint → Nat
  | .small => 3
  | .medium => 118
  | .large => 1065

/-- What to expect when nothing is known. -/
def SizeHint.default : SizeHint := .small

end ByteTable
