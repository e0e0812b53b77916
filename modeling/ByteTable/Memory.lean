/-!
# Memory

A table keeps its contents in buffers: one directory for each kind of chain, and for each bucket
one chain of each kind.  A buffer grows only after memory for it has been reserved, and a
reservation can be refused.

`Memory` says how many bytes each buffer may have.  No buffer may exceed half of the address
space, whatever the memory; the memory `Memory.full` refuses nothing else.  An operation takes the
memory it runs on as an argument, so a statement about all memories speaks of a refusal at every
reservation that the operation makes.

What was reserved is not remembered.  A buffer has a length here, and no capacity; a reservation is
granted or refused by the limit of its own operation, and changes nothing.  One that asks for no
more than an earlier, granted one is granted too as long as the limit has not become smaller.  Under
a smaller limit it may be refused, where a machine would find the memory in the buffer already; a
statement about all memories covers both.
-/

namespace ByteTable

/-- What the chains of a table hold. -/
inductive Part where
  /-- Records: words, keys and values, or keys and values. -/
  | records
  /-- Words. -/
  | words
  /-- Keys. -/
  | keys
  /-- Values. -/
  | values
  deriving DecidableEq

/-- The buffers that a table reserves memory for. -/
inductive Buffer where
  /-- The directory of the chains of one kind. -/
  | directory (part : Part)
  /-- A bucket's chain of one kind. -/
  | chain (part : Part) (bucket : Nat)
  deriving DecidableEq

/-- No buffer is larger than this many bytes. -/
def maxBytes : Nat :=
  0x7fffffffffffffff

/-- How many bytes each buffer may have. -/
structure Memory where
  /-- The most bytes a buffer may have. -/
  limit : Buffer → Nat
  /-- No limit exceeds half of the address space. -/
  limit_le : ∀ buffer, limit buffer ≤ maxBytes

namespace Memory

/-- The memory that refuses only what no address space can hold. -/
def full : Memory :=
  ⟨fun _ => maxBytes, fun _ => Nat.le_refl _⟩

end Memory

end ByteTable
