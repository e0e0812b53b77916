import ByteTable.Action

/-!
# Directories

A directory has one place per bucket, and each place is empty until the bucket is first used.
Memory for all places is reserved when the directory is made, `entryBytes` for each.

`openChain` creates a bucket's chain if it has none yet, and `onChain` runs an action on a chain.  A
bucket that the directory does not have is a crash, as is an action on a chain that was never
created.
-/

namespace ByteTable

/-- One place per bucket, empty until the bucket is first used. -/
structure Directory (γ : Type) where
  /-- The places. -/
  chains : Array (Option γ)
  deriving DecidableEq

namespace Directory

variable {γ α : Type}

/-- A directory of empty places, if `limit` bytes suffice for it. -/
def create (limit entryBytes bucketCount : Nat) : Except TableError (Directory γ) :=
  if entryBytes * bucketCount ≤ limit then .ok ⟨Array.replicate bucketCount none⟩
  else .error .allocation

/-- The number of buckets. -/
def size (d : Directory γ) : Nat :=
  d.chains.size

/-- The chain of a bucket, which must be one of the directory's; none if it was never used. -/
def chain? (d : Directory γ) (bucket : Nat) : Except Crash (Option γ) :=
  match d.chains[bucket]? with
  | some chain => .ok chain
  | none => .error .outOfBounds

/-- The chain of a bucket, which must have been created. -/
def chain (d : Directory γ) (bucket : Nat) : Except Crash γ := do
  match ← d.chain? bucket with
  | some chain => return chain
  | none => throw .outOfBounds

/-- Create the chain of a bucket if there is none. -/
def openChain (bucket : Nat) (fresh : Except TableError γ) : Action (Directory γ) Unit := do
  match ← Action.read (chain? · bucket) with
  | some _ => return ()
  | none =>
    let chain ← fresh
    Action.modify fun d => ⟨d.chains.setIfInBounds bucket (some chain)⟩

/-- Run an action on the chain of a bucket. -/
def onChain (bucket : Nat) (act : Action γ α) : Action (Directory γ) α := fun d =>
  match d.chain bucket with
  | .ok chain =>
    match d with
    | ⟨chains⟩ =>
      let others := chains.setIfInBounds bucket none
      match act chain with
      | ⟨answer, chain', log⟩ => ⟨answer, ⟨others.setIfInBounds bucket (some chain')⟩, log⟩
  | .error cause => Action.crash cause d

/-- The chains in bucket order, leaving out the buckets never used. -/
def toList (d : Directory γ) : List γ :=
  d.chains.toList.filterMap id

/-! ## Small laws -/

/-- The places of a directory are numbered without gaps from zero. -/
theorem chain?_eq_error_iff {d : Directory γ} {bucket : Nat} :
    d.chain? bucket = .error .outOfBounds ↔ d.size ≤ bucket := by
  by_cases h : bucket < d.chains.size
  · simp [chain?, size, h]
  · simp [chain?, size, Nat.not_lt.mp h]

/-- An action on a chain, whether it fails or not, leaves the number of places as it is. -/
@[simp] theorem size_onChain (bucket : Nat) (act : Action γ α) (d : Directory γ) :
    ((onChain bucket act).run d).state.size = d.size := by
  simp only [Action.run, onChain]
  cases d.chain bucket <;> simp [size, Action.crash, Action.fail]

instance [Describe γ] : Describe (Directory γ) :=
  ⟨fun d => describe d.chains⟩

end Directory

end ByteTable
