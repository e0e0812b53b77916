import ByteTable.Failure
import ByteTable.Single
import ByteTable.Slot

/-!
# The log

Operations report what a caller cannot see in their answers: refused creations, handles that
point nowhere, rehashes and growth.  Each report is an `Event`, a value that says what happened;
its level and wording are functions of it, so that statements about the log need no text.
-/

namespace ByteTable

/-- How serious an event is. -/
inductive Level where
  | error
  | warn
  | debug
  | trace
  deriving DecidableEq

/-- The name of a level. -/
def Level.name : Level → String
  | .error => "ERROR"
  | .warn => "WARN"
  | .debug => "DEBUG"
  | .trace => "TRACE"

/-- What can be logged. -/
inductive Event where
  /-- A table with too few buckets was asked for. -/
  | tooFewBuckets (bucketCount : Nat)
  /-- The storage of a new table could not be created. -/
  | storageRefused (cause : TableError)
  /-- A slot lies too deep in its chain to have a handle. -/
  | unaddressable (bucketCount : Nat) (slot : Slot)
  /-- A value was written to a slot that is not live. -/
  | nothingToWrite (slot : Slot)
  /-- A slot was removed that is not live. -/
  | nothingToRemove (slot : Slot)
  /-- A table starts to rehash. -/
  | rehashing (old new live : Nat)
  /-- A storage moved its records in place. -/
  | movedInPlace (bucketCount : Nat)
  /-- A storage is about to be rebuilt. -/
  | rebuilding (bucketCount : Nat)
  /-- A dictionary is about to grow. -/
  | growing (loadFactor : Single) (old new : Nat)
  /-- A dictionary is due to grow but has no larger size. -/
  | noLargerSize (bucketCount : Nat)
  deriving DecidableEq

namespace Event

/-- The level of an event. -/
def level : Event → Level
  | .tooFewBuckets _ | .storageRefused _ => .error
  | .unaddressable _ _ | .nothingToWrite _ | .nothingToRemove _ => .warn
  | .rehashing _ _ _ | .movedInPlace _ | .rebuilding _ => .debug
  | .growing _ _ _ | .noLargerSize _ => .trace

/-- The wording of an event. -/
def message : Event → String
  | .tooFewBuckets n => s!"failed to create hash table: bucket count {n} < 1"
  | .storageRefused cause => "failed to create hash table backend: " ++ cause.message
  | .unaddressable n ⟨bucket, item⟩ =>
    s!"bucket {bucket} of {n} holds item {item}, " ++
      "beyond what an entry reference can address"
  | .nothingToWrite slot => "set_value_at: no live slot at " ++ describe slot
  | .nothingToRemove slot => "remove_at: no live slot at " ++ describe slot
  | .rehashing old new live => s!"rehash: {old} -> {new} buckets, {live} live"
  | .movedInPlace n => s!"rehash: records moved in place into {n} buckets"
  | .rebuilding n => s!"rehash: rebuilding into {n} buckets from enumeration"
  | .growing loadFactor old new =>
    "dictionary load factor " ++ loadFactor.twoDecimals ++
      s!", growing {old} -> {new} buckets"
  | .noLargerSize n => s!"dictionary at {n} buckets has no larger size to grow into"

/-- The log line of an event. -/
def line (event : Event) : String :=
  event.level.name ++ ": " ++ event.message

end Event

end ByteTable
