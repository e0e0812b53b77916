import ByteTable.Proofs.Dictionary.Growth
import ByteTable.Proofs.Single.Nearest
import ByteTable.Storage.Pinned

/-!
# The growth test is exact

With up to `2 ^ 23` buckets and fewer than `2 ^ 24` keys, a dictionary grows before an insertion
just if it has three keys or more to every four buckets, although the load factor is rounded
(`Dictionary.grows_by_count`).

Three quarters is a number of single precision, so a larger load factor is not rounded below it.  A
smaller one could be rounded up to it, and is so unless it is more than half of the last place,
`2 ^ -25`, away: halfway, the even significand is that of three quarters.  With `b` buckets it is
away by `1 / (4 * b)` at least, which is more than that as long as `b` is less than `2 ^ 23`.  At
`2 ^ 23` buckets it would be that half exactly, but there four times the number of keys cannot be
just one below three times the number of buckets, so that the gap is four times as wide
(`Growth.load_lt_of_lt`).

All this holds of any number that is the quotient rounded to the nearest one, however it was
computed (`Growth.lt_threshold_iff`).  What the test does at sizes that no memory could hold is seen
with a storage that only reports them (`Dictionary.bucketCount_reserve_pinned`).
-/

namespace ByteTable

/-! ## The test -/

namespace Growth

theorem fits_threshold : threshold.Fits := by
  rw [threshold, Single.Fits]
  norm_num

/-- The last number of single precision below the threshold. -/
def belowThreshold : Single := ⟨0xbfffff, -24⟩

theorem fits_belowThreshold : belowThreshold.Fits := by
  rw [belowThreshold, Single.Fits]
  norm_num

theorem value_belowThreshold : belowThreshold.value = 3 / 4 - 2 ^ (-24 : ℤ) := by
  rw [belowThreshold, Single.value]
  norm_num

variable {size bucketCount : Nat}

/-- A load below three quarters is so by more than half of the last place. -/
theorem load_lt_of_lt (hpos : 0 < bucketCount) (hcount : bucketCount ≤ 2 ^ 23)
    (h : 4 * size < 3 * bucketCount) : (size : ℚ) / bucketCount < 3 / 4 - 2 ^ (-25 : ℤ) := by
  have hgap : size * 2 ^ 25 < (3 * 2 ^ 23 - 1) * bucketCount := by
    rcases hcount.lt_or_eq with hless | rfl
    · omega
    · -- Three times the number of buckets is a multiple of four, so the gap is four at least.
      omega
  have hpos' : (0 : ℚ) < bucketCount := by exact_mod_cast hpos
  have hbound : (3 : ℚ) / 4 - 2 ^ (-25 : ℤ) = (3 * 2 ^ 23 - 1 : Nat) / (2 ^ 25 : Nat) := by norm_num
  rw [hbound, div_lt_div_iff₀ hpos' (by norm_num)]
  exact_mod_cast hgap

/-- The test on a load factor decides what the one on whole numbers does. -/
theorem lt_threshold_iff (hpos : 0 < bucketCount) (hcount : bucketCount ≤ 2 ^ 23) {load : Single}
    (hload : load.Rounds (size / bucketCount)) :
    load.lt threshold = true ↔ 4 * size < 3 * bucketCount := by
  have hpos' : (0 : ℚ) < bucketCount := by exact_mod_cast hpos
  rw [Single.lt_iff]
  constructor
  · intro hless
    by_contra hfull
    have hfull' : (3 : ℚ) * bucketCount ≤ size * 4 := by exact_mod_cast (by omega)
    have hquotient : threshold.value ≤ (size : ℚ) / bucketCount := by
      rwa [value_threshold, div_le_div_iff₀ four_pos hpos']
    exact (hload.le_value fits_threshold hquotient).not_gt hless
  · intro hroom
    have hgap := load_lt_of_lt hpos hcount hroom
    -- The number below the threshold is nearer than the threshold, on whichever side it lies.
    refine hload.value_lt fits_belowThreshold ?_
    rw [value_threshold, value_belowThreshold, abs_lt]
    norm_num at hgap ⊢
    linarith

/-- Counts that are not rounded leave only the quotient to round. -/
theorem ofNat_div_lt_threshold_iff (hpos : 0 < bucketCount) (hcount : bucketCount ≤ 2 ^ 23)
    (hsize : size < 2 ^ 24) :
    ((Single.ofNat size).div (Single.ofNat bucketCount)).lt threshold = true ↔
      4 * size < 3 * bucketCount := by
  have hload : ((Single.ofNat size).div (Single.ofNat bucketCount)).Rounds
      ((Single.ofNat size).value / (Single.ofNat bucketCount).value) :=
    Single.rounds_div_ofNat (by omega) hpos (by omega)
  rw [Single.value_ofNat hsize.le, Single.value_ofNat (by omega)] at hload
  exact lt_threshold_iff hpos hcount hload

/-- The bound is needed: with the next number of buckets of the list, a load just below three
quarters is rounded up to it. -/
example : 4 * 7549784 < 3 * 10066379 ∧
    ((Single.ofNat 7549784).div (Single.ofNat 10066379)).lt threshold = false := by
  decide +kernel

theorem lt_next_of_le (hcount : bucketCount ≤ 2 ^ 23) : bucketCount < next bucketCount := by
  rw [next]
  rcases hfound : sizes.find? (bucketCount < ·) with _ | larger
  · have hlast := Array.find?_eq_none.mp hfound 472907503 (by decide +kernel)
    rw [decide_eq_true_iff] at hlast
    omega
  · have hlarger := Array.find?_some hfound
    exact of_decide_eq_true hlarger

end Growth

/-! ## What a dictionary does -/

namespace Dictionary

section

variable {β : Type} [Storage β]

omit [Storage β] in
theorem run_onTable_congr {α : Type} {act act' : Action (Table β) α} {dictionary : Dictionary β}
    (h : act.run dictionary.table = act'.run dictionary.table) :
    (onTable act).run dictionary = (onTable act').run dictionary := by
  rw [onTable, onTable, Action.run_within rfl, Action.run_within rfl, h]

/-- An operation that may grow does what growing comes to, and then what the table does. -/
theorem run_perform_congr {op : Operation} (hgrow : op.mayGrow = true) {memory : Memory}
    {dictionary : Dictionary β} {act : Action (Table β) Unit}
    (h : (growIfNeeded memory).run dictionary.table = act.run dictionary.table) :
    (perform memory op).run dictionary =
      (onTable (act >>= fun _ => op.perform memory)).run dictionary := by
  rw [perform_eq, prepare, if_pos hgrow]
  refine run_onTable_congr ?_
  rw [Action.run_bind, Action.run_bind, h]

variable {dictionary : Dictionary β} (hpos : 1 ≤ dictionary.table.bucketCount)
  (hcount : dictionary.table.bucketCount ≤ 2 ^ 23) (hsize : dictionary.size < 2 ^ 24)
  {op : Operation} (hgrow : op.mayGrow = true) (memory : Memory)

include hpos hcount hsize in
theorem loadFactor_lt_iff :
    dictionary.table.loadFactor.lt Growth.threshold = true ↔
      4 * dictionary.size < 3 * dictionary.table.bucketCount :=
  Growth.ofNat_div_lt_threshold_iff hpos hcount hsize

include hpos hcount hsize hgrow

/-- With fewer than three keys to four buckets, nothing is done before an operation. -/
theorem run_perform_of_lt (hroom : 4 * dictionary.size < 3 * dictionary.table.bucketCount) :
    (perform memory op).run dictionary = (onTable (op.perform memory)).run dictionary := by
  have hload := (loadFactor_lt_iff hpos hcount hsize).mpr hroom
  rw [run_perform_congr hgrow (run_growIfNeeded_of_lt hload memory), pure_bind]

/-- With three keys or more to four buckets, the table is rehashed to the next size before an
operation. -/
theorem run_perform_of_le (hfull : 3 * dictionary.table.bucketCount ≤ 4 * dictionary.size) :
    (perform memory op).run dictionary =
      (onTable do
        Action.note (.growing dictionary.table.loadFactor dictionary.table.bucketCount
          (Growth.next dictionary.table.bucketCount))
        Table.rehash memory (Growth.next dictionary.table.bucketCount)
        op.perform memory).run dictionary := by
  have hdue : ¬Settled dictionary.table := by
    rw [Settled, loadFactor_lt_iff hpos hcount hsize, not_or]
    exact ⟨Nat.not_lt.mpr hfull, (Growth.lt_next_of_le hcount).ne'⟩
  rw [run_perform_congr hgrow (run_growIfNeeded_eq hdue memory), bind_assoc]

end

/-- As long as there are `2 ^ 23` buckets at most, and fewer than `2 ^ 24` keys, the load factor is
the quotient of the two counts rounded three times to the nearest number, and it is below the
threshold just if four times the keys are fewer than three times the buckets.  If they are, then
setting or reserving a key is only that; if not, it is done once the table is rehashed to the next
size of the list, which is larger. -/
theorem grows_by_count {size bucketCount : Nat} (hpos : 1 ≤ bucketCount)
    (hcount : bucketCount ≤ 2 ^ 23) (hsize : size < 2 ^ 24) :
    ((Single.ofNat size).Rounds size ∧ (Single.ofNat bucketCount).Rounds bucketCount ∧
      ((Single.ofNat size).div (Single.ofNat bucketCount)).Rounds
        ((Single.ofNat size).value / (Single.ofNat bucketCount).value)) ∧
    (((Single.ofNat size).div (Single.ofNat bucketCount)).lt Growth.threshold = true ↔
      4 * size < 3 * bucketCount) ∧
    ∀ {β : Type} [Storage β] (dictionary : Dictionary β), dictionary.size = size →
      dictionary.table.bucketCount = bucketCount →
      ∀ memory op, op.mayGrow = true →
        (4 * size < 3 * bucketCount →
          (perform memory op).run dictionary = (onTable (op.perform memory)).run dictionary) ∧
        (3 * bucketCount ≤ 4 * size →
          bucketCount < Growth.next bucketCount ∧
          (perform memory op).run dictionary =
            (onTable do
              Action.note (.growing dictionary.table.loadFactor bucketCount
                (Growth.next bucketCount))
              Table.rehash memory (Growth.next bucketCount)
              op.perform memory).run dictionary) := by
  refine ⟨⟨?_, ?_, ?_⟩, Growth.ofNat_div_lt_threshold_iff hpos hcount hsize, ?_⟩
  · exact Single.rounds_ofNat (by omega)
  · exact Single.rounds_ofNat (by omega)
  · exact Single.rounds_div_ofNat (by omega) hpos (by omega)
  · rintro β _ dictionary rfl rfl memory op hgrow
    constructor
    · exact run_perform_of_lt hpos hcount hsize hgrow memory
    · intro hfull
      exact ⟨Growth.lt_next_of_le hcount, run_perform_of_le hpos hcount hsize hgrow memory hfull⟩

/-- A dictionary that reports a number of keys and of buckets. -/
def reporting (size bucketCount : Nat) : Dictionary Pinned :=
  ⟨⟨.standard 1 1, bucketCount, ⟨size, bucketCount, ⟨0, 0⟩⟩⟩⟩

theorem moves_reserve_pinned (memory : Memory) (key : Bytes) :
    (Table.reserve memory key : Action (Table Pinned) (Option Handle × Bool)).Moves Eq := by
  rw [Table.reserve]
  refine (Action.Moves.read _).bind fun _ => ?_
  refine (Action.Moves.of_state_eq fun table => rfl).bind fun reservation => ?_
  exact (Action.Moves.read _).bind fun bucketCount =>
    (Handle.moves_pack bucketCount reservation.slot).bind fun handle? => .pure _

/-- Whatever counts a pinned storage reports, also those that no memory could hold, reserving a key
leads to the next size of the list unless the load factor is below the threshold. -/
theorem bucketCount_reserve_pinned (dictionary : Dictionary Pinned) (memory : Memory)
    (key : Bytes) :
    ((perform memory (.reserve key)).run dictionary).state.table.bucketCount =
      if dictionary.table.loadFactor.lt Growth.threshold then dictionary.table.bucketCount
      else Growth.next dictionary.table.bucketCount := by
  have hreserve (table : Table Pinned) :
      (((Operation.reserve key).perform memory).run table).state = table := by
    rw [Operation.state_run_perform (Operation.perform_reserve memory key)]
    exact (moves_reserve_pinned memory key table).symm
  have hprepare : prepare memory (.reserve key) =
      (growIfNeeded memory : Action (Table Pinned) Unit) := if_pos rfl
  rw [perform_eq, table_run_onTable, hprepare, Action.run_bind]
  generalize dictionary.table = table
  by_cases hload : table.loadFactor.lt Growth.threshold
  · rw [if_pos hload, run_growIfNeeded_of_lt hload, Action.run_pure, Outcome.andThen, hreserve]
  rw [if_neg hload]
  by_cases hnext : Growth.next table.bucketCount = table.bucketCount
  · obtain ⟨log, hrun⟩ := run_growIfNeeded_of_settled (.inr hnext) memory
    rw [hrun, Outcome.andThen, hreserve, hnext]
  · obtain ⟨log, hrun⟩ := run_growIfNeeded_of_not_settled (not_or.mpr ⟨hload, hnext⟩) memory
    have hpos : 0 < Growth.next table.bucketCount := Nat.zero_lt_of_lt (Growth.lt_next_of_ne hnext)
    obtain ⟨log', hrehash⟩ := Table.run_rehash_of_ok hpos
      (show (Storage.rehash memory table.policy _).run table.storage = ⟨.ok (), _, _⟩ from rfl) rfl
    rw [hrun, hrehash, Outcome.andThen, hreserve]

/-- With more than `2 ^ 24` keys, a table that is three quarters full may be left as it is: the
number of its keys is rounded down. -/
example : 3 * 22369628 ≤ 4 * 16777221 ∧
    ((perform Memory.full (.reserve [1])).run
      (reporting 16777221 22369628)).state.table.bucketCount = 22369628 := by
  decide +kernel

/-- With one bucket less than `2 ^ 23`, four times the keys are one fewer than three times the
buckets at 6291455 keys.  A key is reserved without growing then, and with growing once there is one
key more. -/
theorem grows_by_count_around_three_quarters :
    4 * 6291455 + 1 = 3 * (2 ^ 23 - 1) ∧
      ((Single.ofNat 6291455).div (Single.ofNat (2 ^ 23 - 1))).lt Growth.threshold = true ∧
      ((Single.ofNat 6291456).div (Single.ofNat (2 ^ 23 - 1))).lt Growth.threshold ≠ true ∧
      ((perform Memory.full (.reserve [1])).run
        (reporting 6291455 (2 ^ 23 - 1))).state.table.bucketCount = 2 ^ 23 - 1 ∧
      ((perform Memory.full (.reserve [1])).run
        (reporting 6291456 (2 ^ 23 - 1))).state.table.bucketCount = 10066379 := by
  have hbuckets : 1 ≤ 2 ^ 23 - 1 ∧ 2 ^ 23 - 1 ≤ 2 ^ 23 := by decide
  obtain ⟨-, hbelow, hstays⟩ :=
    grows_by_count hbuckets.1 hbuckets.2 (by decide : 6291455 < 2 ^ 24)
  obtain ⟨-, habove, hgrows⟩ :=
    grows_by_count hbuckets.1 hbuckets.2 (by decide : 6291456 < 2 ^ 24)
  refine ⟨by decide, hbelow.mpr (by decide), habove.not.mpr (by decide), ?_, ?_⟩
  · rw [(hstays (reporting _ _) rfl rfl Memory.full (.reserve [1]) rfl).1 (by decide)]
    decide +kernel
  · rw [((hgrows (reporting _ _) rfl rfl Memory.full (.reserve [1]) rfl).2 (by decide)).2]
    decide +kernel

end Dictionary

end ByteTable
