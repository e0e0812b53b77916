import ByteTable.Proofs.Buckets.HighWater
import ByteTable.Proofs.Buckets.Redeal
import ByteTable.Proofs.Chains.Walk
import ByteTable.Proofs.Table.Invariant

/-!
# Buckets as high-water marks

The slots of a bucket are never given back before the next rehash.  How many there are is
nevertheless bounded by what was needed: the length of a bucket is the largest number of its slots
that were live at one time, over all states since the table was created or last rehashed.

`Table.Period` carries those states along.  A rehash that answers starts a new period; everything
else goes on with the present one, and so does a rehash that fails, since it leaves what was there.
The step is `Buckets.Rises`, and `Period.exists_shows` adds the steps up to the maximum over the
period.  `Period.highWater` reads it off the layout.
-/

namespace ByteTable

/-- Every operation that does not deal the live slots again lets buckets rise only as it must. -/
theorem Operation.rises_after {policy : Policy} {bs : Buckets} {op : Operation}
    (hop : ∀ bucketCount, op ≠ .rehash bucketCount) (hpos : 0 < bs.length) :
    bs.Rises (op.after policy bs) := by
  cases op with
  | insert key value => exact (Buckets.Rises.reserve hpos policy key).write _ value
  | reserve key => exact .reserve hpos policy key
  | erase key =>
    simp only [after, Buckets.erase]
    split
    · exact .update bs _ _
    · exact .refl bs
  | assign handle value =>
    simp only [after, Buckets.assign]
    split
    · exact .update bs _ _
    · exact .refl bs
  | discard handle =>
    simp only [after, Buckets.discard]
    split
    · exact .update bs _ _
    · exact .refl bs
  | rehash bucketCount => exact absurd rfl (hop bucketCount)
  | _ => exact .refl bs

/-- Whether an operation was a rehash that did its work. -/
def Operation.Rehashed {σ : Type} (op : Operation) (outcome : Outcome σ Reply) : Prop :=
  (∃ bucketCount, op = .rehash bucketCount) ∧ outcome.answer.isOk = true

theorem Operation.not_rehashed {σ : Type} {op : Operation} {outcome : Outcome σ Reply}
    (hop : ∀ bucketCount, op ≠ .rehash bucketCount) : ¬op.Rehashed outcome := by
  rintro ⟨⟨bucketCount, hrehash⟩, -⟩
  exact hop bucketCount hrehash

section

variable {β : Type} [Storage β]

/-- A table and its earlier states since it was created or last rehashed, the latest first.  Each
step starts where the counter has room for one more live slot, as it always has in an address space
of `2 ^ 64` bytes. -/
inductive Table.Period (policy : Policy) : Table β → List (Table β) → Prop where
  /-- A new table. -/
  | created {memory : Memory} {bucketCount : Nat} {table : Table β} {log : List Event}
    (h : (create memory policy bucketCount : Action Unit (Table β)).run () =
      ⟨.ok table, (), log⟩) : Period policy table []
  /-- A rehash, which ends the period. -/
  | rehashed {table : Table β} {past : List (Table β)} (h : Period policy table past)
    (hroom : table.size + 1 < wordLimit) (memory : Memory) (op : Operation)
    (hop : op.Rehashed ((op.perform memory).run table)) :
    Period policy ((op.perform memory).run table).state []
  /-- Any other operation, whether it answered or not. -/
  | step {table : Table β} {past : List (Table β)} (h : Period policy table past)
    (hroom : table.size + 1 < wordLimit) (memory : Memory) (op : Operation)
    (hop : ¬op.Rehashed ((op.perform memory).run table)) :
    Period policy ((op.perform memory).run table).state (table :: past)

variable [LawfulStorage β] {policy : Policy} {bs : Buckets} {table : Table β}
  {past : List (Table β)}

/-- Unless it is a rehash that does its work, an operation lets the buckets rise only as they
must. -/
theorem Table.Shows.exists_rises (h : table.Shows policy bs) (hroom : table.size + 1 < wordLimit)
    {memory : Memory} {op : Operation} (hop : ¬op.Rehashed ((op.perform memory).run table)) :
    ∃ bs', ((op.perform memory).run table).state.Shows policy bs' ∧ bs.Rises bs' := by
  have hends := op.run_perform h memory
  have hpos := LawfulSlotStorage.length_pos h.storage
  have hsize : table.size = bs.liveCount := LawfulSlotStorage.size_eq h.storage
  cases hanswer : ((op.perform memory).run table).answer.isOk with
  | true =>
    refine ⟨_, (hends.shows_after hanswer).2, op.rises_after ?_ hpos⟩
    intro bucketCount hrehash
    exact hop ⟨⟨bucketCount, hrehash⟩, hanswer⟩
  | false => exact ⟨bs, hends.shows_before hpos (hsize ▸ hroom) hanswer, .refl bs⟩

/-- A rehash that did its work leaves as many slots in each bucket as are live. -/
theorem Operation.Ends.exists_liveIn_eq {op : Operation} {outcome : Outcome (Table β) Reply}
    (h : op.Ends policy bs outcome) (hop : op.Rehashed outcome) :
    ∃ bs', outcome.state.Shows policy bs' ∧
      ∀ bucket, bs'.liveIn bucket = (bs'.row bucket).length := by
  obtain ⟨⟨bucketCount, rfl⟩, hanswer⟩ := hop
  obtain ⟨hfault, hshows⟩ := h.shows_after hanswer
  refine ⟨_, hshows, Buckets.liveIn_eq_length_row fun record hrecord => ?_⟩
  exact Buckets.isLive_of_mem_spread (pos_of_fault?_rehash hfault) hrecord

/-- All states of a period show buckets, equally many, and each bucket is as long as the largest
number of its slots that are live in one of them. -/
theorem Table.Period.exists_shows (h : Period policy table past) :
    ∃ bs before, table.Shows policy bs ∧
      List.Forall₂ (fun state bs' => state.Shows policy bs') past before ∧
      (∀ bs' ∈ before, bs'.length = bs.length) ∧
      ∀ bucket, ((bs :: before).map (Buckets.liveIn · bucket)).max? =
        some (bs.row bucket).length := by
  induction h with
  | @created memory bucketCount table log hcreate =>
    have hlive : ∀ bucket, (Buckets.empty bucketCount).liveIn bucket =
        ((Buckets.empty bucketCount).row bucket).length :=
      Buckets.liveIn_eq_length_row (by simp [Buckets.empty])
    refine ⟨_, [], shows_of_run_create hcreate, .nil, by simp, ?_⟩
    intro bucket
    simp [hlive]
  | @rehashed table past _ _ memory op hop ih =>
    obtain ⟨bs, -, hshows, -⟩ := ih
    obtain ⟨bs', hshows', hlive⟩ := (op.run_perform hshows memory).exists_liveIn_eq hop
    refine ⟨bs', [], hshows', .nil, by simp, ?_⟩
    intro bucket
    simp [hlive]
  | @step table past _ hroom memory op hop ih =>
    obtain ⟨bs, before, hshows, hpast, hlength, hmax⟩ := ih
    obtain ⟨bs', hshows', hrises⟩ := hshows.exists_rises hroom hop
    refine ⟨bs', bs :: before, hshows', .cons hshows hpast, ?_, fun bucket => ?_⟩
    · intro earlier hearlier
      rw [hrises.length_eq]
      rcases List.mem_cons.mp hearlier with rfl | hearlier
      · rfl
      · exact hlength earlier hearlier
    · rw [List.map_cons, List.max?_cons, hmax bucket, hrises.length_row_eq bucket, Nat.max_comm]
      rfl

end

/-! ## Read off the layout -/

section

variable {kind : LayoutKind} {policy : Policy} {bs : Buckets} {table : Table (Chains kind.Store)}
  {past : List (Table (Chains kind.Store))} {bucket : Nat}

/-- The number of slots of a bucket that are live. -/
def Table.liveIn {L : Type} [Layout L] (table : Table (Chains L)) (bucket : Nat) :
    Except Crash Nat :=
  return (← Layout.liveItems table.storage.layout bucket).length

theorem Buckets.length_filter_rowSlots (bs : Buckets) (bucket : Nat) :
    ((bs.rowSlots bucket).filter bs.isLiveAt).length = bs.liveIn bucket := by
  rw [liveIn, ← filterMap_rowSlots bs bucket, List.countP_filterMap, List.countP_eq_length_filter]
  congr 2
  funext slot
  rw [isLiveAt, live?]
  rcases bs.at? slot with _ | record
  · rfl
  · by_cases hlive : record.isLive <;> simp [Option.filter_some, hlive]

theorem Table.Shows.liveIn_eq (h : table.Shows policy bs) (hbucket : bucket < bs.length) :
    table.liveIn bucket = .ok (bs.liveIn bucket) := by
  rw [Table.liveIn, Layout.liveItems_eq h.chains.layout hbucket, ok_bind,
    Buckets.length_filter_rowSlots]
  rfl

theorem Table.mapM_liveIn_eq {states : List (Table (Chains kind.Store))} {buckets : List Buckets}
    (h : List.Forall₂ (fun state bs => state.Shows policy bs) states buckets)
    (hbucket : ∀ bs ∈ buckets, bucket < bs.length) :
    states.mapM (Table.liveIn · bucket) = .ok (buckets.map (Buckets.liveIn · bucket)) := by
  induction h with
  | nil => rfl
  | cons hshows _ ih =>
    rw [List.mapM_cons, hshows.liveIn_eq (hbucket _ List.mem_cons_self), ok_bind,
      ih fun bs hbs => hbucket bs (List.mem_cons_of_mem _ hbs), ok_bind]
    rfl

/-- The length of a bucket is the largest number of its slots that were live in one state of the
period.  It is no larger than any bound on these numbers, right after a rehash or at the beginning
it is the number of live slots, and it grows only when the bucket holds no tombstone. -/
theorem Table.Period.highWater (h : Period policy table past)
    (hbucket : bucket < table.bucketCount) :
    ∃ length counts, Layout.bucketLength table.storage.layout bucket = .ok length ∧
      (table :: past).mapM (Table.liveIn · bucket) = .ok counts ∧ counts.max? = some length ∧
      (∀ bound, (∀ count ∈ counts, count ≤ bound) → length ≤ bound) ∧
      (past = [] → table.liveIn bucket = .ok length) ∧
      ∀ memory op, table.size + 1 < wordLimit →
        ¬Operation.Rehashed op ((op.perform memory).run table) →
        ∀ length', Layout.bucketLength ((op.perform memory).run table).state.storage.layout bucket =
            .ok length' → length < length' →
          Layout.firstTombstone? table.storage.layout bucket = .ok none := by
  obtain ⟨bs, before, hshows, hpast, hlength, hmax⟩ := h.exists_shows
  rw [hshows.bucketCount_eq] at hbucket
  have hcounts : (table :: past).mapM (Table.liveIn · bucket) =
      .ok ((bs :: before).map (Buckets.liveIn · bucket)) := by
    apply mapM_liveIn_eq (.cons hshows hpast)
    intro bs' hbs'
    rcases List.mem_cons.mp hbs' with rfl | hbs'
    · exact hbucket
    · rw [hlength bs' hbs']
      exact hbucket
  refine ⟨_, _, LawfulLayout.bucketLength_eq hshows.chains.layout hbucket, hcounts, hmax bucket,
    fun bound hbound => hbound _ (List.max?_mem (hmax bucket)), ?_, ?_⟩
  · rintro rfl
    cases hpast
    have honly := hmax bucket
    rw [List.map_singleton, List.max?_singleton, Option.some.injEq] at honly
    rw [hshows.liveIn_eq hbucket, honly]
  · intro memory op hroom hop length' hlength' hgrows
    obtain ⟨bs', hshows', hrises⟩ := hshows.exists_rises hroom hop
    have hbucket' : bucket < bs'.length := by rwa [hrises.length_eq]
    rw [LawfulLayout.bucketLength_eq hshows'.chains.layout hbucket', Except.ok.injEq] at hlength'
    rw [Layout.firstTombstone?_eq hshows.chains.layout hbucket,
      hrises.findIdx?_eq_none bucket (by omega)]

/-- A bucket that gets a key, loses it and gets another one. -/
theorem Table.highWater_of_reused_slot :
    ∃ (table : Table (Chains LayoutKind.interleaved.Store))
      (past : List (Table (Chains LayoutKind.interleaved.Store))) (length : Nat)
      (counts : List Nat),
      Table.Period (.standard 1 1) table past ∧ past.length = 3 ∧ 1 < table.bucketCount ∧
      Layout.bucketLength table.storage.layout 1 = .ok length ∧ length = 1 ∧
      (table :: past).mapM (Table.liveIn · 1) = .ok counts ∧ counts.max? = some length := by
  have hcreate : (create Memory.full (.standard 1 1) 2 :
      Action Unit (Table (Chains LayoutKind.interleaved.Store))).run () =
        ⟨.ok _, (), []⟩ := rfl
  have hnew := Period.created hcreate
  have hone := hnew.step (by decide +kernel) Memory.full (.insert [1] [7])
    (Operation.not_rehashed (by simp))
  have hnone := hone.step (by decide +kernel) Memory.full (.erase [1])
    (Operation.not_rehashed (by simp))
  have hagain := hnone.step (by decide +kernel) Memory.full (.insert [3] [8])
    (Operation.not_rehashed (by simp))
  obtain ⟨length, counts, hlength, hcounts, hmax, -⟩ :=
    hagain.highWater (by decide +kernel : 1 < Table.bucketCount _)
  refine ⟨_, _, length, counts, hagain, rfl, by decide +kernel, hlength, ?_, hcounts, hmax⟩
  apply Except.ok.inj (hlength.symm.trans _)
  decide +kernel

end

end ByteTable
