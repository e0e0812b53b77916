import ByteTable.Proofs.Action.Relations
import ByteTable.Proofs.Buckets.Veil
import ByteTable.Proofs.Storage.Kind

/-!
# Layouts ask for memory without regard to values

How much memory an append or a move of records needs is a matter of how many slots there are in
which bucket.  So where two layouts show buckets that look alike, with other values in them, both
are granted memory or both are refused it.

An append needs memory for the slots that a bucket has, and one more (`Layout.HasRoom`), which is a
law of all layouts.  A move appends records to buckets that their keys select; that it is impartial
is a property of the layout that has one, `ImpartialLayout`.
-/

namespace ByteTable

open LawfulLayout (Shows Fits)

/-- Two layouts that show buckets alike have room for one more slot together or not at all. -/
theorem LawfulLayout.answer_append_eq {L : Type} [Layout L] [LawfulLayout L] {layout layout' : L}
    {keySize valueSize : Nat} {f : Bytes → Bytes} {bs bs' : Buckets}
    (h : Shows layout keySize valueSize bs) (h' : Shows layout' keySize valueSize bs')
    (halike : Buckets.Alike f bs bs') (hfits : Fits L keySize valueSize) {bucket : Nat}
    (hbucket : bucket < bs.length) {key : Bytes} (hkey : key.length = keySize) (memory : Memory)
    (word : SlotWord) :
    ((Layout.append memory bucket word key).run layout).answer =
      ((Layout.append memory bucket word key).run layout').answer := by
  have hgrows := run_append h hfits hbucket hkey memory word
  have hgrows' := run_append h' hfits (halike.length_eq ▸ hbucket) hkey memory word
  rw [← halike.length_row_eq] at hgrows'
  exact (Outcome.Agrees.of_grows hgrows hgrows').answer_eq.symm

/-- A layout that moves records in place, or is refused memory for it, whatever its values are. -/
class ImpartialLayout (L : Type) [Layout L] [LawfulLayout L] : Prop where
  answer_redistribute_eq {layout layout' : L} {keySize valueSize : Nat} {f : Bytes → Bytes}
    {bs bs' : Buckets} {bucketCount : Nat} {redistribute : Memory → Policy → Nat → Action L Unit} :
    Layout.redistribute? = some redistribute → Shows layout keySize valueSize bs →
    Shows layout' keySize valueSize bs' → Buckets.Alike f bs bs' → Fits L keySize valueSize →
    0 < bucketCount → ∀ memory policy,
    ((redistribute memory policy bucketCount).run layout).answer =
      ((redistribute memory policy bucketCount).run layout').answer

/-! ## Interleaved -/

namespace Interleaved

variable {keySize valueSize : Nat} {f : Bytes → Bytes} {bs bs' : Buckets} {policy : Policy}
  {store store' : Interleaved}

/-- Whether two directories keep the records of slots that look alike, moved to the same buckets. -/
def KeepAlike (f : Bytes → Bytes) (policy : Policy) (bucketCount keySize valueSize : Nat)
    (d d' : Directory Column) : Prop :=
  ∃ done done' : List SlotRecord,
    done.map (SlotRecord.veil f) = done'.map (SlotRecord.veil f) ∧
      d.Keeps (rawSize keySize valueSize)
        (Grid.image rawRecord (Buckets.spread policy bucketCount done)) ∧
      d'.Keeps (rawSize keySize valueSize)
        (Grid.image rawRecord (Buckets.spread policy bucketCount done'))

/-- Records of one key go to the same bucket, which has as many slots in both. -/
theorem agrees_placeRecord {bucketCount : Nat} (hpos : 0 < bucketCount) {d d' : Directory Column}
    (h : KeepAlike f policy bucketCount keySize valueSize d d') {record record' : SlotRecord}
    (hrecord : record.key.length = keySize ∧ record.value.length = valueSize)
    (hrecord' : record'.key.length = keySize ∧ record'.value.length = valueSize)
    (hsame : record.veil f = record'.veil f) (memory : Memory) :
    ((placeRecord memory policy keySize (rawSize keySize valueSize) bucketCount
        (rawRecord record)).run d).Agrees (KeepAlike f policy bucketCount keySize valueSize)
      (fun _ _ => True)
      ((placeRecord memory policy keySize (rawSize keySize valueSize) bucketCount
        (rawRecord record')).run d') := by
  obtain ⟨done, done', hdone, hkeeps, hkeeps'⟩ := h
  have hgrows := run_placeRecord hpos hrecord.1 hrecord.2 hkeeps memory
  have hgrows' := run_placeRecord hpos hrecord'.1 hrecord'.2 hkeeps' memory
  have halike : Buckets.Alike f _ _ := .spread hdone policy bucketCount
  rw [← (SlotRecord.veil_eq_iff.mp hsame).2.1, ← halike.length_row_eq] at hgrows'
  refine (Outcome.Agrees.of_grows hgrows hgrows').mono ?_ fun _ _ _ => trivial
  rintro d d' ⟨hd, hd'⟩
  refine ⟨done ++ [record], done' ++ [record'], ?_, hd, hd'⟩
  rw [List.map_append, List.map_append, hdone, List.map_singleton, List.map_singleton, hsame]

theorem Shows.answer_redistribute_eq (h : store.Shows keySize valueSize bs)
    (h' : store'.Shows keySize valueSize bs') (halike : Buckets.Alike f bs bs')
    (hfits : keyOffset + keySize + valueSize < wordLimit) {bucketCount : Nat}
    (hpos : 0 < bucketCount) (memory : Memory) (policy : Policy) :
    ((redistribute memory policy bucketCount).run store).answer =
      ((redistribute memory policy bucketCount).run store').answer := by
  rw [h.run_redistribute_eq hfits, h'.run_redistribute_eq hfits, Action.run_bind, Action.run_bind]
  rcases hfresh : (Directory.create (memory.limit (.directory .records)) entryBytes bucketCount :
    Except TableError (Directory Column)) with cause | fresh
  · rw [Action.run_liftM_error, Action.run_liftM_error]
    rfl
  have hempty : KeepAlike f policy bucketCount keySize valueSize fresh fresh := by
    have hkeeps : fresh.Keeps (rawSize keySize valueSize)
        (Grid.image rawRecord (Buckets.spread policy bucketCount [])) := by
      rw [Buckets.spread_nil]
      simpa [Buckets.empty, Grid.image] using Directory.Keeps.of_create hfresh _
    exact ⟨[], [], rfl, hkeeps, hkeeps⟩
  have hmoved := Action.agrees_forM_of_forall₂ halike.forall₂_liveRecords
    (fun record hrecord record' hrecord' hsame d d' hd => agrees_placeRecord hpos hd
      (h.sized.of_mem_liveRecords hrecord) (h'.sized.of_mem_liveRecords hrecord') hsame memory)
    hempty
  rw [Action.run_liftM_ok, Action.run_liftM_ok, Outcome.andThen_ok, Outcome.andThen_ok,
    Action.run_bind, Action.run_bind]
  rcases hmoved.apart store store' with
    ⟨_, moved, moved', log, log', -, hrun, hrun'⟩ | ⟨cause, log, log', hrun, hrun'⟩
  · rw [hrun, hrun']
    rfl
  · rw [hrun, hrun']
    rfl

end Interleaved

instance : ImpartialLayout Interleaved where
  answer_redistribute_eq hsome h h' halike hfits hpos memory policy := by
    cases hsome
    exact Interleaved.Shows.answer_redistribute_eq h h' halike hfits hpos memory policy

/-! ## The separated layouts -/

instance : ImpartialLayout HashSeparated where
  answer_redistribute_eq hsome := by cases hsome

instance : ImpartialLayout FullySeparated where
  answer_redistribute_eq hsome := by cases hsome

instance (kind : LayoutKind) : ImpartialLayout kind.Store :=
  match kind with
  | .interleaved => inferInstanceAs (ImpartialLayout Interleaved)
  | .hashSeparated => inferInstanceAs (ImpartialLayout HashSeparated)
  | .fullySeparated => inferInstanceAs (ImpartialLayout FullySeparated)

end ByteTable
