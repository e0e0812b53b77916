import ByteTable.Proofs.Chains
import ByteTable.Proofs.Layout.Touches
import ByteTable.Proofs.Storage.Rebuild

/-!
# What an operation on chains does not change

Operations by key and by slot change the layout in one bucket only, and only by what
`Layout.MovesAt` lists.  So whatever relation these changes keep relates the layouts before and
after, also if the operation fails on the way: memory may be refused halfway through an `append`.
For reserving a key and setting its value the bucket is named, as the one that the search leads to.

A rehash works on a copy, be it a storage that is rebuilt or a directory that records are moved to,
and puts it in place at the end.  So it changes everything or, if it fails, nothing
(`LayoutKind.swaps_rehash`).
-/

namespace ByteTable

/-! ## Working on a copy -/

namespace KeyedStorage

variable {β σ : Type} [KeyedStorage β] {R : σ → σ → Prop}

/-- A rebuild fills a storage of its own. -/
theorem moves_rebuild [Std.Refl R] [IsTrans σ R] (memory : Memory) (old : β) (policy : Policy)
    (bucketCount : Nat) : (rebuild memory old policy bucketCount : Action σ β).Moves R := by
  rw [rebuild]
  refine (Action.Moves.ofExcept _).bind fun fresh => ?_
  refine (Action.Moves.read _).bind fun keys => ?_
  refine (Action.Moves.read _).bind fun values => ?_
  refine (Action.Moves.read _).bind fun key? => ?_
  refine (Action.Moves.of_state_eq (Action.state_run_apart _ _)).bind fun filled => ?_
  dsimp only
  split
  · exact .pure _
  · exact .fail _

section

variable {R : β → β → Prop} [Std.Refl R] [IsTrans β R] {memory : Memory} {policy : Policy}

theorem moves_reinsert
    (hreserve : ∀ key, (SlotStorage.reserve memory policy key : Action β Reservation).Moves R)
    (hinsert : ∀ key value, (insert memory policy key value : Action β Unit).Moves R) (old : β)
    (fuel : Nat) (keys values : Enumerator β) (key? : Option Bytes) :
    (reinsert memory policy old fuel keys values key?).Moves R := by
  induction fuel generalizing keys values key? with
  | zero => exact .pure ()
  | succ fuel ih =>
    rcases key? with _ | key
    · exact .pure ()
    have hrest : Action.Moves R _ :=
      (Action.Moves.read fun _ => keys.perform .next).bind fun moved =>
        (Action.Moves.read fun _ => values.perform .next).bind fun moved' =>
          ih moved.1 moved'.1 moved.2
    rw [reinsert]
    split
    · refine (Action.Moves.read _).bind fun written => (Action.Moves.read _).bind fun value? => ?_
      split
      · exact (hinsert key _).bind fun _ => hrest
      · exact (hreserve key).bind fun _ => hrest
    · refine (Action.Moves.read _).bind fun value? => ?_
      split
      · exact (hinsert key _).bind fun _ => hrest
      · exact (hreserve key).bind fun _ => hrest

/-- A rebuilt storage is a new one that slots were put into. -/
theorem exists_create_of_rebuild
    (hreserve : ∀ key, (SlotStorage.reserve memory policy key : Action β Reservation).Moves R)
    (hinsert : ∀ key value, (insert memory policy key value : Action β Unit).Moves R) (old : β)
    (bucketCount : Nat) :
    (rebuild memory old policy bucketCount : Action σ β).Answers fun filled =>
      ∃ fresh, SlotStorage.create memory policy.keySize policy.valueSize bucketCount = .ok fresh ∧
        R fresh filled := by
  rw [rebuild]
  refine (Action.Answers.ofExcept _).bind fun fresh hfresh => ?_
  refine (Action.Answers.any _).bind fun keys _ => (Action.Answers.any _).bind fun values _ => ?_
  refine (Action.Answers.any _).bind fun key? _ => ?_
  refine ((moves_reinsert hreserve hinsert old _ keys values key?).answers_apart fresh).bind ?_
  rintro ⟨_, filled⟩ hfilled s answer hanswer
  dsimp only at hanswer
  by_cases hsame : SlotStorage.size filled = SlotStorage.size old
  · rw [if_pos hsame] at hanswer
    cases hanswer
    exact ⟨fresh, hfresh, hfilled⟩
  · rw [if_neg hsame] at hanswer
    cases hanswer

theorem swaps_rehashByRebuild {P : β → Prop} {bucketCount : Nat}
    (hreserve : ∀ key, (SlotStorage.reserve memory policy key : Action β Reservation).Moves R)
    (hinsert : ∀ key value, (insert memory policy key value : Action β Unit).Moves R)
    (hfilled : ∀ fresh filled,
      SlotStorage.create memory policy.keySize policy.valueSize bucketCount = .ok fresh →
        R fresh filled → P filled) :
    (rehashByRebuild memory policy bucketCount : Action β Unit).Swaps P := by
  rw [rehashByRebuild]
  refine .bind (.of_state_eq fun _ => rfl) (.any _) fun old _ => ?_
  refine .bind (moves_rebuild memory old policy bucketCount)
    (exists_create_of_rebuild hreserve hinsert old bucketCount) ?_
  rintro filled ⟨fresh, hfresh, hmoved⟩
  exact .replace (hfilled fresh filled hfresh hmoved)

end

end KeyedStorage

/-- A move fills a directory of its own. -/
theorem Interleaved.swaps_redistribute (memory : Memory) (policy : Policy) (bucketCount : Nat) :
    (redistribute memory policy bucketCount).Swaps fun store =>
      Layout.bucketCount store = bucketCount := by
  rw [redistribute]
  refine .bind (.of_state_eq fun _ => rfl) (.any _) fun store _ => ?_
  refine .bind (.read _) (.any _) fun size _ => ?_
  refine .bind (.ofExcept _) (.ofExcept _) fun fresh hfresh => ?_
  have hmoves (record : Bytes) :
      (placeRecord memory policy store.keySize size bucketCount record).Moves Directory.Opens := by
    rw [placeRecord]
    refine (Action.Moves.read _).bind fun bucket => ?_
    refine ((Directory.moves_openChain bucket _).mono fun _ _ h => h.opens).bind fun _ => ?_
    exact ((Directory.moves_onChain bucket _).mono fun _ _ h => h.opens).bind fun _ => .pure ()
  refine .bind (.of_state_eq (Action.state_run_apart _ _))
    ((Action.Moves.forM hmoves store.liveRecords).answers_apart fresh) ?_
  rintro ⟨_, moved⟩ hmoved
  refine .replace ?_
  have hsize : fresh.size = bucketCount := by
    rw [Directory.size, (Directory.create_eq_ok hfresh).1, Array.size_replicate]
  exact hmoved.size_eq.trans hsize

/-! ## One bucket at a time -/

namespace Chains

variable {L : Type} {R : L → L → Prop}

/-- Whether the layouts of two chains are related. -/
def Over (R : L → L → Prop) (chains chains' : Chains L) : Prop :=
  R chains.layout chains'.layout

instance [Std.Refl R] : Std.Refl (Over R) :=
  ⟨fun chains => Std.Refl.refl (r := R) chains.layout⟩

instance [IsTrans L R] : IsTrans (Chains L) (Over R) :=
  ⟨fun chains chains' chains'' h h' =>
    IsTrans.trans (r := R) chains.layout chains'.layout chains''.layout h h'⟩

theorem moves_onLayout {α : Type} {act : Action L α} (h : act.Moves R) :
    (onLayout act).Moves (Over R) :=
  h.within fun _ _ hlayout => hlayout

variable [Std.Refl R]

theorem moves_countUp [IsTrans L R] : (countUp : Action (Chains L) Unit).Moves (Over R) := by
  refine (Action.Moves.read _).bind fun size => ?_
  refine (Action.Moves.read _).bind fun size' => ?_
  exact .modify fun chains => Std.Refl.refl (r := R) chains.layout

theorem moves_countDown [IsTrans L R] : (countDown : Action (Chains L) Unit).Moves (Over R) := by
  refine (Action.Moves.read _).bind fun size => ?_
  rcases size with _ | size
  · exact .fail _
  · exact .modify fun chains => Std.Refl.refl (r := R) chains.layout

variable [IsTrans L R] [Layout L]

theorem moves_place {bucket : Nat} (h : Layout.MovesAt bucket R) (memory : Memory) (hash : UInt64)
    (key : Bytes) : (place memory bucket hash key).Moves (Over R) := by
  rw [place]
  refine (Action.Moves.read _).bind fun item? => ?_
  rcases item? with _ | item
  · exact (moves_onLayout (h.append memory _ key)).bind fun _ => moves_countUp.bind fun _ => .pure _
  · exact (moves_onLayout (h.overwrite item _ key)).bind fun _ =>
      moves_countUp.bind fun _ => .pure _

theorem moves_writeSlot {slot : Slot} (h : Layout.MovesAt slot.bucket R) (value : Bytes) :
    (writeSlot slot value).Moves (Over R) := by
  rw [writeSlot]
  refine (Action.Moves.read _).bind fun word => ?_
  exact (moves_onLayout (h.setWord slot.item _)).bind fun _ =>
    moves_onLayout (h.setValue slot.item value)

/-! ## By slot -/

theorem moves_assign {slot : Slot} (h : Layout.MovesAt slot.bucket R) (value : Bytes) :
    (assign slot value).Moves (Over R) := by
  rw [assign]
  refine (Action.Moves.read _).bind fun word? => ?_
  rcases word? with _ | word
  · exact .note _
  · exact (moves_onLayout (h.setWord slot.item _)).bind fun _ =>
      moves_onLayout (h.setValue slot.item value)

theorem moves_discard {slot : Slot} (h : Layout.MovesAt slot.bucket R) :
    (discard slot : Action (Chains L) Unit).Moves (Over R) := by
  rw [discard]
  refine (Action.Moves.read _).bind fun word? => ?_
  rcases word? with _ | word
  · exact .note _
  · exact (moves_onLayout (h.setWord slot.item _)).bind fun _ => moves_countDown

/-! ## By key -/

theorem moves_erase (h : ∀ bucket, Layout.MovesAt bucket R) (policy : Policy) (key : Bytes) :
    (erase policy key : Action (Chains L) Unit).Moves (Over R) := by
  rw [erase]
  refine (Action.Moves.read _).bind fun slot? => ?_
  rcases slot? with _ | slot
  · exact .pure ()
  · refine (Action.Moves.read _).bind fun word => ?_
    exact (moves_onLayout ((h slot.bucket).setWord slot.item _)).bind fun _ => moves_countDown

section

variable {chains : Chains L} {policy : Policy} {key : Bytes}

/-- Reserving a key changes the bucket of its search. -/
theorem over_reserve (h : ∀ bucket item?, chains.search policy key = .ok (bucket, item?) →
    Layout.MovesAt bucket R) (memory : Memory) :
    Over R chains ((reserve memory policy key).run chains).state := by
  rw [reserve]
  refine Action.Moves.read_bind_at fun found hfound => ?_
  obtain ⟨bucket, item?⟩ := found
  rcases item? with _ | item
  · exact (moves_place (h bucket none hfound) memory _ key).bind (fun _ => .pure _) chains
  · exact Std.Refl.refl (r := R) chains.layout

theorem over_insert (h : ∀ bucket item?, chains.search policy key = .ok (bucket, item?) →
    Layout.MovesAt bucket R) (memory : Memory) (value : Bytes) :
    Over R chains ((insert memory policy key value).run chains).state := by
  rw [insert]
  refine Action.Moves.read_bind_at fun found hfound => ?_
  obtain ⟨bucket, item?⟩ := found
  have hmoves := h bucket item? hfound
  have hwrite (item : Nat) : (writeSlot ⟨bucket, item⟩ value).Moves (Over R) :=
    moves_writeSlot hmoves value
  rcases item? with _ | item
  · exact (moves_place hmoves memory _ key).bind hwrite chains
  · exact hwrite item chains

theorem over_readd {record : SlotRecord}
    (h : ∀ bucket item?, chains.search policy record.key = .ok (bucket, item?) →
      Layout.MovesAt bucket R) (memory : Memory) :
    Over R chains ((KeyedStorage.readd memory policy record).run chains).state := by
  rw [KeyedStorage.readd]
  by_cases hwritten : record.isWritten
  · rw [if_pos hwritten]
    exact over_insert h memory record.value
  · have hreserve := over_reserve h memory
    have hrun : (SlotStorage.reserve memory policy record.key >>= fun _ => pure ()).run chains =
        ((reserve memory policy record.key).run chains).andThen fun _ => pure () :=
      Action.run_bind _ _ chains
    rw [if_neg hwritten, hrun]
    generalize (reserve memory policy record.key).run chains = outcome at hreserve
    rcases outcome with ⟨cause | reservation, after, log⟩
    · exact hreserve
    · exact hreserve

end

/-! ## Changing the number of buckets -/

/-- The slots go to a new layout, which takes the place of the old one at the end. -/
theorem swaps_rehash {memory : Memory} {policy : Policy} {bucketCount : Nat} {P : L → Prop}
    (h : ∀ redistribute : Memory → Policy → Nat → Action L Unit,
      Layout.redistribute? = some redistribute → (redistribute memory policy bucketCount).Swaps P)
    (hrebuild : (KeyedStorage.rehashByRebuild memory policy bucketCount :
      Action (Chains L) Unit).Swaps fun chains => P chains.layout) :
    (rehash memory policy bucketCount : Action (Chains L) Unit).Swaps
      fun chains => P chains.layout := by
  rw [rehash]
  by_cases hpos : bucketCount < 1
  · rw [if_pos hpos]
    exact .fail _
  rw [if_neg hpos]
  rcases hredistribute : (Layout.redistribute? : Option (Memory → Policy → Nat → Action L Unit))
    with _ | redistribute
  · exact .bind (.note _) (.any _) fun _ _ => hrebuild
  · refine Action.Swaps.andNote ?_ _
    exact (h redistribute hredistribute).within (fun _ => rfl) fun _ _ hlayout => hlayout

end Chains

namespace LayoutKind

/-- Whatever the layout, a rehash that answers leaves chains with the number of buckets asked for,
and one that fails leaves them as they are. -/
theorem swaps_rehash (kind : LayoutKind) (memory : Memory) (policy : Policy) (bucketCount : Nat) :
    (Chains.rehash memory policy bucketCount : Action (Chains kind.Store) Unit).Swaps
      fun chains => Layout.bucketCount chains.layout = bucketCount := by
  refine Chains.swaps_rehash (P := fun layout => Layout.bucketCount layout = bucketCount) ?_ ?_
  · intro redistribute hredistribute
    cases kind with
    | interleaved =>
      obtain rfl := Option.some.inj hredistribute
      exact Interleaved.swaps_redistribute memory policy bucketCount
    | hashSeparated => cases hredistribute
    | fullySeparated => cases hredistribute
  · refine KeyedStorage.swaps_rehashByRebuild (R := Chains.Over kind.Opens) ?_ ?_ ?_
    · exact fun key chains => Chains.over_reserve (fun bucket _ _ => kind.movesAt bucket) memory
    · exact fun key value chains =>
        Chains.over_insert (fun bucket _ _ => kind.movesAt bucket) memory value
    · intro fresh filled hfresh hopens
      have hshows := LawfulSlotStorage.create_eq_ok hfresh
      have hcount : Layout.bucketCount fresh.layout = bucketCount := by
        rw [← Buckets.length_empty bucketCount]
        exact LawfulSlotStorage.bucketCount_eq hshows
      exact hopens.bucketCount_eq.trans hcount

end LayoutKind

end ByteTable
