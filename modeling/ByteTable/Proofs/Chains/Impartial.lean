import ByteTable.Proofs.Layout.Impartial
import ByteTable.Proofs.Storage.InStep

/-!
# Chains answer without regard to values

The three operations of chains that ask for memory are reserving a key, inserting one and a rehash.
On chains whose slots look alike they give the same answer, whatever the values are: the searches
see words and keys, the counts are equal, and the layout is granted memory for both or for neither
(`LawfulLayout.answer_append_eq` and `ImpartialLayout`).

A rebuild puts the live records of the two into new chains, one by one.  These look alike after
every record, because no value is copied but those that were written.
-/

namespace ByteTable

namespace Chains

open LawfulLayout (Fits)

variable {L : Type}

theorem agrees_countUp {α : Type} {chains chains' : Chains L} (h : chains.size = chains'.size)
    (a : α) :
    ((countUp >>= fun _ => pure a).run chains).Agrees (fun _ _ => True) (fun _ _ => True)
      ((countUp >>= fun _ => pure a).run chains') := by
  rw [Action.run_bind, Action.run_bind]
  obtain ⟨layout, size⟩ := chains
  obtain ⟨layout', size'⟩ := chains'
  obtain rfl : size = size' := h
  by_cases hroom : size + 1 < wordLimit
  · rw [run_countUp_of_lt hroom, run_countUp_of_lt hroom]
    exact .answered trivial
  · rw [run_countUp_of_le (Nat.not_lt.mp hroom), run_countUp_of_le (Nat.not_lt.mp hroom)]
    exact .failed trivial

theorem agrees_onLayout {α : Type} {act act' : Action L α} {chains chains' : Chains L}
    (h : (act.run chains.layout).answer = (act'.run chains'.layout).answer)
    (hsize : chains.size = chains'.size) :
    ((onLayout act).run chains).Agrees (fun s t => s.size = t.size) (fun _ _ => True)
      ((onLayout act').run chains') := by
  rw [run_onLayout, run_onLayout]
  exact .of_answer_eq h fun _ _ _ => hsize

variable [Layout L] [LawfulLayout L] {chains chains' : Chains L}
  {keySize valueSize : Nat} {f : Bytes → Bytes} {bs bs' : Buckets} {policy : Policy} {key : Bytes}

namespace Shows

/-! ## Making a slot -/

theorem answer_append_eq (h : chains.Shows keySize valueSize bs)
    (h' : chains'.Shows keySize valueSize bs') (halike : Buckets.Alike f bs bs') {bucket : Nat}
    (hbucket : bucket < bs.length) (hkey : key.length = keySize) (memory : Memory)
    (word : SlotWord) :
    ((Layout.append memory bucket word key).run chains.layout).answer =
      ((Layout.append memory bucket word key).run chains'.layout).answer := by
  by_cases hfits : Fits L keySize valueSize
  · exact LawfulLayout.answer_append_eq h.layout h'.layout halike hfits hbucket hkey memory word
  · rw [LawfulLayout.run_append_of_not_fits h.layout hfits,
      LawfulLayout.run_append_of_not_fits h'.layout hfits]

/-- A new key takes the same tombstone in both, or a slot at the end of the chain. -/
theorem agrees_place (h : chains.Shows keySize valueSize bs)
    (h' : chains'.Shows keySize valueSize bs') (halike : Buckets.Alike f bs bs') {bucket : Nat}
    (hbucket : bucket < bs.length) (hkey : key.length = keySize) (memory : Memory)
    (hash : UInt64) :
    ((place memory bucket hash key).run chains).Agrees (fun _ _ => True) (fun _ _ => True)
      ((place memory bucket hash key).run chains') := by
  have hsize : chains.size = chains'.size := by
    rw [h.size_eq, h'.size_eq, halike.liveCount_eq]
  have hfirst := Layout.firstTombstone?_eq h.layout hbucket
  have hfirst' := Layout.firstTombstone?_eq h'.layout (halike.length_eq ▸ hbucket)
  rw [← halike.findIdx?_tombstone_eq bucket] at hfirst'
  rw [place]
  refine Action.agrees_read_bind (s := chains) (t := chains') (hfirst'.trans hfirst.symm) trivial
    fun item? hitem => ?_
  have hfind : (bs.row bucket).findIdx? (fun old => !old.isLive) = item? :=
    Except.ok.inj (hfirst.symm.trans hitem)
  rcases item? with _ | item
  · dsimp only
    rw [Action.run_bind, Action.run_bind]
    have happend := h.answer_append_eq h' halike hbucket hkey memory (.live hash)
    exact (agrees_onLayout happend hsize).andThen fun item s t hsame => agrees_countUp hsame item
  · have hfind' := hfind
    rw [halike.findIdx?_tombstone_eq] at hfind'
    obtain ⟨old, hold, -⟩ := Buckets.exists_tombstone hfind
    obtain ⟨old', hold', -⟩ := Buckets.exists_tombstone hfind'
    obtain ⟨layout, hrun, -⟩ := LawfulLayout.run_overwrite h.layout hold hkey (.live hash)
    obtain ⟨layout', hrun', -⟩ := LawfulLayout.run_overwrite h'.layout hold' hkey (.live hash)
    dsimp only
    rw [Action.run_bind, Action.run_bind]
    refine (agrees_onLayout ?_ hsize).andThen fun _ s t hsame => ?_
    · rw [hrun, hrun']
    · rw [pure_bind]
      exact agrees_countUp hsame item

theorem answer_reserve_eq (h : chains.Shows keySize valueSize bs)
    (h' : chains'.Shows keySize valueSize bs') (halike : Buckets.Alike f bs bs')
    (hkey : key.length = keySize) (memory : Memory) (policy : Policy) :
    ((reserve memory policy key).run chains).answer =
      ((reserve memory policy key).run chains').answer := by
  have hsearch := h.search_eq policy key
  have hsearch' := h'.search_eq policy key
  rw [← halike.length_eq, ← halike.findIdx?_eq (fun _ => rfl)] at hsearch'
  have hagrees : ((reserve memory policy key).run chains).Agrees (fun _ _ => True) (fun _ _ => True)
      ((reserve memory policy key).run chains') := by
    rw [reserve]
    refine Action.agrees_read_bind (s := chains) (t := chains') (hsearch'.trans hsearch.symm)
      trivial fun found hfound => ?_
    obtain ⟨bucket, item?⟩ := found
    obtain ⟨rfl, -⟩ := Prod.mk.inj (Except.ok.inj (hsearch.symm.trans hfound))
    rcases item? with _ | item
    · have hhome := Buckets.home_lt policy h.length_pos key
      dsimp only
      rw [Action.run_bind, Action.run_bind]
      exact (h.agrees_place h' halike hhome hkey memory _).andThen fun _ _ _ _ => .answered trivial
    · exact .answered trivial
  exact hagrees.answer_eq.symm

/-! ## Putting records -/

theorem answer_insert_eq (h : chains.Shows keySize valueSize bs)
    (h' : chains'.Shows keySize valueSize bs') (halike : Buckets.Alike f bs bs')
    (hkey : key.length = keySize) (hvalueSize : policy.valueSize = valueSize) {value value' : Bytes}
    (hvalue : value.length = valueSize) (hvalue' : value'.length = valueSize) (memory : Memory) :
    ((insert memory policy key value).run chains).answer =
      ((insert memory policy key value').run chains').answer := by
  rw [h.answer_insert hkey hvalue hvalueSize memory,
    h'.answer_insert hkey hvalue' hvalueSize memory,
    h.answer_reserve_eq h' halike hkey memory policy]

end Shows

/-! ## Putting records -/

/-- Whether two chains show slots that look alike. -/
def ShowAlike (f : Bytes → Bytes) (keySize valueSize : Nat) (chains chains' : Chains L) : Prop :=
  ∃ bs bs', chains.Shows keySize valueSize bs ∧ chains'.Shows keySize valueSize bs' ∧
    Buckets.Alike f bs bs'

theorem agrees_readd_of_alike (h : ShowAlike f keySize valueSize chains chains')
    (hvalueSize : policy.valueSize = valueSize) {record record' : SlotRecord}
    (hsame : record.veil f = record'.veil f) (hlive : record.isLive = true)
    (hsized : record.key.length = keySize ∧ record.value.length = valueSize)
    (hsized' : record'.key.length = keySize ∧ record'.value.length = valueSize) (memory : Memory) :
    ((KeyedStorage.readd memory policy record).run chains).Agrees (ShowAlike f keySize valueSize)
      (fun _ _ => True) ((KeyedStorage.readd memory policy record').run chains') := by
  obtain ⟨bs, bs', h, h', halike⟩ := h
  have hanswer := h.answer_readd hsized.1 hsized.2 hvalueSize memory
  have hanswer' := h'.answer_readd hsized'.1 hsized'.2 hvalueSize memory
  have hserves := KeyedStorage.run_readd (β := Chains L) h hvalueSize hsized.1 hsized.2 memory
  have hserves' := KeyedStorage.run_readd (β := Chains L) h' hvalueSize hsized'.1 hsized'.2 memory
  obtain ⟨hword, hkey, hvalue⟩ := SlotRecord.veil_eq_iff.mp hsame
  refine .of_answer_eq ?_ fun _ hok hok' => ?_
  · rw [hanswer, hanswer', h.answer_reserve_eq h' halike hsized.1, hkey]
  · refine ⟨_, _, hserves.done_of_answer hok, hserves'.done_of_answer hok', ?_⟩
    exact halike.readd policy hsame hlive

theorem Shows.agrees_rehashByRebuild_of_alike (h : chains.Shows keySize valueSize bs)
    (h' : chains'.Shows keySize valueSize bs') (halike : Buckets.Alike f bs bs')
    (hkeySize : policy.keySize = keySize) (hvalueSize : policy.valueSize = valueSize)
    (memory : Memory) (bucketCount : Nat) :
    ((KeyedStorage.rehashByRebuild memory policy bucketCount).run chains).Agrees (fun _ _ => True)
      (fun _ _ => True)
      ((KeyedStorage.rehashByRebuild memory policy bucketCount).run chains') := by
  have hchains : LawfulSlotStorage.Shows chains keySize valueSize bs := h
  have hchains' : LawfulSlotStorage.Shows chains' keySize valueSize bs' := h'
  rw [KeyedStorage.run_rehashByRebuild_eq, KeyedStorage.run_rehashByRebuild_eq,
    KeyedStorage.rebuild_eq hchains, KeyedStorage.rebuild_eq hchains', hkeySize, hvalueSize,
    ← halike.liveCount_eq]
  simp only [bind_assoc]
  rcases hcreate : (SlotStorage.create memory keySize valueSize bucketCount :
    Except TableError (Chains L)) with cause | fresh
  · exact .failed trivial
  have hfresh : ShowAlike f keySize valueSize fresh fresh :=
    ⟨_, _, .of_create hcreate, .of_create hcreate, rfl⟩
  have hfilled := Action.agrees_forM_of_forall₂ halike.forall₂_liveRecords
    (fun record hrecord record' hrecord' hsame s t hs => agrees_readd_of_alike hs hvalueSize hsame
      (List.mem_filter.mp hrecord).2
      ((LawfulLayout.sized h.layout).of_mem_liveRecords hrecord)
      ((LawfulLayout.sized h'.layout).of_mem_liveRecords hrecord') memory) hfresh
  rw [Action.run_bind, Action.run_bind, Action.run_liftM_ok, Action.run_liftM_ok,
    Outcome.andThen_ok, Outcome.andThen_ok, Action.run_bind, Action.run_bind]
  rcases hfilled.apart chains chains' with
    ⟨_, filled, filled', log, log', hstep, hrun, hrun'⟩ | ⟨cause, log, log', hrun, hrun'⟩
  · obtain ⟨cs, cs', hcs, hcs', hsame⟩ := hstep
    have hsize : SlotStorage.size filled = SlotStorage.size filled' :=
      hcs.size_eq.trans (hsame.liveCount_eq.trans hcs'.size_eq.symm)
    rw [hrun, hrun', Outcome.andThen, Outcome.andThen]
    dsimp only
    rw [hsize]
    by_cases hcount : SlotStorage.size filled' = bs.liveCount
    · rw [if_pos hcount, if_pos hcount, pure_bind, pure_bind]
      exact .answered trivial
    · rw [if_neg hcount, if_neg hcount]
      exact .failed trivial
  · rw [hrun, hrun']
    exact .failed trivial

/-- Chains that look alike answer a rehash alike. -/
theorem Shows.answer_rehash_eq [ImpartialLayout L] (h : chains.Shows keySize valueSize bs)
    (h' : chains'.Shows keySize valueSize bs') (halike : Buckets.Alike f bs bs')
    (hkeySize : policy.keySize = keySize) (hvalueSize : policy.valueSize = valueSize)
    {bucketCount : Nat} (hpos : 0 < bucketCount) (memory : Memory) :
    ((rehash memory policy bucketCount).run chains).answer =
      ((rehash memory policy bucketCount).run chains').answer := by
  rw [rehash, if_neg (Nat.not_lt.mpr hpos)]
  rcases hmove : (Layout.redistribute? : Option (Memory → Policy → Nat → Action L Unit))
    with _ | redistribute
  · dsimp only
    have hrebuilt :=
      h.agrees_rehashByRebuild_of_alike h' halike hkeySize hvalueSize memory bucketCount
    rw [Action.run_bind, Action.run_bind, Action.run_note, Action.run_note]
    exact hrebuilt.answer_eq.symm
  · dsimp only
    obtain ⟨log, hrun⟩ := Action.run_andNote (onLayout (redistribute memory policy bucketCount))
      (.movedInPlace bucketCount) chains
    obtain ⟨log', hrun'⟩ := Action.run_andNote (onLayout (redistribute memory policy bucketCount))
      (.movedInPlace bucketCount) chains'
    rw [hrun, hrun', run_onLayout, run_onLayout]
    dsimp only
    by_cases hfits : Fits L keySize valueSize
    · exact ImpartialLayout.answer_redistribute_eq hmove h.layout h'.layout halike hfits hpos memory
        policy
    · rw [LawfulLayout.run_redistribute_of_not_fits hmove h.layout hfits,
        LawfulLayout.run_redistribute_of_not_fits hmove h'.layout hfits]

end Chains

end ByteTable
