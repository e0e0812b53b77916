import ByteTable.Proofs.Storage.Kind

/-!
# Layouts as lists of buckets

A layout is changed slot by slot: a slot is appended to a bucket, an existing one gets a new word
and key, a new word, or a new value.  `Edit.settle` says what each of these does to a list of
buckets, each a list of records, with nothing said about bytes or chains.  `Settles` runs a sequence
of edits there.  An append is made if its memory has room for one more slot in every chain of the
bucket, and refused if not; all that is to be known of a layout for this is `LayoutKind.widths`, the
bytes that a slot takes in each chain.

`LayoutKind.exists_settles` says that every layout is such a list of buckets, under every sequence
of edits that callers may ask for.  These are the edits of slots that the layout itself reports,
which is how `Admitted` puts it.  Keys and values may have any lengths, and be empty, as long as a
machine word can say how long a record is.
-/

namespace ByteTable

namespace Layout

/-! ## Edits -/

/-- One change of a layout. -/
inductive Edit where
  /-- Add a slot with a zeroed value to a bucket. -/
  | append (memory : Memory) (bucket : Nat) (word : SlotWord) (key : Bytes)
  /-- Give a slot a new word and key and a zeroed value. -/
  | overwrite (slot : Slot) (word : SlotWord) (key : Bytes)
  /-- Replace the word of a slot. -/
  | setWord (slot : Slot) (word : SlotWord)
  /-- Replace the value of a slot. -/
  | setValue (slot : Slot) (value : Bytes)

namespace Edit

/-- The item of the slot that an edit adds, if it adds one. -/
def item? : Edit → Buckets → Option Nat
  | append _ bucket _ _, bs => some (bs.row bucket).length
  | _, _ => none

/-- What an edit makes of buckets with values of the given length. -/
def settle (valueSize : Nat) : Edit → Buckets → Buckets
  | append _ bucket word key, bs => bs.push bucket ⟨word, key, Bytes.zeroes valueSize⟩
  | overwrite slot word key, bs => bs.update slot fun _ => ⟨word, key, Bytes.zeroes valueSize⟩
  | setWord slot word, bs => bs.update slot fun old => { old with word }
  | setValue slot value, bs => bs.update slot fun old => { old with value }

/-- Whether there is memory for an edit of buckets.  Only an append asks for any. -/
def HasRoom (widths : List (Part × Nat)) : Edit → Buckets → Prop
  | append memory bucket _ _, bs => Layout.HasRoom widths memory bucket (bs.row bucket).length
  | _, _ => True

variable {L : Type} [Layout L]

/-- Make an edit of a layout, and answer with the item of the slot it added. -/
def perform : Edit → Action L (Option Nat)
  | append memory bucket word key =>
    Layout.append memory bucket word key >>= fun item => pure (some item)
  | overwrite slot word key => Layout.overwrite slot word key >>= fun _ => pure none
  | setWord slot word => Layout.setWord slot word >>= fun _ => pure none
  | setValue slot value => Layout.setValue slot value >>= fun _ => pure none

/-- The answers of edits made one after another, and the layout that is left. -/
def performAll : List Edit → L → List (Except Failure (Option Nat)) × L
  | [], layout => ([], layout)
  | edit :: edits, layout =>
    let outcome := edit.perform.run layout
    let (answers, final) := performAll edits outcome.state
    (outcome.answer :: answers, final)

end Edit

section Callers

variable {L : Type} [Layout L]

/-- Whether a layout reports a slot. -/
def Reports (layout : L) (slot : Slot) : Prop :=
  slot.bucket < bucketCount layout ∧
    ∃ length, bucketLength layout slot.bucket = .ok length ∧ slot.item < length

/-- An edit that callers may ask for: its bucket or slot is one that the layout reports, and keys
and values have the right lengths. -/
def Edit.Admitted (keySize valueSize : Nat) (layout : L) : Edit → Prop
  | append _ bucket _ key => bucket < bucketCount layout ∧ key.length = keySize
  | overwrite slot _ key => Reports layout slot ∧ key.length = keySize
  | setWord slot _ => Reports layout slot
  | setValue slot value => Reports layout slot ∧ value.length = valueSize

/-- Callers may ask for each edit when its turn comes. -/
def Edit.AllAdmitted (keySize valueSize : Nat) : List Edit → L → Prop
  | [], _ => True
  | edit :: edits, layout =>
    edit.Admitted keySize valueSize layout ∧
      AllAdmitted keySize valueSize edits (edit.perform.run layout).state

/-- A layout that is a list of buckets with keys and values of the given lengths. -/
structure Holds (layout : L) (keySize valueSize : Nat) (bs : Buckets) : Prop where
  /-- The number of buckets. -/
  bucketCount_eq : bucketCount layout = bs.length
  /-- The number of slots of each bucket. -/
  bucketLength_eq : ∀ bucket < bs.length,
    bucketLength layout bucket = .ok (bs.row bucket).length
  /-- The three parts of each slot. -/
  reads_eq : ∀ slot record, bs.at? slot = some record →
    wordAt layout slot = .ok record.word ∧ keyAt layout slot = .ok record.key ∧
      valueAt layout slot = .ok record.value
  /-- Keys and values have the right lengths. -/
  sized : bs.Sized keySize valueSize
  /-- Reading all slots gives the buckets. -/
  contents_eq : contents layout = .ok bs

/-- Edits of buckets with values of the given length, one after another, that answer so.  An edit is
made if there is memory for it, and otherwise refused, which changes nothing. -/
inductive Settles (widths : List (Part × Nat)) (valueSize : Nat) :
    List Edit → List (Except Failure (Option Nat)) → Buckets → Buckets → Prop where
  /-- No edits. -/
  | nil {bs : Buckets} : Settles widths valueSize [] [] bs bs
  /-- An edit that is made. -/
  | made {edit : Edit} {edits : List Edit} {answers : List (Except Failure (Option Nat))}
    {bs bs' : Buckets} (hroom : edit.HasRoom widths bs)
    (h : Settles widths valueSize edits answers (edit.settle valueSize bs) bs') :
    Settles widths valueSize (edit :: edits) (.ok (edit.item? bs) :: answers) bs bs'
  /-- An edit that is refused memory. -/
  | refused {edit : Edit} {edits : List Edit} {answers : List (Except Failure (Option Nat))}
    {bs bs' : Buckets} (hroom : ¬edit.HasRoom widths bs)
    (h : Settles widths valueSize edits answers bs bs') :
    Settles widths valueSize (edit :: edits) (.error (.error .allocation) :: answers) bs bs'

end Callers

end Layout

/-! ## Lawful layouts -/

namespace LawfulLayout

open Layout

variable {L : Type} [Layout L] [LawfulLayout L] {layout : L} {keySize valueSize : Nat}
  {bs : Buckets}

/-- What a layout shows is what its reads give. -/
theorem holds (h : Shows layout keySize valueSize bs) : Holds layout keySize valueSize bs where
  bucketCount_eq := bucketCount_eq h
  bucketLength_eq _ hbucket := bucketLength_eq h hbucket
  reads_eq _ _ hslot := recordAt_eq h hslot
  sized := sized h
  contents_eq := contents_eq h

/-- A slot that a layout reports is one of those it shows. -/
theorem exists_at?_of_reports (h : Shows layout keySize valueSize bs) {slot : Slot}
    (hslot : Reports layout slot) : ∃ record, bs.at? slot = some record := by
  obtain ⟨hbucket, length, hlength, hitem⟩ := hslot
  rw [bucketCount_eq h] at hbucket
  rw [bucketLength_eq h hbucket, Except.ok.injEq] at hlength
  apply Grid.exists_at?_of_item_lt
  rw [hlength]
  exact hitem

/-- An edit is made of the buckets that a layout shows, or is refused memory and leaves them. -/
theorem run_perform (h : Shows layout keySize valueSize bs) (hfits : Fits L keySize valueSize)
    {edit : Edit} (hadmitted : edit.Admitted keySize valueSize layout) :
    (edit.perform.run layout).Grows (edit.item? bs)
      (fun layout' => Shows layout' keySize valueSize (edit.settle valueSize bs) ∧
        edit.HasRoom (widths L keySize valueSize) bs)
      (fun layout' => Shows layout' keySize valueSize bs ∧
        ¬edit.HasRoom (widths L keySize valueSize) bs) := by
  cases edit with
  | append memory bucket word key =>
    obtain ⟨hbucket, hkey⟩ := hadmitted
    rw [bucketCount_eq h] at hbucket
    have happend := run_append h hfits hbucket hkey memory word
    rw [Edit.perform, Action.run_bind]
    apply happend.andThen
    · intro layout' hshows
      exact .done hshows
    · intro layout' hshows
      exact hshows
  | overwrite slot word key =>
    obtain ⟨record, hrecord⟩ := exists_at?_of_reports h hadmitted.1
    obtain ⟨layout', hrun, hshows⟩ := run_overwrite h hrecord hadmitted.2 word
    rw [Edit.perform, Action.run_bind, hrun]
    exact .done ⟨hshows, trivial⟩
  | setWord slot word =>
    obtain ⟨record, hrecord⟩ := exists_at?_of_reports h hadmitted
    obtain ⟨layout', hrun, hshows⟩ := run_setWord h hrecord word
    rw [Edit.perform, Action.run_bind, hrun]
    exact .done ⟨hshows, trivial⟩
  | setValue slot value =>
    obtain ⟨record, hrecord⟩ := exists_at?_of_reports h hadmitted.1
    obtain ⟨layout', hrun, hshows⟩ := run_setValue h hrecord hadmitted.2
    rw [Edit.perform, Action.run_bind, hrun]
    exact .done ⟨hshows, trivial⟩

/-- A sequence of edits is made of the buckets that a layout shows. -/
theorem exists_settles_performAll (h : Shows layout keySize valueSize bs)
    (hfits : Fits L keySize valueSize) {edits : List Edit}
    (hadmitted : Edit.AllAdmitted keySize valueSize edits layout) :
    ∃ bs', Settles (widths L keySize valueSize) valueSize edits
        (Edit.performAll edits layout).1 bs bs' ∧
      Shows (Edit.performAll edits layout).2 keySize valueSize bs' := by
  induction edits generalizing layout bs with
  | nil => exact ⟨bs, .nil, h⟩
  | cons edit edits ih =>
    obtain ⟨hedit, hedits⟩ := hadmitted
    have hstep := run_perform h hfits hedit
    simp only [Edit.performAll]
    generalize edit.perform.run layout = outcome at hstep hedits
    cases hstep with
    | done hshows =>
      obtain ⟨bs', hsettles, hfinal⟩ := ih hshows.1 hedits
      exact ⟨bs', .made hshows.2 hsettles, hfinal⟩
    | refused hshows =>
      obtain ⟨bs', hsettles, hfinal⟩ := ih hshows.1 hedits
      exact ⟨bs', .refused hshows.2 hsettles, hfinal⟩

end LawfulLayout

/-- Every layout, from its creation on, is the list of buckets that the same edits give: it answers
each edit as the list does, with the index of the slot for an append, and reads what the list holds.
An edit that is refused memory is an append without room for one more slot, and leaves the list as
it is. -/
theorem LayoutKind.exists_settles (kind : LayoutKind) {memory : Memory}
    {keySize valueSize bucketCount : Nat} (hsizes : 8 + keySize + valueSize < wordLimit)
    {layout : kind.Store}
    (hcreate : Layout.create memory keySize valueSize bucketCount = .ok layout)
    {edits : List Layout.Edit}
    (hadmitted : Layout.Edit.AllAdmitted keySize valueSize edits layout) :
    ∃ answers now bs, Layout.Edit.performAll edits layout = (answers, now) ∧
      Layout.Settles (kind.widths keySize valueSize) valueSize edits answers
        (Buckets.empty bucketCount) bs ∧
      Layout.Holds now keySize valueSize bs := by
  have hshows := LawfulLayout.create_eq_ok hcreate
  have hfits : LawfulLayout.Fits kind.Store keySize valueSize := LawfulLayout.fits_of_lt hsizes
  obtain ⟨bs, hsettles, hfinal⟩ :=
    LawfulLayout.exists_settles_performAll hshows hfits hadmitted
  rw [kind.widths_eq] at hsettles
  exact ⟨_, _, bs, rfl, hsettles, LawfulLayout.holds hfinal⟩

/-- Two slots with empty keys, of which the second is refused memory, and the first one's value and
word replaced. -/
theorem LayoutKind.exists_settles_of_empty_keys :
    ∃ (layout now : LayoutKind.fullySeparated.Store) (edits : List Layout.Edit)
      (answers : List (Except Failure (Option Nat))) (bs : Buckets),
      Layout.create Memory.full 0 1 2 = .ok layout ∧
      Layout.Edit.AllAdmitted 0 1 edits layout ∧
      Layout.Edit.performAll edits layout = (answers, now) ∧
      answers = [.ok (some 0), .error (.error .allocation), .ok none, .ok none] ∧
      Layout.Settles [(.words, 8), (.keys, 0), (.values, 1)] 1 edits answers (Buckets.empty 2) bs ∧
      Layout.Holds now 0 1 bs := by
  obtain ⟨layout, hcreate⟩ : ∃ layout : LayoutKind.fullySeparated.Store,
      Layout.create Memory.full 0 1 2 = .ok layout := ⟨_, rfl⟩
  have hadmitted : Layout.Edit.AllAdmitted 0 1
      [.append Memory.full 1 ⟨5⟩ [], .append ⟨fun _ => 0, fun _ => Nat.zero_le _⟩ 1 ⟨6⟩ [],
        .setValue ⟨1, 0⟩ [7], .setWord ⟨1, 0⟩ ⟨8⟩] layout := by
    cases hcreate
    exact ⟨⟨by decide, rfl⟩, ⟨by decide, rfl⟩, ⟨⟨by decide, 1, rfl, by decide⟩, rfl⟩,
      ⟨by decide, 1, rfl, by decide⟩, trivial⟩
  obtain ⟨answers, now, bs, hrun, hsettles, hholds⟩ :=
    LayoutKind.exists_settles .fullySeparated (by decide) hcreate hadmitted
  refine ⟨layout, now, _, answers, bs, hcreate, hadmitted, hrun, ?_, hsettles, hholds⟩
  cases hcreate
  obtain rfl : _ = answers := congrArg Prod.fst hrun
  rfl

end ByteTable
