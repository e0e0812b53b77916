import ByteTable.Proofs.Action
import ByteTable.Proofs.Buckets.Invariant

/-!
# Lawful layouts

What the chaining algorithm relies on in a layout, as laws about the buckets that the layout shows.
`LawfulLayout.Shows layout keySize valueSize bs` says that the layout keeps exactly the slots of
`bs`; every law then describes one operation of `Layout` as an operation on `bs`.  Nothing about
bytes, columns or directories is left in the laws, so a proof that uses only them holds of every
layout.

Memory enters in one place.  An `append` or a `redistribute` either does its work or is refused
memory, and then shows the same buckets as before; this is `Outcome.Grows`.  Which of the two an
append does is decided by the limits of the chains that it makes longer (`Layout.HasRoom`), and by
nothing else.  A layout whose records are larger than a machine word can say stays empty, and both
operations crash on it, which is the part that `Fits` plays.
-/

namespace ByteTable

/-- Whether a memory has room for one more slot in a bucket of so many.  `widths` lists the chains
of a bucket, each with the bytes that a slot takes in it. -/
def Layout.HasRoom (widths : List (Part × Nat)) (memory : Memory) (bucket length : Nat) : Prop :=
  ∀ chain ∈ widths, (length + 1) * chain.2 ≤ memory.limit (.chain chain.1 bucket)

/-- A layout that does to the buckets it shows what the chaining algorithm expects. -/
class LawfulLayout (L : Type) [Layout L] where
  /-- Whether the layout keeps exactly these slots, with keys and values of these lengths. -/
  Shows : L → (keySize valueSize : Nat) → Buckets → Prop
  /-- Whether the size of a record fits a machine word. -/
  Fits : (keySize valueSize : Nat) → Prop
  /-- The chains of a bucket, each with the bytes that a slot takes in it. -/
  widths : (keySize valueSize : Nat) → List (Part × Nat)
  fits_of_lt {keySize valueSize : Nat} : 8 + keySize + valueSize < wordLimit →
    Fits keySize valueSize
  sized {layout : L} {keySize valueSize : Nat} {bs : Buckets} :
    Shows layout keySize valueSize bs → bs.Sized keySize valueSize
  fits_of_at? {layout : L} {keySize valueSize : Nat} {bs : Buckets} {slot : Slot}
    {record : SlotRecord} : Shows layout keySize valueSize bs → bs.at? slot = some record →
    Fits keySize valueSize
  /-- A bucket's words fit in a buffer. -/
  length_row_le {layout : L} {keySize valueSize : Nat} {bs : Buckets} :
    Shows layout keySize valueSize bs → ∀ bucket, 8 * (bs.row bucket).length ≤ maxBytes
  /-- A directory of the buckets fits in a buffer. -/
  length_le {layout : L} {keySize valueSize : Nat} {bs : Buckets} :
    Shows layout keySize valueSize bs → 24 * bs.length ≤ maxBytes
  create_eq_ok {memory : Memory} {keySize valueSize bucketCount : Nat} {layout : L} :
    Layout.create memory keySize valueSize bucketCount = .ok layout →
    Shows layout keySize valueSize (Buckets.empty bucketCount)
  create_eq_error {memory : Memory} {keySize valueSize bucketCount : Nat} {cause : TableError} :
    (Layout.create memory keySize valueSize bucketCount : Except TableError L) = .error cause →
    cause = .allocation
  bucketCount_eq {layout : L} {keySize valueSize : Nat} {bs : Buckets} :
    Shows layout keySize valueSize bs → Layout.bucketCount layout = bs.length
  bucketLength_eq {layout : L} {keySize valueSize : Nat} {bs : Buckets} {bucket : Nat} :
    Shows layout keySize valueSize bs → bucket < bs.length →
    Layout.bucketLength layout bucket = .ok (bs.row bucket).length
  recordAt_eq {layout : L} {keySize valueSize : Nat} {bs : Buckets} {slot : Slot}
    {record : SlotRecord} : Shows layout keySize valueSize bs → bs.at? slot = some record →
    Layout.wordAt layout slot = .ok record.word ∧ Layout.keyAt layout slot = .ok record.key ∧
      Layout.valueAt layout slot = .ok record.value
  run_setWord {layout : L} {keySize valueSize : Nat} {bs : Buckets} {slot : Slot}
    {record : SlotRecord} : Shows layout keySize valueSize bs → bs.at? slot = some record →
    ∀ word, ∃ layout', (Layout.setWord slot word).run layout = ⟨.ok (), layout', []⟩ ∧
      Shows layout' keySize valueSize (bs.update slot fun old => { old with word })
  run_setValue {layout : L} {keySize valueSize : Nat} {bs : Buckets} {slot : Slot}
    {record : SlotRecord} {value : Bytes} : Shows layout keySize valueSize bs →
    bs.at? slot = some record → value.length = valueSize →
    ∃ layout', (Layout.setValue slot value).run layout = ⟨.ok (), layout', []⟩ ∧
      Shows layout' keySize valueSize (bs.update slot fun old => { old with value })
  run_overwrite {layout : L} {keySize valueSize : Nat} {bs : Buckets} {slot : Slot}
    {record : SlotRecord} {key : Bytes} : Shows layout keySize valueSize bs →
    bs.at? slot = some record → key.length = keySize →
    ∀ word, ∃ layout', (Layout.overwrite slot word key).run layout = ⟨.ok (), layout', []⟩ ∧
      Shows layout' keySize valueSize
        (bs.update slot fun _ => ⟨word, key, Bytes.zeroes valueSize⟩)
  /-- A slot is added if there is room for it in all chains, and refused otherwise. -/
  run_append {layout : L} {keySize valueSize : Nat} {bs : Buckets} {bucket : Nat} {key : Bytes} :
    Shows layout keySize valueSize bs → Fits keySize valueSize → bucket < bs.length →
    key.length = keySize → ∀ memory word,
    ((Layout.append memory bucket word key).run layout).Grows (bs.row bucket).length
      (fun layout' =>
        Shows layout' keySize valueSize (bs.push bucket ⟨word, key, Bytes.zeroes valueSize⟩) ∧
          Layout.HasRoom (widths keySize valueSize) memory bucket (bs.row bucket).length)
      (fun layout' => Shows layout' keySize valueSize bs ∧
        ¬Layout.HasRoom (widths keySize valueSize) memory bucket (bs.row bucket).length)
  run_append_of_not_fits {layout : L} {keySize valueSize : Nat} {bs : Buckets} {bucket : Nat}
    {key : Bytes} : Shows layout keySize valueSize bs → ¬Fits keySize valueSize →
    ∀ memory word, (Layout.append memory bucket word key).run layout =
      ⟨.error (.crash .overflow), layout, []⟩
  /-- Records moved in place end up where a rehash has to put them. -/
  run_redistribute {layout : L} {keySize valueSize : Nat} {bs : Buckets} {bucketCount : Nat}
    {redistribute : Memory → Policy → Nat → Action L Unit} :
    Layout.redistribute? = some redistribute → Shows layout keySize valueSize bs →
    Fits keySize valueSize → 0 < bucketCount → ∀ memory policy,
    ((redistribute memory policy bucketCount).run layout).Grows ()
      (Shows · keySize valueSize (Buckets.spread policy bucketCount bs.liveRecords))
      (· = layout)
  run_redistribute_of_not_fits {layout : L} {keySize valueSize : Nat} {bs : Buckets}
    {bucketCount : Nat} {redistribute : Memory → Policy → Nat → Action L Unit} :
    Layout.redistribute? = some redistribute → Shows layout keySize valueSize bs →
    ¬Fits keySize valueSize → ∀ memory policy,
    (redistribute memory policy bucketCount).run layout = ⟨.error (.crash .overflow), layout, []⟩

namespace LawfulLayout

variable {L : Type} [Layout L] [LawfulLayout L] {layout : L} {keySize valueSize : Nat}
  {bs : Buckets} {slot : Slot} {record : SlotRecord}

theorem wordAt_eq (h : Shows layout keySize valueSize bs) (hslot : bs.at? slot = some record) :
    Layout.wordAt layout slot = .ok record.word :=
  (recordAt_eq h hslot).1

theorem keyAt_eq (h : Shows layout keySize valueSize bs) (hslot : bs.at? slot = some record) :
    Layout.keyAt layout slot = .ok record.key :=
  (recordAt_eq h hslot).2.1

theorem valueAt_eq (h : Shows layout keySize valueSize bs) (hslot : bs.at? slot = some record) :
    Layout.valueAt layout slot = .ok record.value :=
  (recordAt_eq h hslot).2.2

theorem bucketContents_eq (h : Shows layout keySize valueSize bs) {bucket : Nat}
    (hbucket : bucket < bs.length) :
    Layout.bucketContents layout bucket = .ok (bs.row bucket) := by
  have hrecord : ∀ item ∈ List.range (bs.row bucket).length,
      Layout.recordAt layout ⟨bucket, item⟩ =
        .ok ((bs.row bucket)[item]?.getD ⟨⟨0⟩, [], []⟩) := by
    intro item hitem
    have hlt := List.mem_range.mp hitem
    have hslot : bs.at? ⟨bucket, item⟩ = some (bs.row bucket)[item] :=
      List.getElem?_eq_getElem hlt
    rw [Layout.recordAt, wordAt_eq h hslot, keyAt_eq h hslot, valueAt_eq h hslot,
      List.getElem?_eq_getElem hlt]
    rfl
  rw [Layout.bucketContents, bucketLength_eq h hbucket, ok_bind, mapM_eq_ok hrecord,
    Except.ok.injEq]
  apply List.ext_getElem (by simp)
  intro item _ hitem
  simp [List.getElem?_eq_getElem hitem]

/-- What a layout shows is what reading all its slots gives. -/
theorem contents_eq (h : Shows layout keySize valueSize bs) :
    Layout.contents layout = .ok bs := by
  have hbucket : ∀ bucket ∈ List.range bs.length,
      Layout.bucketContents layout bucket = .ok (bs.row bucket) :=
    fun bucket hbucket => bucketContents_eq h (List.mem_range.mp hbucket)
  rw [Layout.contents, bucketCount_eq h, mapM_eq_ok hbucket, Except.ok.injEq]
  apply List.ext_getElem (by simp)
  intro bucket _ hlt
  simp [Grid.row, List.getElem?_eq_getElem hlt]

theorem length_lt (h : Shows layout keySize valueSize bs) : bs.length + 1 < wordLimit := by
  have hlength := length_le h
  unfold maxBytes at hlength
  unfold wordLimit
  omega

theorem length_row_lt (h : Shows layout keySize valueSize bs) (bucket : Nat) :
    (bs.row bucket).length + 1 < wordLimit := by
  have hlength := length_row_le h bucket
  unfold maxBytes at hlength
  unfold wordLimit
  omega

end LawfulLayout

end ByteTable
