import ByteTable.Proofs.Action.Relations
import ByteTable.Proofs.Directory

/-!
# What a directory does not change

The grid that a directory keeps does not say which of its chains were created: a bucket without
slots may have an empty chain or none.  This module is about that difference.

An action on one bucket leaves the chains of all others as they are, and takes none away
(`Directory.Touches`).  Together with the grid this determines a directory: two that keep the same
grid and have created the same chains are equal (`Directory.Keeps.eq_of_isSome_eq`), and one that
kept its grid while chains may have been created has at most empty ones more
(`Directory.Keeps.onlyOpened`).
-/

namespace ByteTable

namespace Directory

variable {γ α : Type} {d d' : Directory γ} {bucket : Nat}

/-- A directory is given by its chains. -/
theorem eq_of_chainAt_eq (hsize : d.size = d'.size)
    (h : ∀ bucket, d.chainAt bucket = d'.chainAt bucket) : d = d' := by
  obtain ⟨chains⟩ := d
  obtain ⟨chains'⟩ := d'
  have hsize : chains.size = chains'.size := hsize
  rw [Directory.mk.injEq]
  apply Array.ext hsize
  intro bucket hbucket hbucket'
  simpa [chainAt, hbucket, hbucket'] using h bucket

/-! ## One bucket -/

/-- Whether directories differ in one bucket at most, and no chain is missing in the second. -/
structure Touches (bucket : Nat) (d d' : Directory γ) : Prop where
  size_eq : d'.size = d.size
  chainAt_of_ne (other : Nat) : other ≠ bucket → d'.chainAt other = d.chainAt other
  isSome : (d.chainAt bucket).isSome → (d'.chainAt bucket).isSome

instance (bucket : Nat) : Std.Refl (Touches (γ := γ) bucket) :=
  ⟨fun _ => ⟨rfl, fun _ _ => rfl, id⟩⟩

instance (bucket : Nat) : IsTrans (Directory γ) (Touches bucket) :=
  ⟨fun _ _ _ h h' => ⟨h'.size_eq.trans h.size_eq,
    fun other hne => (h'.chainAt_of_ne other hne).trans (h.chainAt_of_ne other hne),
    fun hsome => h'.isSome (h.isSome hsome)⟩⟩

theorem touches_put (d : Directory γ) (bucket : Nat) (chain : γ) :
    Touches bucket d (d.put bucket chain) := by
  refine ⟨size_put d bucket chain, fun other hne => ?_, fun hsome => ?_⟩
  · simp [put, chainAt, Ne.symm hne]
  · obtain ⟨old, hold⟩ := Option.isSome_iff_exists.mp hsome
    rw [chainAt_put (bucket_lt_of_chainAt hold), if_pos rfl]
    rfl

theorem moves_openChain (bucket : Nat) (fresh : Except TableError γ) :
    (openChain bucket fresh).Moves (Touches bucket) := by
  refine (Action.Moves.read _).bind fun chain? => ?_
  rcases chain? with _ | chain
  · exact (Action.Moves.ofExcept fresh).bind fun chain =>
      .modify fun d => touches_put d bucket chain
  · exact .pure ()

theorem moves_onChain (bucket : Nat) (act : Action γ α) :
    (onChain bucket act).Moves (Touches bucket) := by
  intro d
  rcases hc : d.chainAt bucket with _ | c
  · have hchain : d.chain bucket = .error .outOfBounds := by
      by_cases hbucket : bucket < d.size
      · rw [Directory.chain, chain?_eq hbucket, hc]
        rfl
      · rw [Directory.chain, chain?_eq_error_iff.mpr (Nat.not_lt.mp hbucket)]
        rfl
    simp only [Action.run, onChain, hchain]
    exact Std.Refl.refl d
  · rw [run_onChain act hc]
    exact touches_put d bucket _

/-! ## All buckets -/

/-- Whether a second directory has as many buckets, and every chain of the first, perhaps
changed. -/
structure Opens (d d' : Directory γ) : Prop where
  size_eq : d'.size = d.size
  isSome (bucket : Nat) : (d.chainAt bucket).isSome → (d'.chainAt bucket).isSome

instance : Std.Refl (@Opens γ) :=
  ⟨fun _ => ⟨rfl, fun _ => id⟩⟩

instance : IsTrans (Directory γ) Opens :=
  ⟨fun _ _ _ h h' => ⟨h'.size_eq.trans h.size_eq,
    fun bucket hsome => h'.isSome bucket (h.isSome bucket hsome)⟩⟩

theorem Touches.opens (h : d.Touches bucket d') : d.Opens d' := by
  refine ⟨h.size_eq, fun other hsome => ?_⟩
  by_cases hother : other = bucket
  · subst hother
    exact h.isSome hsome
  · rwa [h.chainAt_of_ne other hother]

/-- Whether directories differ at most in chains that were created and left blank. -/
structure OnlyOpened (blank : γ) (d d' : Directory γ) : Prop where
  size_eq : d'.size = d.size
  chainAt (bucket : Nat) : d'.chainAt bucket = d.chainAt bucket ∨
    d.chainAt bucket = none ∧ d'.chainAt bucket = some blank

namespace Keeps

variable {d d' : Directory Column} {width : Nat} {grid : Grid Bytes}

/-- A chain that exists is determined by its row. -/
theorem chainAt_eq (h : d.Keeps width grid) (h' : d'.Keeps width grid) {bucket : Nat}
    (hsome : (d.chainAt bucket).isSome = (d'.chainAt bucket).isSome) :
    d.chainAt bucket = d'.chainAt bucket := by
  have hcolumn := h.column bucket
  have hcolumn' := h'.column bucket
  rcases hc : d.chainAt bucket with _ | c
  · rw [hc, Option.isSome_none, eq_comm, Option.isSome_eq_false_iff, Option.isNone_iff_eq_none]
      at hsome
    exact hsome.symm
  · rw [hc, Option.isSome_some, eq_comm, Option.isSome_iff_exists] at hsome
    obtain ⟨c', hc'⟩ := hsome
    rw [hc] at hcolumn
    rw [hc'] at hcolumn'
    rw [hc', Option.some.injEq]
    exact Column.eq_of_toList_eq (hcolumn.1.trans hcolumn'.1.symm)
      (hcolumn.2.2.trans hcolumn'.2.2.symm)

/-- A bucket that has an element has a chain. -/
theorem isSome_of_row_ne_nil (h : d.Keeps width grid) {bucket : Nat}
    (hrow : grid.row bucket ≠ []) : (d.chainAt bucket).isSome := by
  have hcolumn := h.column bucket
  rcases hc : d.chainAt bucket with _ | c
  · rw [hc] at hcolumn
    exact absurd hcolumn hrow
  · rfl

/-- Directories that keep the same grid and have created the same chains are equal. -/
theorem eq_of_isSome_eq (h : d.Keeps width grid) (h' : d'.Keeps width grid)
    (hsome : ∀ bucket, (d.chainAt bucket).isSome = (d'.chainAt bucket).isSome) : d = d' :=
  eq_of_chainAt_eq (h.size_eq.trans h'.size_eq.symm) fun bucket => h.chainAt_eq h' (hsome bucket)

/-- Two changes of one bucket after which both directories keep the same elements there, and not
none, are the same change. -/
theorem eq_of_touches {before : Directory Column} (h : d.Keeps width grid)
    (h' : d'.Keeps width grid) {bucket : Nat} (htouches : before.Touches bucket d)
    (htouches' : before.Touches bucket d')
    (hrow : grid.row bucket ≠ []) : d = d' := by
  refine h.eq_of_isSome_eq h' fun other => ?_
  by_cases hother : other = bucket
  · subst hother
    rw [h.isSome_of_row_ne_nil hrow, h'.isSome_of_row_ne_nil hrow]
  · rw [htouches.chainAt_of_ne other hother, htouches'.chainAt_of_ne other hother]

/-- If the grid is still kept, the chains that were created are empty. -/
theorem onlyOpened (h : d.Keeps width grid) (h' : d'.Keeps width grid) (hopens : d.Opens d') :
    d.OnlyOpened (Column.empty width) d' := by
  refine ⟨h'.size_eq.trans h.size_eq.symm, fun bucket => ?_⟩
  rcases hc : d.chainAt bucket with _ | c
  · rcases hc' : d'.chainAt bucket with _ | c'
    · exact .inl rfl
    · refine .inr ⟨rfl, ?_⟩
      have hcolumn := h.column bucket
      have hcolumn' := h'.column bucket
      rw [hc] at hcolumn
      rw [hc'] at hcolumn'
      have hrow : grid.row bucket = [] := hcolumn
      rw [Option.some.injEq]
      refine Column.eq_of_toList_eq hcolumn'.1 ?_
      rw [hcolumn'.2.2, hrow, Column.toList_empty]
  · have hsome : (d.chainAt bucket).isSome = (d'.chainAt bucket).isSome := by
      rw [hopens.isSome bucket (hc ▸ rfl), hc, Option.isSome_some]
    exact .inl ((h.chainAt_eq h' hsome).symm.trans hc)

end Keeps

theorem KeepsWords.onlyOpened {d d' : Directory WordColumn} {grid : Grid SlotWord}
    (h : d.KeepsWords grid) (h' : d'.KeepsWords grid) (hopens : d.Opens d') :
    d.OnlyOpened #[] d' := by
  refine ⟨h'.size_eq.trans h.size_eq.symm, fun bucket => ?_⟩
  have hwords := h.words bucket
  have hwords' := h'.words bucket
  rcases hc : d.chainAt bucket with _ | words
  · rcases hc' : d'.chainAt bucket with _ | words'
    · exact .inl rfl
    · rw [hc, Option.elim_none] at hwords
      rw [hc', Option.elim_some, ← hwords] at hwords'
      exact .inr ⟨rfl, congrArg some (Array.toList_inj.mp hwords')⟩
  · obtain ⟨words', hc'⟩ := Option.isSome_iff_exists.mp (hopens.isSome bucket (hc ▸ rfl))
    rw [hc, Option.elim_some] at hwords
    rw [hc', Option.elim_some, ← hwords] at hwords'
    rw [hc']
    exact .inl (congrArg some (Array.toList_inj.mp hwords'))

end Directory

end ByteTable
