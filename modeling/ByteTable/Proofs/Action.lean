import ByteTable.Action

/-!
# Running actions

The equations by which an action written as a `do` block is run step by step.  `Outcome.andThen`
continues an outcome with a further action; `run_bind` turns a sequence into it, and an outcome
whose answer is known then lets it reduce.  Looks at the state run to `answer` of what they see, so
that `simp` with the facts about the state runs a whole block.

Nothing here knows about tables.
-/

namespace ByteTable

/-- An outcome continued by an action: on the state that was left if there was an answer, and not
at all otherwise. -/
def Outcome.andThen {σ α β : Type} (outcome : Outcome σ α) (f : α → Action σ β) : Outcome σ β :=
  match outcome with
  | ⟨.ok a, s, log⟩ => ⟨((f a).run s).answer, ((f a).run s).state, log ++ ((f a).run s).log⟩
  | ⟨.error cause, s, log⟩ => ⟨.error cause, s, log⟩

@[simp] theorem Outcome.andThen_ok {σ α β : Type} (a : α) (s : σ) (f : α → Action σ β) :
    Outcome.andThen ⟨.ok a, s, []⟩ f = (f a).run s := rfl

@[simp] theorem Outcome.andThen_error {σ α β : Type} (cause : Failure) (s : σ) (log : List Event)
    (f : α → Action σ β) :
    Outcome.andThen ⟨.error cause, s, log⟩ f = ⟨.error cause, s, log⟩ := rfl

namespace Action

variable {σ τ α β : Type}

theorem run_bind (act : Action σ α) (f : α → Action σ β) (s : σ) :
    (act >>= f).run s = (act.run s).andThen f := by
  rcases h : act.run s with ⟨cause | a, s', log⟩
  · exact run_bind_of_error h
  · exact run_bind_of_ok h

theorem run_bind_pure (act : Action σ α) (f : α → β) (s : σ) :
    (act >>= fun a => pure (f a)).run s =
      ⟨(act.run s).answer.map f, (act.run s).state, (act.run s).log⟩ := by
  rw [run_bind]
  rcases act.run s with ⟨cause | a, s', log⟩
  · rfl
  · simp only [Outcome.andThen, run_pure, List.append_nil]
    rfl

/-- The answer of a look: what was seen, or a crash if a check failed. -/
def answer (result : Except Crash α) : Except Failure α :=
  match result with
  | .ok a => .ok a
  | .error cause => .error (.crash cause)

@[simp] theorem answer_ok (a : α) : answer (.ok a : Except Crash α) = .ok a := rfl

@[simp] theorem answer_error (cause : Crash) :
    answer (.error cause : Except Crash α) = .error (.crash cause) := rfl

theorem run_read (f : σ → Except Crash α) (s : σ) :
    (read f).run s = ⟨answer (f s), s, []⟩ := by
  rcases h : f s with cause | a
  · simp [run_read_of_error h]
  · simp [run_read_of_ok h]

theorem run_read_bind (f : σ → Except Crash α) (g : α → Action σ β) (s : σ) :
    (read f >>= g).run s = Outcome.andThen ⟨answer (f s), s, []⟩ g := by
  rw [run_bind, run_read]

@[simp] theorem andThen_answer_ok (a : α) (s : σ) (g : α → Action σ β) :
    Outcome.andThen ⟨answer (.ok a), s, []⟩ g = (g a).run s := rfl

@[simp] theorem andThen_answer_error (cause : Crash) (s : σ) (g : α → Action σ β) :
    Outcome.andThen ⟨answer (.error cause), s, []⟩ g = ⟨.error (.crash cause), s, []⟩ := rfl

theorem run_liftM_crash (result : Except Crash α) (s : σ) :
    (liftM result : Action σ α).run s = ⟨answer result, s, []⟩ :=
  run_read _ s

theorem liftM_ok_bind (a : α) (f : α → Action σ β) :
    ((liftM (.ok a : Except Crash α) : Action σ α) >>= f) = f a := by
  ext s
  rw [run_bind, run_liftM_crash, answer_ok, Outcome.andThen_ok]

theorem run_liftM_ok (a : α) (s : σ) :
    (liftM (.ok a : Except TableError α) : Action σ α).run s = ⟨.ok a, s, []⟩ := rfl

theorem run_liftM_error (cause : TableError) (s : σ) :
    (liftM (.error cause : Except TableError α) : Action σ α).run s =
      ⟨.error (.error cause), s, []⟩ := rfl

/-- A note after an action changes only the log. -/
theorem run_andNote (act : Action σ α) (event : Event) (s : σ) :
    ∃ log, (act.andNote event).run s = ⟨(act.run s).answer, (act.run s).state, log⟩ := by
  rcases h : act.run s with ⟨(_ | _) | _, s', log⟩ <;>
    simp only [run] at h <;> simp [run, andNote, h]

/-- An action on a state of its own answers with the state it ends in. -/
theorem run_apart_of_ok {initial final : τ} {act : Action τ α} {a : α} {log : List Event}
    (h : act.run initial = ⟨.ok a, final, log⟩) (s : σ) :
    (apart initial act).run s = ⟨.ok (a, final), s, log⟩ := by
  unfold run at h
  simp [run, apart, h]

theorem run_apart_of_error {initial final : τ} {act : Action τ α} {cause : Failure}
    {log : List Event} (h : act.run initial = ⟨.error cause, final, log⟩) (s : σ) :
    (apart initial act).run s = ⟨.error cause, s, log⟩ := by
  unfold run at h
  simp [run, apart, h]

end Action

/-! ## Asking for memory -/

/-- The two ways in which an operation that asks for memory ends: it gives its answer and leaves a
state of the one kind, or memory is refused and it leaves a state of the other. -/
inductive Outcome.Grows {σ α : Type} (answer : α) (done refused : σ → Prop) :
    Outcome σ α → Prop where
  /-- Memory was granted. -/
  | done {s : σ} (h : done s) : Grows answer done refused ⟨.ok answer, s, []⟩
  /-- Memory was refused. -/
  | refused {s : σ} (h : refused s) :
    Grows answer done refused ⟨.error (.error .allocation), s, []⟩

namespace Outcome.Grows

variable {σ τ α β : Type} {answer : α} {answer' : β} {done refused : σ → Prop}
  {done' refused' : σ → Prop} {outcome : Outcome σ α}

theorem mono (h : outcome.Grows answer done refused) (hdone : ∀ s, done s → done' s)
    (hrefused : ∀ s, refused s → refused' s) : outcome.Grows answer done' refused' := by
  cases h with
  | done h => exact .done (hdone _ h)
  | refused h => exact .refused (hrefused _ h)

theorem andThen (h : outcome.Grows answer done refused) {f : α → Action σ β}
    (hdone : ∀ s, done s → ((f answer).run s).Grows answer' done' refused')
    (hrefused : ∀ s, refused s → refused' s) :
    (outcome.andThen f).Grows answer' done' refused' := by
  cases h with
  | done h => exact hdone _ h
  | refused h => exact .refused (hrefused _ h)

theorem within (h : outcome.Grows answer done refused) {split : τ → σ × (σ → τ)}
    {act : Action σ α} {t : τ} {component : σ} (putBack : σ → τ) (done' refused' : τ → Prop)
    (hsplit : split t = (component, putBack)) (hrun : act.run component = outcome)
    (hdone : ∀ s, done s → done' (putBack s))
    (hrefused : ∀ s, refused s → refused' (putBack s)) :
    ((Action.within split act).run t).Grows answer done' refused' := by
  rw [Action.run_within hsplit, hrun]
  cases h with
  | done h => exact .done (hdone _ h)
  | refused h => exact .refused (hrefused _ h)

/-- On a state of its own, an operation that is refused memory leaves nothing behind. -/
theorem apart {act : Action σ α} {initial : σ} (h : (act.run initial).Grows answer done refused)
    (t : τ) :
    (∃ final, done final ∧
        (Action.apart initial act).run t = ⟨.ok (answer, final), t, []⟩) ∨
      (Action.apart initial act).run t = ⟨.error (.error .allocation), t, []⟩ := by
  generalize hrun : act.run initial = outcome at h
  cases h with
  | done h => exact .inl ⟨_, h, Action.run_apart_of_ok hrun t⟩
  | refused h => exact .inr (Action.run_apart_of_error hrun t)

end Outcome.Grows

/-- A loop over a list that may be refused memory at each element.  `invariant` says what holds when
the elements of a list are done. -/
theorem Action.grows_forM {σ α : Type} {act : α → Action σ Unit} {refused : σ → Prop}
    (invariant : List α → σ → Prop) (rest : List α) {done : List α} {s : σ}
    (hstep : ∀ a ∈ rest, ∀ done s, invariant done s →
      ((act a).run s).Grows () (invariant (done ++ [a])) refused)
    (h : invariant done s) :
    ((rest.forM act).run s).Grows () (invariant (done ++ rest)) refused := by
  induction rest generalizing done s with
  | nil =>
    rw [List.append_nil]
    exact .done h
  | cons a rest ih =>
    rw [List.forM_eq_forM, List.forM_cons, run_bind]
    refine (hstep a List.mem_cons_self done s h).andThen (fun s' hs' => ?_) fun _ => id
    rw [List.append_cons]
    exact ih (fun a' ha' => hstep a' (List.mem_cons_of_mem a ha')) hs'

/-! ## Looking -/

@[simp] theorem ok_bind {ε α β : Type} (a : α) (f : α → Except ε β) :
    ((.ok a : Except ε α) >>= f) = f a := rfl

@[simp] theorem error_bind {ε α β : Type} (cause : ε) (f : α → Except ε β) :
    ((.error cause : Except ε α) >>= f) = .error cause := rfl

theorem exists_of_bind_eq_ok {ε α β : Type} {result : Except ε α} {f : α → Except ε β} {b : β}
    (h : result >>= f = .ok b) : ∃ a, result = .ok a ∧ f a = .ok b := by
  cases result with
  | ok a => exact ⟨a, rfl, h⟩
  | error cause => cases h

theorem eq_error_or_of_bind_eq_error {ε α β : Type} {result : Except ε α} {f : α → Except ε β}
    {cause : ε} (h : result >>= f = .error cause) :
    result = .error cause ∨ ∃ a, result = .ok a ∧ f a = .error cause := by
  cases result with
  | ok a => exact .inr ⟨a, rfl, h⟩
  | error cause' =>
    rw [error_bind, Except.error.injEq] at h
    exact .inl (congrArg _ h)

section Lists

variable {ε α β : Type}

theorem mapM_eq_ok {f : α → Except ε β} {g : α → β} {as : List α} (h : ∀ a ∈ as, f a = .ok (g a)) :
    as.mapM f = .ok (as.map g) := by
  induction as with
  | nil => rfl
  | cons a as ih =>
    rw [List.mapM_cons, h a List.mem_cons_self, ok_bind,
      ih fun a' ha' => h a' (List.mem_cons_of_mem a ha')]
    rfl

theorem mapM_eq_ok_filterMap {γ : Type} {f : α → Except ε β} {p : α → Option γ} {g : γ → β}
    {as : List α} (h : ∀ a ∈ as, ∃ c, p a = some c ∧ f a = .ok (g c)) :
    as.mapM f = .ok ((as.filterMap p).map g) := by
  induction as with
  | nil => rfl
  | cons a as ih =>
    obtain ⟨c, hc, ha⟩ := h a List.mem_cons_self
    rw [List.mapM_cons, ha, ok_bind, ih fun a' ha' => h a' (List.mem_cons_of_mem a ha'),
      List.filterMap_cons_some hc, List.map_cons]
    rfl

theorem findM?_eq_ok {f : α → Except ε Bool} {p : α → Bool} {as : List α}
    (h : ∀ a ∈ as, f a = .ok (p a)) : as.findM? f = .ok (as.find? p) := by
  induction as with
  | nil => rfl
  | cons a as ih =>
    rw [List.findM?, h a List.mem_cons_self, ok_bind, List.find?_cons,
      ih fun a' ha' => h a' (List.mem_cons_of_mem a ha')]
    cases p a <;> rfl

theorem filterAuxM_eq_ok {f : α → Except ε Bool} {p : α → Bool} {as : List α}
    (h : ∀ a ∈ as, f a = .ok (p a)) (acc : List α) :
    as.filterAuxM f acc = .ok ((as.filter p).reverse ++ acc) := by
  induction as generalizing acc with
  | nil => rfl
  | cons a as ih =>
    rw [List.filterAuxM, h a List.mem_cons_self, ok_bind,
      ih fun a' ha' => h a' (List.mem_cons_of_mem a ha'), List.filter_cons]
    cases p a <;> simp

theorem filterM_eq_ok {f : α → Except ε Bool} {p : α → Bool} {as : List α}
    (h : ∀ a ∈ as, f a = .ok (p a)) : as.filterM f = .ok (as.filter p) := by
  rw [List.filterM, filterAuxM_eq_ok h]
  simp [pure, Except.pure]

end Lists

end ByteTable
