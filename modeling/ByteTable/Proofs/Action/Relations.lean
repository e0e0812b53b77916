import ByteTable.Proofs.Action
import Mathlib.Data.List.Forall2
import Mathlib.Order.Defs.Unbundled

/-!
# Runs in relation

Two ways to speak about runs without saying what they answer.

`Outcome.Agrees` puts two runs side by side, possibly on different kinds of state: both give the
same answer or fail for the same reason, and the states that they leave are related.  Two programs
that take the same steps are compared step by step (`Agrees.andThen`, `Action.agrees_forM`).

`Action.Moves` compares a state with the one that an action leaves it for, whether the action fails
or not.  For a relation that is reflexive and transitive, every action that is composed of such
moves is one (`Moves.bind`), so that nothing has to be known about the answers on the way.

`Action.Answers` is about the answers alone.  `Action.Swaps` is about an action that works on a
copy, which takes the place of the state at the end or is lost.

The logs play no part in any of these.
-/

namespace ByteTable

/-! ## Two runs side by side -/

/-- Whether two outcomes are alike up to their logs.  The states are related in one way after an
answer, and in another after a failure. -/
inductive Outcome.Agrees {σ τ α : Type} (done failed : σ → τ → Prop) :
    Outcome σ α → Outcome τ α → Prop where
  /-- Both give the same answer. -/
  | answered {a : α} {s : σ} {t : τ} {log log' : List Event} (h : done s t) :
    Agrees done failed ⟨.ok a, s, log⟩ ⟨.ok a, t, log'⟩
  /-- Both fail for the same reason. -/
  | failed {cause : Failure} {s : σ} {t : τ} {log log' : List Event} (h : failed s t) :
    Agrees done failed ⟨.error cause, s, log⟩ ⟨.error cause, t, log'⟩

namespace Outcome.Agrees

variable {σ τ α β : Type} {done failed : σ → τ → Prop} {done' failed' : σ → τ → Prop}
  {outcome : Outcome σ α} {outcome' : Outcome τ α}

theorem answer_eq (h : outcome.Agrees done failed outcome') : outcome'.answer = outcome.answer := by
  cases h with
  | answered _ => rfl
  | failed _ => rfl

theorem state (h : outcome.Agrees done done outcome') : done outcome.state outcome'.state := by
  cases h with
  | answered h => exact h
  | failed h => exact h

theorem mono (h : outcome.Agrees done failed outcome') (hdone : ∀ s t, done s t → done' s t)
    (hfailed : ∀ s t, failed s t → failed' s t) : outcome.Agrees done' failed' outcome' := by
  cases h with
  | answered h => exact .answered (hdone _ _ h)
  | failed h => exact .failed (hfailed _ _ h)

theorem trans {υ : Type} {outcome'' : Outcome υ α} {done'' failed'' : τ → υ → Prop}
    {R R' : σ → υ → Prop} (h : outcome.Agrees done failed outcome')
    (h' : outcome'.Agrees done'' failed'' outcome'')
    (hdone : ∀ s t u, done s t → done'' t u → R s u)
    (hfailed : ∀ s t u, failed s t → failed'' t u → R' s u) : outcome.Agrees R R' outcome'' := by
  cases h with
  | answered h =>
    cases h' with
    | answered h' => exact .answered (hdone _ _ _ h h')
  | failed h =>
    cases h' with
    | failed h' => exact .failed (hfailed _ _ _ h h')

/-- What is known of an answer's state on one side may be added to the relation. -/
theorem and_left (h : outcome.Agrees done failed outcome') (p : σ → Prop)
    (hp : ∀ a, outcome.answer = .ok a → p outcome.state) :
    outcome.Agrees (fun s t => done s t ∧ p s) failed outcome' := by
  cases h with
  | answered h => exact .answered ⟨h, hp _ rfl⟩
  | failed h => exact .failed h

theorem log (h : outcome.Agrees done failed outcome') (log log' : List Event) :
    Agrees done failed ⟨outcome.answer, outcome.state, log⟩
      ⟨outcome'.answer, outcome'.state, log'⟩ := by
  cases h with
  | answered h => exact .answered h
  | failed h => exact .failed h

theorem andThen (h : outcome.Agrees done failed outcome') {f : α → Action σ β} {g : α → Action τ β}
    (hf : ∀ a s t, done s t → ((f a).run s).Agrees done' failed ((g a).run t)) :
    (outcome.andThen f).Agrees done' failed (outcome'.andThen g) := by
  cases h with
  | @answered a s t _ _ h => exact (hf a s t h).log _ _
  | failed h => exact .failed h

/-- On states of their own, runs that agree answer with states that are related. -/
theorem apart {act : Action σ α} {act' : Action τ α} {s : σ} {t : τ}
    (h : (act.run s).Agrees done failed (act'.run t)) {υ ω : Type} (u : υ) (w : ω) :
    (∃ a s' t' log log', done s' t' ∧ (Action.apart s act).run u = ⟨.ok (a, s'), u, log⟩ ∧
        (Action.apart t act').run w = ⟨.ok (a, t'), w, log'⟩) ∨
      ∃ cause log log', (Action.apart s act).run u = ⟨.error cause, u, log⟩ ∧
        (Action.apart t act').run w = ⟨.error cause, w, log'⟩ := by
  generalize hrun : act.run s = outcome at h
  generalize hrun' : act'.run t = outcome' at h
  cases h with
  | answered h =>
    exact .inl ⟨_, _, _, _, _, h, Action.run_apart_of_ok hrun u, Action.run_apart_of_ok hrun' w⟩
  | failed _ =>
    exact .inr ⟨_, _, _, Action.run_apart_of_error hrun u, Action.run_apart_of_error hrun' w⟩

/-- Outcomes of one answer agree, whatever is known of their states after a failure. -/
theorem of_answer_eq (h : outcome.answer = outcome'.answer)
    (hdone : ∀ a, outcome.answer = .ok a → outcome'.answer = .ok a →
      done outcome.state outcome'.state) :
    outcome.Agrees done (fun _ _ => True) outcome' := by
  obtain ⟨answer, s, log⟩ := outcome
  obtain ⟨answer', t, log'⟩ := outcome'
  obtain rfl : answer = answer' := h
  rcases answer with cause | a
  · exact .failed trivial
  · exact .answered (hdone a rfl rfl)

theorem of_grows {a : α} {refused : σ → Prop} {refused' : τ → Prop} {grown : σ → Prop}
    {grown' : τ → Prop} {room : Prop}
    (h : outcome.Grows a (fun s => grown s ∧ room) fun s => refused s ∧ ¬room)
    (h' : outcome'.Grows a (fun t => grown' t ∧ room) fun t => refused' t ∧ ¬room) :
    outcome.Agrees (fun s t => grown s ∧ grown' t) (fun s t => refused s ∧ refused' t)
      outcome' := by
  cases h with
  | done h =>
    cases h' with
    | done h' => exact .answered ⟨h.1, h'.1⟩
    | refused h' => exact absurd h.2 h'.2
  | refused h =>
    cases h' with
    | done h' => exact absurd h'.2 h.2
    | refused h' => exact .failed ⟨h.1, h'.1⟩

end Outcome.Agrees

namespace Action

variable {σ τ α β : Type} {done failed : σ → τ → Prop}

theorem agrees_read_bind {f : σ → Except Crash α} {f' : τ → Except Crash α} {s : σ} {t : τ}
    (hsame : f' t = f s) (hfailed : failed s t) {g : α → Action σ β} {g' : α → Action τ β}
    (hg : ∀ a, f s = .ok a → ((g a).run s).Agrees done failed ((g' a).run t)) :
    ((read f >>= g).run s).Agrees done failed ((read f' >>= g').run t) := by
  rw [run_read_bind, run_read_bind, hsame]
  rcases hsee : f s with cause | a
  · exact .failed hfailed
  · exact hg a hsee

/-- Two loops over the same list.  `invariant` relates the states when the elements of a list are
done. -/
theorem agrees_forM {act : α → Action σ Unit} {act' : α → Action τ Unit} {all : List α}
    (invariant : List α → σ → τ → Prop)
    (hstep : ∀ (done : List α) (a : α) (rest : List α), done ++ a :: rest = all → ∀ s t,
      invariant done s t →
        ((act a).run s).Agrees (invariant (done ++ [a])) failed ((act' a).run t))
    {done rest : List α} (hall : done ++ rest = all) {s : σ} {t : τ} (h : invariant done s t) :
    ((rest.forM act).run s).Agrees (invariant all) failed ((rest.forM act').run t) := by
  induction rest generalizing done s t with
  | nil =>
    rw [List.append_nil] at hall
    exact .answered (hall ▸ h)
  | cons a rest ih =>
    rw [List.forM_eq_forM, List.forM_eq_forM, List.forM_cons, List.forM_cons, run_bind, run_bind]
    refine (hstep done a rest hall s t h).andThen ?_
    intro _ s' t' h'
    rw [List.append_cons] at hall
    exact ih hall h'

theorem agrees_forM_of_forall₂ {act : α → Action σ Unit} {act' : β → Action τ Unit}
    {R : α → β → Prop} {invariant : σ → τ → Prop} {as : List α} {bs : List β}
    (h : List.Forall₂ R as bs)
    (hstep : ∀ a ∈ as, ∀ b ∈ bs, R a b → ∀ s t, invariant s t →
      ((act a).run s).Agrees invariant failed ((act' b).run t))
    {s : σ} {t : τ} (hstart : invariant s t) :
    ((as.forM act).run s).Agrees invariant failed ((bs.forM act').run t) := by
  induction h generalizing s t with
  | nil => exact .answered hstart
  | @cons a b as bs hab _ ih =>
    rw [List.forM_eq_forM, List.forM_eq_forM, List.forM_cons, List.forM_cons, run_bind, run_bind]
    refine (hstep a List.mem_cons_self b List.mem_cons_self hab s t hstart).andThen ?_
    intro _ s' t' hnext
    refine ih (fun a' ha' b' hb' => ?_) hnext
    exact hstep a' (List.mem_cons_of_mem a ha') b' (List.mem_cons_of_mem b hb')

/-! ## What an action does to a state -/

/-- Whether an action leaves every state for one that is related to it. -/
def Moves (R : σ → σ → Prop) (act : Action σ α) : Prop :=
  ∀ s, R s (act.run s).state

namespace Moves

variable {R : σ → σ → Prop} {act : Action σ α}

theorem mono {R' : σ → σ → Prop} (h : act.Moves R) (hR : ∀ s s', R s s' → R' s s') : act.Moves R' :=
  fun s => hR s _ (h s)

theorem of_state_eq [Std.Refl R] (h : ∀ s, (act.run s).state = s) : act.Moves R := by
  intro s
  rw [h s]
  exact Std.Refl.refl s

theorem pure [Std.Refl R] (a : α) : (Pure.pure a : Action σ α).Moves R :=
  of_state_eq fun _ => rfl

theorem read [Std.Refl R] (f : σ → Except Crash α) : (Action.read f).Moves R :=
  of_state_eq (state_run_read f)

theorem note [Std.Refl R] (event : Event) : (Action.note event).Moves R :=
  of_state_eq fun _ => rfl

theorem fail [Std.Refl R] (cause : Failure) : (Action.fail cause : Action σ α).Moves R :=
  of_state_eq fun _ => rfl

theorem ofExcept [Std.Refl R] (result : Except TableError α) :
    (liftM result : Action σ α).Moves R :=
  of_state_eq fun s => by cases result <;> rfl

theorem modify {f : σ → σ} (h : ∀ s, R s (f s)) : (Action.modify f).Moves R := h

theorem bind [IsTrans σ R] (h : act.Moves R) {f : α → Action σ β} (hf : ∀ a, (f a).Moves R) :
    (act >>= f).Moves R := by
  intro s
  have hfirst := h s
  rw [run_bind]
  generalize act.run s = outcome at hfirst ⊢
  obtain ⟨cause | a, s', log⟩ := outcome
  · exact hfirst
  · exact IsTrans.trans _ _ _ hfirst (hf a s')

theorem read_bind_at [Std.Refl R] {f : σ → Except Crash α} {g : α → Action σ β} {s : σ}
    (h : ∀ a, f s = .ok a → R s ((g a).run s).state) : R s ((Action.read f >>= g).run s).state := by
  rw [run_read_bind]
  rcases hsee : f s with cause | a
  · exact Std.Refl.refl s
  · exact h a hsee

theorem forM {act : α → Action σ Unit} [Std.Refl R] [IsTrans σ R] (h : ∀ a, (act a).Moves R)
    (as : List α) : (as.forM act).Moves R := by
  induction as with
  | nil => exact .pure ()
  | cons a as ih => exact (h a).bind fun _ => ih

theorem within {split : τ → σ × (σ → τ)} {R' : τ → τ → Prop} (h : act.Moves R)
    (hsplit : ∀ t s', R (split t).1 s' → R' t ((split t).2 s')) :
    (Action.within split act).Moves R' := by
  intro t
  rw [run_within (show split t = ((split t).1, (split t).2) from rfl)]
  exact hsplit t _ (h _)

end Moves

/-- Whether everything that an action answers has a property. -/
def Answers (P : α → Prop) (act : Action σ α) : Prop :=
  ∀ s a, (act.run s).answer = .ok a → P a

theorem Answers.bind {Q : α → Prop} {P : β → Prop} {act : Action σ α} (h : act.Answers Q)
    {f : α → Action σ β} (hf : ∀ a, Q a → (f a).Answers P) : (act >>= f).Answers P := by
  intro s b hanswer
  have hfirst := h s
  rw [run_bind] at hanswer
  generalize act.run s = outcome at hfirst hanswer
  obtain ⟨cause | a, s', log⟩ := outcome
  · cases hanswer
  · exact hf a (hfirst a rfl) s' b hanswer

theorem Answers.any (act : Action σ α) : act.Answers fun _ => True :=
  fun _ _ _ => trivial

theorem Answers.ofExcept (result : Except TableError α) :
    (liftM result : Action σ α).Answers fun a => result = .ok a := by
  intro s a hanswer
  rcases result with cause | b
  · cases hanswer
  · exact congrArg Except.ok (Except.ok.inj hanswer)

/-- An action on a state of its own answers with a state that it moves to. -/
theorem Moves.answers_apart {R : σ → σ → Prop} {act : Action σ α} (h : act.Moves R) (initial : σ) :
    (apart initial act : Action τ (α × σ)).Answers fun answer => R initial answer.2 := by
  intro t answer hanswer
  have hmoved := h initial
  rcases hrun : act.run initial with ⟨cause | a, final, log⟩
  · rw [run_apart_of_error hrun] at hanswer
    cases hanswer
  · rw [run_apart_of_ok hrun] at hanswer
    cases hanswer
    rwa [hrun] at hmoved

/-- Whether an action either answers, and then leaves a state with a property, or fails and leaves
the state as it was. -/
def Swaps (P : σ → Prop) (act : Action σ α) : Prop :=
  ∀ s, (∃ a, (act.run s).answer = .ok a ∧ P (act.run s).state) ∨
    ∃ cause, (act.run s).answer = .error cause ∧ (act.run s).state = s

namespace Swaps

variable {P : σ → Prop} {act : Action σ α}

theorem state_eq_of_error (h : act.Swaps P) {s : σ} {cause : Failure}
    (hanswer : (act.run s).answer = .error cause) : (act.run s).state = s := by
  rcases h s with ⟨a, hanswered, -⟩ | ⟨_, -, hsame⟩
  · rw [hanswer] at hanswered
    cases hanswered
  · exact hsame

theorem fail (cause : Failure) : (Action.fail cause : Action σ α).Swaps P :=
  fun _ => .inr ⟨cause, rfl, rfl⟩

theorem replace {s : σ} (h : P s) : (Action.replace s).Swaps P :=
  fun _ => .inl ⟨(), rfl, h⟩

theorem bind {Q : α → Prop} (h : act.Moves Eq) (hanswers : act.Answers Q) {f : α → Action σ β}
    (hf : ∀ a, Q a → (f a).Swaps P) : (act >>= f).Swaps P := by
  intro s
  have hsame := h s
  have hfirst := hanswers s
  rw [run_bind]
  generalize act.run s = outcome at hsame hfirst ⊢
  obtain ⟨cause | a, s', log⟩ := outcome
  · exact .inr ⟨cause, rfl, hsame.symm⟩
  · obtain rfl : s = s' := hsame
    exact hf a (hfirst a rfl) s

theorem bind_pure (h : act.Swaps P) (f : α → β) : (act >>= fun a => Pure.pure (f a)).Swaps P := by
  intro s
  rw [run_bind_pure]
  rcases h s with ⟨a, hanswer, hP⟩ | ⟨cause, hanswer, hsame⟩
  · exact .inl ⟨f a, by rw [hanswer]; rfl, hP⟩
  · exact .inr ⟨cause, by rw [hanswer]; rfl, hsame⟩

theorem andNote (h : act.Swaps P) (event : Event) : (act.andNote event).Swaps P := by
  intro s
  obtain ⟨log, hrun⟩ := run_andNote act event s
  rw [hrun]
  exact h s

theorem within {split : τ → σ × (σ → τ)} {P' : τ → Prop} (h : act.Swaps P)
    (hsplit : ∀ t, (split t).2 (split t).1 = t) (hdone : ∀ t s', P s' → P' ((split t).2 s')) :
    (Action.within split act).Swaps P' := by
  intro t
  rw [run_within (show split t = ((split t).1, (split t).2) from rfl)]
  rcases h (split t).1 with ⟨a, hanswer, hP⟩ | ⟨cause, hanswer, hsame⟩
  · exact .inl ⟨a, hanswer, hdone t _ hP⟩
  · refine .inr ⟨cause, hanswer, ?_⟩
    rw [hsame]
    exact hsplit t

end Swaps

end Action

end ByteTable
