import ByteTable.Event
import ByteTable.Failure

/-!
# Actions

An operation on a table reads and changes it, may fail, and may write lines to the log.  An
`Action σ α` is such an operation on a state `σ` with an answer of type `α`: applied to a state it
gives an `Outcome`, that is the answer or the failure, the state it leaves behind, and the events
it logged, in order.

The state is part of every outcome, also of a failed one.  What a failed operation leaves behind
is thereby a plain fact about the outcome, and "a failed operation changes nothing" a statement
that can be proved or refuted.

Operations that only look are plain functions into `Except Crash`; in an action they stand for
themselves, as do computations in `Except TableError`.  `within` runs an action on a component of
the state, and `apart` runs one on a state of its own, which is lost when the action fails.
-/

namespace ByteTable

/-- What an action gives: an answer or a failure, the state afterwards, and the events logged. -/
structure Outcome (σ α : Type) where
  /-- The answer, or why there is none. -/
  answer : Except Failure α
  /-- The state that the action leaves, whether it failed or not. -/
  state : σ
  /-- The logged events, first to last. -/
  log : List Event

/-- An operation on a state that may fail and may log. -/
def Action (σ α : Type) : Type :=
  σ → Outcome σ α

namespace Action

variable {σ τ α β : Type}

/-- The outcome of an action on a state. -/
@[inline] def run (act : Action σ α) (s : σ) : Outcome σ α :=
  act s

@[ext] theorem ext {act act' : Action σ α} (h : ∀ s, act.run s = act'.run s) : act = act' :=
  funext h

/-- The action that only answers. -/
@[inline] protected def pure (a : α) : Action σ α :=
  fun s => ⟨.ok a, s, []⟩

/-- One action after another.  The second starts on the state the first left, and does not start
at all if the first failed. -/
@[inline] protected def bind (act : Action σ α) (f : α → Action σ β) : Action σ β := fun s =>
  match act s with
  | ⟨.ok a, s', log⟩ =>
    match f a s' with
    | ⟨answer, s'', log'⟩ => ⟨answer, s'', log ++ log'⟩
  | ⟨.error cause, s', log⟩ => ⟨.error cause, s', log⟩

instance : Monad (Action σ) where
  pure := Action.pure
  bind := Action.bind

/-! ## Elementary actions -/

/-- Fail, and leave the state as it is. -/
@[inline] def fail (cause : Failure) : Action σ α :=
  fun s => ⟨.error cause, s, []⟩

/-- Fail with an error that callers are promised. -/
@[inline] def raise (cause : TableError) : Action σ α :=
  fail (.error cause)

/-- Fail by a check. -/
@[inline] def crash (cause : Crash) : Action σ α :=
  fail (.crash cause)

/-- Log one event. -/
@[inline] def note (event : Event) : Action σ Unit :=
  fun s => ⟨.ok (), s, [event]⟩

/-- Look at the state. -/
@[inline] def read (f : σ → Except Crash α) : Action σ α := fun s =>
  match f s with
  | .ok a => ⟨.ok a, s, []⟩
  | .error cause => ⟨.error (.crash cause), s, []⟩

/-- The state itself. -/
@[inline] def current : Action σ σ :=
  fun s => ⟨.ok s, s, []⟩

/-- Replace the state. -/
@[inline] def replace (s : σ) : Action σ Unit :=
  fun _ => ⟨.ok (), s, []⟩

/-- Change the state by a function. -/
@[inline] def modify (f : σ → σ) : Action σ Unit :=
  fun s => ⟨.ok (), f s, []⟩

/-- A look at something else, as an action. -/
@[inline] def ofRead (result : Except Crash α) : Action σ α :=
  read fun _ => result

/-- A fallible computation, as an action. -/
@[inline] def ofExcept : Except TableError α → Action σ α
  | .ok a => Action.pure a
  | .error cause => raise cause

instance : MonadLift (Except Crash) (Action σ) := ⟨ofRead⟩

instance : MonadLift (Except TableError) (Action σ) := ⟨ofExcept⟩

/-! ## Actions on other states -/

/-- Run an action on a component of the state.  `split` takes the component out and says how to put
a new one back. -/
@[inline] def within (split : σ → τ × (τ → σ)) (act : Action τ α) : Action σ α := fun s =>
  match split s with
  | (component, putBack) =>
    match act component with
    | ⟨answer, component', log⟩ => ⟨answer, putBack component', log⟩

/-- Run an action on a state of its own and answer with that state too.  If the action fails, its
state is lost. -/
@[inline] def apart (initial : τ) (act : Action τ α) : Action σ (α × τ) := fun s =>
  match act initial with
  | ⟨.ok a, final, log⟩ => ⟨.ok (a, final), s, log⟩
  | ⟨.error cause, _, log⟩ => ⟨.error cause, s, log⟩

/-- Run an action and log an event after it, also when it failed with a promised error.  Nothing is
logged after a crash. -/
@[inline] def andNote (act : Action σ α) (event : Event) : Action σ α := fun s =>
  match act s with
  | ⟨.error (.crash cause), s', log⟩ => ⟨.error (.crash cause), s', log⟩
  | ⟨answer, s', log⟩ => ⟨answer, s', log ++ [event]⟩

/-- Run an action and log an event if it failed with a promised error. -/
@[inline] def noteError (act : Action σ α) (event : TableError → Event) : Action σ α := fun s =>
  match act s with
  | ⟨.error (.error cause), s', log⟩ => ⟨.error (.error cause), s', log ++ [event cause]⟩
  | outcome => outcome

/-! ## Laws -/

@[simp] theorem run_pure (a : α) (s : σ) : (pure a : Action σ α).run s = ⟨.ok a, s, []⟩ := rfl

@[simp] theorem run_fail (cause : Failure) (s : σ) :
    (fail cause : Action σ α).run s = ⟨.error cause, s, []⟩ := rfl

@[simp] theorem run_note (event : Event) (s : σ) : (note event).run s = ⟨.ok (), s, [event]⟩ := rfl

@[simp] theorem run_current (s : σ) : (current : Action σ σ).run s = ⟨.ok s, s, []⟩ := rfl

@[simp] theorem run_replace (s s' : σ) : (replace s').run s = ⟨.ok (), s', []⟩ := rfl

@[simp] theorem run_modify (f : σ → σ) (s : σ) : (modify f).run s = ⟨.ok (), f s, []⟩ := rfl

/-- A look answers what it sees, and changes nothing. -/
theorem run_read_of_ok {f : σ → Except Crash α} {s : σ} {a : α} (h : f s = .ok a) :
    (read f).run s = ⟨.ok a, s, []⟩ := by
  simp [run, read, h]

/-- A look that fails a check changes nothing. -/
theorem run_read_of_error {f : σ → Except Crash α} {s : σ} {cause : Crash}
    (h : f s = .error cause) : (read f).run s = ⟨.error (.crash cause), s, []⟩ := by
  simp [run, read, h]

/-- Whatever it sees, a look leaves the state and the log as they are. -/
@[simp] theorem state_run_read (f : σ → Except Crash α) (s : σ) : ((read f).run s).state = s := by
  rcases h : f s with _ | _ <;> simp [run, read, h]

@[simp] theorem log_run_read (f : σ → Except Crash α) (s : σ) : ((read f).run s).log = [] := by
  rcases h : f s with _ | _ <;> simp [run, read, h]

/-- On a component, an action answers and logs as it does by itself. -/
theorem run_within {split : σ → τ × (τ → σ)} {act : Action τ α} {s : σ} {component : τ}
    {putBack : τ → σ} (h : split s = (component, putBack)) :
    (within split act).run s =
      ⟨(act.run component).answer, putBack (act.run component).state, (act.run component).log⟩ := by
  simp [run, within, h]

/-- An action on a state of its own leaves the present state as it is. -/
@[simp] theorem state_run_apart (initial : τ) (act : Action τ α) (s : σ) :
    ((apart initial act).run s).state = s := by
  rcases h : act initial with ⟨_ | _, final, log⟩ <;> simp [run, apart, h]

/-- After a first action that answered, the second runs on the state it left. -/
theorem run_bind_of_ok {act : Action σ α} {f : α → Action σ β} {s s' : σ} {a : α}
    {log : List Event} (h : act.run s = ⟨.ok a, s', log⟩) :
    (act >>= f).run s =
      ⟨((f a).run s').answer, ((f a).run s').state, log ++ ((f a).run s').log⟩ := by
  simp only [run] at h
  simp [run, Bind.bind, Action.bind, h]

/-- After a first action that failed, the second does not run. -/
theorem run_bind_of_error {act : Action σ α} {f : α → Action σ β} {s s' : σ} {cause : Failure}
    {log : List Event} (h : act.run s = ⟨.error cause, s', log⟩) :
    (act >>= f).run s = ⟨.error cause, s', log⟩ := by
  simp only [run] at h
  simp [run, Bind.bind, Action.bind, h]

instance : LawfulMonad (Action σ) := LawfulMonad.mk' (Action σ)
  (by
    intro α act
    ext s
    rcases h : act.run s with ⟨_ | a, s', log⟩
    · exact run_bind_of_error h
    · rw [show (id <$> act) = act >>= (fun a => pure a) from rfl, run_bind_of_ok h]
      simp)
  (by
    intro α β a f
    ext s
    rw [run_bind_of_ok (run_pure a s)]
    simp)
  (by
    intro α β γ act f g
    ext s
    rcases h : act.run s with ⟨cause | a, s', log⟩
    · rw [run_bind_of_error (run_bind_of_error h), run_bind_of_error h]
    · rw [run_bind_of_ok h]
      rcases h' : (f a).run s' with ⟨cause | b, s'', log'⟩
      · have hboth : (act >>= f).run s = ⟨.error cause, s'', log ++ log'⟩ := by
          rw [run_bind_of_ok h, h']
        rw [run_bind_of_error h', run_bind_of_error hboth]
      · have hboth : (act >>= f).run s = ⟨.ok b, s'', log ++ log'⟩ := by
          rw [run_bind_of_ok h, h']
        rw [run_bind_of_ok h', run_bind_of_ok hboth]
        simp [List.append_assoc])

end Action

end ByteTable
