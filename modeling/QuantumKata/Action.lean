import QuantumKata.Fault

/-!
# Actions

An action changes a state and answers with a result or a fault.  The state afterwards is there in
either case: what was done before a fault stays done.
-/

namespace QuantumKata

/-- An action on states of type `σ`. -/
def Action (σ α : Type) : Type := σ → Except Fault α × σ

namespace Action

variable {σ α β : Type}

/-- Carry an action out. -/
def run (action : Action σ α) (state : σ) : Except Fault α × σ := action state

instance : Monad (Action σ) where
  pure value := fun state => (.ok value, state)
  bind action next := fun state =>
    match action state with
    | (.ok value, after) => next value after
    | (.error fault, after) => (.error fault, after)

/-- Fail without changing the state. -/
def fail (fault : Fault) : Action σ α := fun state => (.error fault, state)

/-- A result or a fault without any effect. -/
def ofExcept (outcome : Except Fault α) : Action σ α := fun state => (outcome, state)

/-- Look at the state. -/
def inspect (view : σ → α) : Action σ α := fun state => (.ok (view state), state)

/-- Change the state. -/
def update (change : σ → σ) : Action σ Unit := fun state => (.ok (), change state)

/-- Turn a fault into a result. -/
def attempt (action : Action σ α) : Action σ (Except Fault α) := fun state =>
  let (outcome, after) := action state
  (.ok outcome, after)

/-- Carry an action out on the first of two states. -/
def onFirst {τ : Type} (action : Action σ α) : Action (σ × τ) α := fun (first, second) =>
  let (outcome, after) := action first
  (outcome, (after, second))

/-- Carry an action out on the second of two states. -/
def onSecond {τ : Type} (action : Action τ α) : Action (σ × τ) α := fun (first, second) =>
  let (outcome, after) := action second
  (outcome, (first, after))

/-- Change the state for the duration of an action.  Afterwards it is changed back, whether the
action ends well or with a fault; that change sees the state from before. -/
def during (enter : σ → σ) (leave : (before after : σ) → σ) (action : Action σ α) : Action σ α :=
  fun state =>
    let (outcome, after) := action (enter state)
    (outcome, leave state after)

/-- Do something afterwards in any case.  A fault of what is done afterwards is the one that
counts. -/
def ensuring (action : Action σ α) (afterwards : Action σ Unit) : Action σ α := fun state =>
  let (outcome, between) := action state
  match afterwards between with
  | (.ok (), last) => (outcome, last)
  | (.error fault, last) => (.error fault, last)

@[simp]
theorem pure_apply (value : α) (state : σ) :
    (pure value : Action σ α) state = (.ok value, state) := rfl

theorem bind_apply (action : Action σ α) (next : α → Action σ β) (state : σ) :
    (action >>= next) state =
      match action state with
      | (.ok value, after) => next value after
      | (.error fault, after) => (.error fault, after) := rfl

@[simp]
theorem fail_apply (fault : Fault) (state : σ) :
    (fail fault : Action σ α) state = (.error fault, state) := rfl

@[simp]
theorem inspect_bind (view : σ → α) (next : α → Action σ β) (state : σ) :
    (inspect view >>= next) state = next (view state) state := rfl

@[simp]
theorem ok_bind (value : α) (next : α → Action σ β) (state : σ) :
    ((ofExcept (.ok value) : Action σ α) >>= next) state = next value state := rfl

@[simp]
theorem error_bind (fault : Fault) (next : α → Action σ β) (state : σ) :
    ((ofExcept (.error fault) : Action σ α) >>= next) state = (.error fault, state) := rfl

@[simp]
theorem fail_bind (fault : Fault) (next : α → Action σ β) (state : σ) :
    ((fail fault : Action σ α) >>= next) state = (.error fault, state) := rfl

/-- An action that succeeds hands its result and its state on. -/
theorem bind_of_ok {action : Action σ α} {next : α → Action σ β} {state after : σ} {value : α}
    (succeeds : action state = (.ok value, after)) :
    (action >>= next) state = next value after := by
  rw [bind_apply, succeeds]

/-- After an action that fails nothing else is done. -/
theorem bind_of_error {action : Action σ α} {next : α → Action σ β} {state after : σ}
    {fault : Fault} (fails : action state = (.error fault, after)) :
    (action >>= next) state = (.error fault, after) := by
  rw [bind_apply, fails]

/-- What goes on after an action ends well exactly if both do. -/
theorem bind_eq_ok_iff {action : Action σ α} {next : α → Action σ β} {state last : σ} {value : β} :
    (action >>= next) state = (.ok value, last) ↔
      ∃ middle between, action state = (.ok middle, between) ∧
        next middle between = (.ok value, last) := by
  rw [bind_apply]
  rcases result : action state with ⟨outcome, after⟩
  cases outcome with
  | ok middle =>
    constructor
    · intro followed
      exact ⟨middle, after, rfl, followed⟩
    · rintro ⟨other, between, same, followed⟩
      cases same
      exact followed
  | error fault =>
    constructor
    · intro failed
      cases failed
    · rintro ⟨other, between, same, -⟩
      cases same

theorem ofExcept_eq_ok_iff {outcome : Except Fault α} {state last : σ} {value : α} :
    (ofExcept outcome : Action σ α) state = (.ok value, last) ↔ outcome = .ok value ∧ state = last :=
  Prod.ext_iff

end Action

end QuantumKata
