import Mathlib.Data.List.Basic

/-! Calls run in storage layers. A call is a fallible step on a state; it runs
in a layer of its own, so when it fails nothing it wrote stays and the state is
the one it started from. A run is a sequence of calls, each in its own layer.
What every successful call preserves holds after a whole run and after each of
its prefixes (`run_invariant`, `run_take_invariant`): the rule by which
block-level invariants of a runtime are proved one call at a time. -/
namespace Transactional

variable {σ ε α : Type}

/-- The state after one call in its own layer. -/
def commit (result : Except ε σ) (state : σ) : σ :=
  match result with
  | .ok next => next
  | .error _ => state

/-- A sequence of calls, each in its own layer. -/
def run (step : α → σ → Except ε σ) : List α → σ → σ
  | [], state => state
  | call :: calls, state => run step calls (commit (step call state) state)

section Invariant

variable (step : α → σ → Except ε σ) (I : σ → Prop)

/-- One call keeps an invariant that every successful call keeps: a failed
call changes nothing. -/
theorem commit_invariant (keep : ∀ call state next, I state → step call state = .ok next → I next)
    (call : α) {state : σ} (holds : I state) : I (commit (step call state) state) := by
  cases outcome : step call state with
  | ok next => exact keep call state next holds outcome
  | error _ => exact holds

/-- The invariant holds after a whole run. -/
theorem run_invariant (keep : ∀ call state next, I state → step call state = .ok next → I next)
    (calls : List α) {state : σ} (holds : I state) : I (run step calls state) := by
  induction calls generalizing state with
  | nil => exact holds
  | cons call calls ih => exact ih (commit_invariant step I keep call holds)

/-- The invariant holds after every prefix of a run. -/
theorem run_take_invariant (keep : ∀ call state next, I state → step call state = .ok next → I next)
    (calls : List α) (count : Nat) {state : σ} (holds : I state) :
    I (run step (calls.take count) state) :=
  run_invariant step I keep _ holds

end Invariant

/-- A bind that succeeded: the first computation succeeded, and the rest
succeeded from its value. -/
theorem bind_eq_ok {β γ : Type} {first : Except ε β} {rest : β → Except ε γ} {result : γ}
    (succeeded : (first >>= rest) = .ok result) : ∃ value, first = .ok value ∧ rest value = .ok result := by
  cases first with
  | error e => cases succeeded
  | ok value => exact ⟨value, rfl, succeeded⟩

/-- A bind on a success goes on with its value. -/
theorem ok_bind {β γ : Type} (value : β) (rest : β → Except ε γ) : (Except.ok value >>= rest) = rest value :=
  rfl

/-- A step that succeeded passes its value on, whatever its error would have
been renamed to. -/
theorem mapError_bind_of_ok {ε' β : Type} {step : Except ε α} {value : α} {rename : ε → ε'}
    {rest : α → Except ε' β} (succeeded : step = .ok value) : (step.mapError rename >>= rest) = rest value := by
  subst succeeded
  rfl

/-- A step that failed ends the computation with its error renamed. -/
theorem mapError_bind_of_error {ε' β : Type} {step : Except ε α} {error : ε} {rename : ε → ε'}
    {rest : α → Except ε' β} (failed : step = .error error) :
    (step.mapError rename >>= rest) = .error (rename error) := by
  subst failed
  rfl

/-- A run of calls that all succeed: the state after them, or the first error. -/
def runAll (step : α → σ → Except ε σ) : List α → σ → Except ε σ
  | [], state => .ok state
  | call :: calls, state => step call state >>= runAll step calls

/-- A successful run's first call succeeded, and the rest ran from its state. -/
theorem runAll_cons_ok {step : α → σ → Except ε σ} {call : α} {calls : List α} {state final : σ}
    (succeeds : runAll step (call :: calls) state = .ok final) :
    ∃ next, step call state = .ok next ∧ runAll step calls next = .ok final := by
  simp only [runAll] at succeeds
  cases outcome : step call state with
  | error e =>
    rw [outcome] at succeeds
    cases succeeds
  | ok next =>
    rw [outcome] at succeeds
    exact ⟨next, rfl, succeeds⟩

/-- When every call succeeds, the run in layers reaches the same state. -/
theorem run_eq_of_runAll {step : α → σ → Except ε σ} {calls : List α} {state final : σ}
    (succeeds : runAll step calls state = .ok final) : run step calls state = final := by
  induction calls generalizing state with
  | nil => cases succeeds; rfl
  | cons call calls ih =>
    obtain ⟨next, stepped, rest⟩ := runAll_cons_ok succeeds
    -- the first call commits its state, from which the rest runs
    show run step calls (commit (step call state) state) = final
    rw [stepped]
    exact ih rest

/-! ### Replaying the calls that succeeded -/

section Replay

variable {τ β γ ε' : Type}

/-- The calls of a run that succeeded, each with the state it ran on and the
state it left, in order. -/
def history (step : α → σ → Except ε σ) : List α → σ → List (α × σ × σ)
  | [], _ => []
  | call :: calls, state =>
    match step call state with
    | .ok next => (call, state, next) :: history step calls next
    | .error _ => history step calls state

/-- The calls of a run that succeeded, in order. -/
def committed (step : α → σ → Except ε σ) (calls : List α) (state : σ) : List α :=
  (history step calls state).map Prod.fst

/-- Fallible steps that each return a value, run in turn on one state until
the first error, with their values collected. -/
def collect (step : γ → τ → Except ε' (β × τ)) : List γ → τ → Except ε' (List β × τ)
  | [], state => .ok ([], state)
  | input :: inputs, state => do
    let (value, state) ← step input state
    let (values, state) ← collect step inputs state
    pure (value :: values, state)

theorem collect_cons_of_ok {step : γ → τ → Except ε' (β × τ)} {input : γ} {inputs : List γ} {state middle : τ}
    {value : β} (first : step input state = .ok (value, middle)) :
    collect step (input :: inputs) state =
      collect step inputs middle >>= fun (values, last) => pure (value :: values, last) := by
  rw [collect, first]
  rfl

variable (step : α → σ → Except ε σ) (replay : γ → τ → Except ε' (β × τ)) (input : α → Option γ)
  (view : σ → τ) (I : σ → Prop) (Q : α × σ × σ → β → Prop)

theorem history_cons_of_ok {call : α} {calls : List α} {state next : σ} (stepped : step call state = .ok next) :
    history step (call :: calls) state = (call, state, next) :: history step calls next := by
  rw [history, stepped]

theorem history_cons_of_error {call : α} {calls : List α} {state : σ} {error : ε}
    (stepped : step call state = .error error) : history step (call :: calls) state = history step calls state := by
  rw [history, stepped]

theorem committed_cons_of_ok {call : α} {calls : List α} {state next : σ} (stepped : step call state = .ok next) :
    committed step (call :: calls) state = call :: committed step calls next := by
  rw [committed, history_cons_of_ok step stepped]
  rfl

theorem committed_cons_of_error {call : α} {calls : List α} {state : σ} {error : ε}
    (stepped : step call state = .error error) : committed step (call :: calls) state = committed step calls state := by
  rw [committed, history_cons_of_error step stepped]
  rfl

theorem run_cons_of_ok {call : α} {calls : List α} {state next : σ} (stepped : step call state = .ok next) :
    run step (call :: calls) state = run step calls next := by
  simp only [run, commit, stepped]

theorem run_cons_of_error {call : α} {calls : List α} {state : σ} {error : ε}
    (stepped : step call state = .error error) : run step (call :: calls) state = run step calls state := by
  simp only [run, commit, stepped]

/-- **A run replayed from the calls that succeeded.** Say each successful call
of the run, from a state where `I` holds, keeps `I` and is matched on the
view of the state by a replay of its input, which returns a value that `Q`
relates to the call. Then replaying the inputs of the successful calls, from
the view of the first state, returns one such value for each of them and ends
on the view of the run's last state. A failed call needs no replay: its layer
left the state as it was. -/
theorem collect_history {calls : List α} {state : σ} (holds : I state)
    (simulates : ∀ call ∈ calls, ∀ state next, I state → step call state = .ok next →
      I next ∧ ∃ x value, input call = some x ∧ replay x (view state) = .ok (value, view next) ∧
        Q (call, state, next) value) :
    ∃ values, collect replay ((committed step calls state).filterMap input) (view state) =
        .ok (values, view (run step calls state)) ∧ List.Forall₂ Q (history step calls state) values := by
  induction calls generalizing state with
  | nil => exact ⟨[], rfl, .nil⟩
  | cons call calls ih =>
    have later : ∀ call ∈ calls, ∀ state next, I state → step call state = .ok next →
        I next ∧ ∃ x value, input call = some x ∧ replay x (view state) = .ok (value, view next) ∧
          Q (call, state, next) value :=
      fun call member => simulates call (List.mem_cons_of_mem _ member)
    cases stepped : step call state with
    | error error =>
      -- the failed call left the state as it was, and is not replayed
      obtain ⟨values, replayed, related⟩ := ih holds later
      refine ⟨values, ?_, ?_⟩
      · rwa [committed_cons_of_error step stepped, run_cons_of_error step stepped]
      · rwa [history_cons_of_error step stepped]
    | ok next =>
      obtain ⟨holdsNext, x, value, fed, first, matched⟩ :=
        simulates call List.mem_cons_self state next holds stepped
      obtain ⟨values, replayed, related⟩ := ih holdsNext later
      refine ⟨value :: values, ?_, ?_⟩
      · rw [committed_cons_of_ok step stepped, List.filterMap_cons_some fed, collect_cons_of_ok first, replayed,
          run_cons_of_ok step stepped]
        rfl
      · rw [history_cons_of_ok step stepped]
        exact .cons matched related

end Replay

/-! ### Runs outside a layer

Outside a layer a run that fails keeps what it wrote: it returns the state it
leaves together with its outcome. `settle` forgets the state of a failed run,
which is the run as a layer sees it, and commutes with sequencing
(`settle_andThen`). -/

section Unlayered

variable {β γ τ ε' : Type}

/-- A run's outcome as a layer sees it: its value and state when it
succeeded, its error alone when it failed. -/
def settle : σ × Except ε β → Except ε (β × σ)
  | (state, .ok value) => .ok (value, state)
  | (_, .error error) => .error error

/-- A run that goes on from the value and state a first run left, or stops
with the first run's state and error. -/
def andThen (first : σ × Except ε β) (rest : β → σ → σ × Except ε γ) : σ × Except ε γ :=
  match first with
  | (state, .ok value) => rest value state
  | (state, .error error) => (state, .error error)

@[simp] theorem andThen_ok (state : σ) (value : β) (rest : β → σ → σ × Except ε γ) :
    andThen (state, .ok value) rest = rest value state :=
  rfl

@[simp] theorem settle_ok (state : σ) (value : β) : settle (state, (.ok value : Except ε β)) = .ok (value, state) :=
  rfl

@[simp] theorem settle_error (state : σ) (error : ε) : settle (state, (.error error : Except ε β)) = .error error :=
  rfl

theorem settle_andThen (first : σ × Except ε β) (rest : β → σ → σ × Except ε γ) :
    settle (andThen first rest) = settle first >>= fun (value, state) => settle (rest value state) := by
  rcases first with ⟨state, error | value⟩ <;> rfl

/-- A run settles to a success exactly when it succeeded, with that state. -/
theorem settle_eq_ok {run : σ × Except ε β} {value : β} {state : σ} :
    settle run = .ok (value, state) ↔ run = (state, .ok value) := by
  rcases run with ⟨reached, error | returned⟩
  · simp [settle]
  · simp [settle, and_comm]

/-- Steps run in turn on one state whether they fail or not, with every
outcome collected. -/
def runEach (step : γ → τ → τ × Except ε' β) : List γ → τ → List (Except ε' β) × τ
  | [], state => ([], state)
  | input :: inputs, state =>
    let (state, outcome) := step input state
    let (outcomes, state) := runEach step inputs state
    (outcome :: outcomes, state)

theorem runEach_cons_of_step {step : γ → τ → τ × Except ε' β} {input : γ} {inputs : List γ} {state middle : τ}
    {outcome : Except ε' β} (first : step input state = (middle, outcome)) :
    runEach step (input :: inputs) state = (outcome :: (runEach step inputs middle).1, (runEach step inputs middle).2) := by
  rw [runEach, first]

variable (step : α → σ → Except ε σ) (simulate : γ → τ → τ × Except ε' β) (toCall : γ → α)
  (view : σ → τ) (I : σ → Prop) (Q : α × σ × σ → β → Prop)

/-- **A run in which every call succeeds, run again outside the layers.** Say
each successful call, from a state where `I` holds, keeps `I` and is matched
on the view of the state by a step of its input that succeeds with a value `Q`
relates to the call. Then, when every call of the run succeeds, the inputs run
outside the layers from the view of the first state succeed at each step with
such a value, and end on the view of the run's last state. -/
theorem runEach_of_runAll {inputs : List γ} {state final : σ} (holds : I state)
    (finished : runAll step (inputs.map toCall) state = .ok final)
    (simulates : ∀ input ∈ inputs, ∀ state next, I state → step (toCall input) state = .ok next →
      I next ∧ ∃ value, simulate input (view state) = (view next, .ok value) ∧ Q (toCall input, state, next) value) :
    ∃ values, runEach simulate inputs (view state) = (values.map .ok, view final) ∧
      List.Forall₂ Q (history step (inputs.map toCall) state) values := by
  induction inputs generalizing state with
  | nil =>
    cases finished
    exact ⟨[], rfl, .nil⟩
  | cons input inputs ih =>
    obtain ⟨next, stepped, rest⟩ := runAll_cons_ok finished
    obtain ⟨holdsNext, value, first, matched⟩ := simulates input List.mem_cons_self state next holds stepped
    obtain ⟨values, ran, related⟩ :=
      ih holdsNext rest fun input member => simulates input (List.mem_cons_of_mem _ member)
    refine ⟨value :: values, ?_, ?_⟩
    · rw [runEach_cons_of_step first, ran]
      rfl
    · rw [List.map_cons, history_cons_of_ok step stepped]
      exact .cons matched related

end Unlayered

/-! ### Steps that may also panic

In `ExceptT ε Option`, `none` is a panic and `some (.error e)` an error. -/

section Panics

variable {β γ : Type} {first : ExceptT ε Option β} {rest : β → ExceptT ε Option γ}

/-- A step that succeeded passes its value on. -/
theorem run_bind_of_ok {value : β} (succeeded : first.run = some (.ok value)) :
    (first >>= rest).run = (rest value).run := by
  rw [ExceptT.run_bind, succeeded]
  rfl

/-- A step that failed ends the computation with its error. -/
theorem run_bind_of_error {error : ε} (failed : first.run = some (.error error)) :
    (first >>= rest).run = some (.error error) := by
  rw [ExceptT.run_bind, failed]
  rfl

/-- A step that panicked ends the computation with the panic. -/
theorem run_bind_of_none (panicked : first.run = none) : (first >>= rest).run = none := by
  rw [ExceptT.run_bind, panicked]
  rfl

/-- A bind that succeeded: its first step succeeded, and the rest succeeded
from its value. -/
theorem run_bind_eq_ok {result : γ} (succeeded : (first >>= rest).run = some (.ok result)) :
    ∃ value, first.run = some (.ok value) ∧ (rest value).run = some (.ok result) := by
  cases outcome : first.run with
  | none =>
    rw [run_bind_of_none outcome] at succeeded
    cases succeeded
  | some step =>
    cases step with
    | error error =>
      rw [run_bind_of_error outcome] at succeeded
      cases succeeded
    | ok value =>
      rw [run_bind_of_ok outcome] at succeeded
      exact ⟨value, rfl, succeeded⟩

end Panics

end Transactional
