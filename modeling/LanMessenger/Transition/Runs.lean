import Mathlib.Data.Option.Basic

/-! Runs of a state machine given by a partial step function on labelled events, where each step is
taken from a state and by an event that meet a condition. -/

namespace Transition

variable {σ ε : Type} (step : σ → ε → Option σ)

def Always (_ : σ) (_ : ε) : Prop := True

/-- The events lead from the first state to the last, and each step meets the condition. -/
inductive Run (meets : σ → ε → Prop) (start : σ) : List ε → σ → Prop
  | nil : Run meets start [] start
  | snoc {events : List ε} {middle last : σ} {event : ε} : Run meets start events middle →
      meets middle event → step middle event = some last → Run meets start (events ++ [event]) last

/-- The state after the events, if each of them is possible when its turn comes. -/
def exec : σ → List ε → Option σ
  | state, [] => some state
  | state, event :: rest =>
    match step state event with
    | none => none
    | some next => exec next rest

variable {step} {meets : σ → ε → Prop} {start last : σ} {events : List ε}

/-- What holds at the start and is kept by each step that meets the condition holds after a run. -/
theorem Run.invariant (inv : σ → Prop) (run : Run step meets start events last) (initial : inv start)
    (preserved : ∀ state event next, inv state → meets state event → step state event = some next → inv next) :
    inv last := by
  induction run with
  | nil => exact initial
  | snoc _ condition stepped ih => exact preserved _ _ _ ih condition stepped

theorem Run.of_invariant {other : σ → ε → Prop} (inv : σ → Prop) (run : Run step meets start events last)
    (initial : inv start)
    (implies : ∀ state event next, inv state → meets state event → step state event = some next → other state event)
    (preserved : ∀ state event next, inv state → meets state event → step state event = some next → inv next) :
    Run step other start events last := by
  have both : Run step other start events last ∧ inv last := by
    induction run with
    | nil => exact ⟨.nil, initial⟩
    | snoc _ condition stepped ih =>
      exact ⟨.snoc ih.1 (implies _ _ _ ih.2 condition stepped) stepped, preserved _ _ _ ih.2 condition stepped⟩
  exact both.1

/-- Two conditions that agree wherever the invariant holds allow the same runs. -/
theorem Run.iff_of_invariant {other : σ → ε → Prop} (inv : σ → Prop) (initial : inv start)
    (agree : ∀ state event next, inv state → step state event = some next → (meets state event ↔ other state event))
    (preserved : ∀ state event next, inv state → meets state event → step state event = some next → inv next) :
    Run step meets start events last ↔ Run step other start events last := by
  constructor
  · intro run
    exact run.of_invariant inv initial (fun _ _ _ holds condition stepped => (agree _ _ _ holds stepped).mp condition)
      preserved
  · intro run
    refine run.of_invariant inv initial (fun _ _ _ holds condition stepped => (agree _ _ _ holds stepped).mpr condition) ?_
    exact fun _ _ _ holds condition stepped => preserved _ _ _ holds ((agree _ _ _ holds stepped).mpr condition) stepped

/-- Two conditions that agree on every step allow the same runs. -/
theorem Run.congr {other : σ → ε → Prop}
    (agree : ∀ state event next, step state event = some next → (meets state event ↔ other state event)) :
    Run step meets start events last ↔ Run step other start events last :=
  Run.iff_of_invariant (fun _ => True) trivial (fun state event next _ => agree state event next)
    fun _ _ _ _ _ _ => trivial

theorem Run.trans {later : List ε} {final : σ} (run : Run step meets start events last)
    (rest : Run step meets last later final) : Run step meets start (events ++ later) final := by
  induction rest with
  | nil => simpa using run
  | snoc _ condition stepped ih =>
    rw [← List.append_assoc]
    exact .snoc ih condition stepped

/-- A run that meets a decidable condition, checked by running it. -/
def execMeets (step : σ → ε → Option σ) (meets : σ → ε → Bool) : σ → List ε → Option σ
  | state, [] => some state
  | state, event :: rest =>
    match meets state event, step state event with
    | true, some next => execMeets step meets next rest
    | _, _ => none

theorem run_of_execMeets {check : σ → ε → Bool} (sound : ∀ state event, check state event = true → meets state event)
    (executed : execMeets step check start events = some last) : Run step meets start events last := by
  induction events generalizing start with
  | nil =>
    cases executed
    exact .nil
  | cons event rest ih =>
    unfold execMeets at executed
    split at executed
    · rename_i next condition stepped
      have first : Run step meets start [event] next := .snoc .nil (sound _ _ condition) stepped
      exact first.trans (ih executed)
    · cases executed

theorem run_of_execDecide [∀ state event, Decidable (meets state event)]
    (executed : execMeets step (fun state event => decide (meets state event)) start events = some last) :
    Run step meets start events last :=
  run_of_execMeets (fun _ _ => of_decide_eq_true) executed

theorem exec_of_execMeets {check : σ → ε → Bool} (executed : execMeets step check start events = some last) :
    exec step start events = some last := by
  induction events generalizing start with
  | nil => exact executed
  | cons event rest ih =>
    unfold execMeets at executed
    split at executed
    · rename_i next condition stepped
      simp only [exec, stepped]
      exact ih executed
    · cases executed

theorem run_of_exec (executed : exec step start events = some last) : Run step Always start events last := by
  induction events generalizing start with
  | nil =>
    cases executed
    exact .nil
  | cons event rest ih =>
    unfold exec at executed
    split at executed
    · cases executed
    · rename_i next stepped
      have first : Run step Always start [event] next := .snoc .nil True.intro stepped
      exact first.trans (ih executed)

end Transition
