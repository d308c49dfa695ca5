import LanMessenger.Transition.Runs

/-! Forward simulation between two state machines: a step of the one is matched by a run of the other, of no step or
of several. -/

namespace Transition

variable {σ σ' σ'' ε ε' ε'' : Type} {step : σ → ε → Option σ} {step' : σ' → ε' → Option σ'}
  {step'' : σ'' → ε'' → Option σ''} {meets : σ → ε → Prop} {meets' : σ' → ε' → Prop} {meets'' : σ'' → ε'' → Prop}
  {related : σ → σ' → Prop} {related' : σ' → σ'' → Prop}

/-- From related states, a step that meets its condition is matched by a run whose steps meet theirs. -/
def Simulates (step : σ → ε → Option σ) (meets : σ → ε → Prop) (step' : σ' → ε' → Option σ')
    (meets' : σ' → ε' → Prop) (related : σ → σ' → Prop) : Prop :=
  ∀ state shadow event next, related state shadow → meets state event → step state event = some next →
    ∃ events after, Run step' meets' shadow events after ∧ related next after

theorem Simulates.of_step
    (matched : ∀ state shadow event next, related state shadow → meets state event → step state event = some next →
      related next shadow ∨
        ∃ event' after, meets' shadow event' ∧ step' shadow event' = some after ∧ related next after) :
    Simulates step meets step' meets' related := by
  intro state shadow event next holds condition stepped
  rcases matched state shadow event next holds condition stepped with same | ⟨event', after, meets, moved, holds⟩
  · exact ⟨[], shadow, .nil, same⟩
  · exact ⟨[event'], after, .snoc .nil meets moved, holds⟩

theorem Simulates.run {start last : σ} {start' : σ'} {events : List ε}
    (simulates : Simulates step meets step' meets' related) (initial : related start start')
    (run : Run step meets start events last) :
    ∃ events' last', Run step' meets' start' events' last' ∧ related last last' := by
  induction run with
  | nil => exact ⟨[], start', .nil, initial⟩
  | snoc _ condition stepped ih =>
    obtain ⟨before, middle, earlier, holds⟩ := ih
    obtain ⟨behind, after, later, holds⟩ := simulates _ middle _ _ holds condition stepped
    exact ⟨before ++ behind, after, earlier.trans later, holds⟩

theorem Simulates.trans (first : Simulates step meets step' meets' related)
    (second : Simulates step' meets' step'' meets'' related') :
    Simulates step meets step'' meets'' fun state shadow => ∃ middle, related state middle ∧ related' middle shadow := by
  intro state shadow event next holds condition stepped
  obtain ⟨middle, lower, upper⟩ := holds
  obtain ⟨events, between, run, lower⟩ := first state middle event next lower condition stepped
  obtain ⟨events', after, run', upper⟩ := second.run upper run
  exact ⟨events', after, run', between, lower, upper⟩

theorem exec_append {start middle : σ} {events later : List ε} (first : exec step start events = some middle) :
    exec step start (events ++ later) = exec step middle later := by
  induction events generalizing start with
  | nil =>
    cases first
    rfl
  | cons event rest ih =>
    simp only [exec] at first
    split at first
    · cases first
    · rename_i next stepped
      simp only [List.cons_append, exec, stepped]
      exact ih first

theorem Run.lockstep {step' : σ' → ε → Option σ'} {start last : σ} {start' : σ'} {events : List ε}
    (run : Run step meets start events last) (initial : related start start')
    (follows : ∀ state shadow event next, related state shadow → meets state event → step state event = some next →
      ∃ after, step' shadow event = some after ∧ related next after) :
    ∃ last', exec step' start' events = some last' ∧ related last last' := by
  induction run with
  | nil => exact ⟨start', rfl, initial⟩
  | snoc _ condition stepped ih =>
    obtain ⟨middle, before, holds⟩ := ih
    obtain ⟨after, moved, holds⟩ := follows _ middle _ _ holds condition stepped
    refine ⟨after, ?_, holds⟩
    rw [exec_append before]
    simp only [exec, moved]

end Transition
