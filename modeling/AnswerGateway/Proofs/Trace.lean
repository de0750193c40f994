/-!
Runs of whatever moves in steps: a list of actions that can happen one after the other. What holds
at the start and is kept by every step holds after every run.
-/

namespace AnswerGateway.Trace

variable {σ α : Type} (step? : σ → α → Option σ)

/-- The state after a run; none if an action of it cannot happen when its turn comes. -/
def run? (s : σ) : List α → Option σ
  | [] => some s
  | a :: rest => (step? s a).bind fun s => run? s rest

theorem run?_cons {s s' : σ} {a : α} {rest : List α} :
    run? step? s (a :: rest) = some s' ↔
      ∃ next, step? s a = some next ∧ run? step? next rest = some s' :=
  Option.bind_eq_some_iff

theorem run?_append (s : σ) (first second : List α) :
    run? step? s (first ++ second) = (run? step? s first).bind (run? step? · second) := by
  induction first generalizing s with
  | nil => rfl
  | cons a rest ih =>
      simp only [List.cons_append, run?]
      cases step? s a with
      | none => rfl
      | some s => simpa using ih s

/-- A map that goes along with every step goes along with every run. -/
theorem run?_map {τ : Type} {stepTo? : τ → α → Option τ} {f : σ → τ}
    (along : ∀ s a, stepTo? (f s) a = (step? s a).map f) (s : σ) (actions : List α) :
    run? stepTo? (f s) actions = (run? step? s actions).map f := by
  induction actions generalizing s with
  | nil => rfl
  | cons a rest ih =>
      simp only [run?, along]
      cases step? s a with
      | none => rfl
      | some next => exact ih next

variable {step?}

private theorem induction_from {motive : List α → σ → Prop}
    (kept : ∀ actions s a s', motive actions s → step? s a = some s' → motive (actions ++ [a]) s')
    {before actions : List α} {start s : σ} (holds : motive before start)
    (h : run? step? start actions = some s) : motive (before ++ actions) s := by
  induction actions generalizing before start with
  | nil =>
      cases h
      simpa using holds
  | cons a rest ih =>
      obtain ⟨next, hstep, hrest⟩ := (run?_cons step?).mp h
      simpa using ih (kept before start a next holds hstep) hrest

/-- Induction over runs. What is shown may speak of the actions so far. -/
theorem induction {start : σ} {motive : List α → σ → Prop} (initial : motive [] start)
    (kept : ∀ actions s a s', motive actions s → step? s a = some s' → motive (actions ++ [a]) s')
    {actions : List α} {s : σ} (h : run? step? start actions = some s) : motive actions s := by
  simpa using induction_from kept initial h

end AnswerGateway.Trace
