import PetApp.Lib.Runs

/-!
What an observer sees of a run, and refinement of an abstract machine.

An event may be observed as any number of abstract events, none when it is
silent, and which ones may depend on the state it is handled in. The abstract
machine is a fold over the observations.

* `simulates_run` — the simulation rule: a relation that every step keeps, when the
  abstract machine takes the observations of the step, relates the ends of every
  run.
* `run_map` — the exact rule: a view of the state under which every step is a step of
  the abstract machine makes every run a run of it.
-/

namespace Runs

universe u v w x

variable {σ : Type u} {ε : Type v} {ω : Type w} {τ : Type x}
  {step : σ → ε → Option σ} {observe : σ → ε → List ω} {spec : τ → ω → τ}

/-- The observations of a run, up to the first refused event. -/
def trace (step : σ → ε → Option σ) (observe : σ → ε → List ω) : σ → List ε → List ω
  | _, [] => []
  | s, e :: es =>
      match step s e with
      | none => []
      | some t => observe s e ++ trace step observe t es

theorem trace_cons {s t : σ} {e : ε} (stepped : step s e = some t) (es : List ε) :
    trace step observe s (e :: es) = observe s e ++ trace step observe t es := by
  simp only [trace, stepped]

/-- The simulation rule. -/
theorem simulates_run {R : σ → τ → Prop}
    (simulates : ∀ s a e t, R s a → step s e = some t → R t ((observe s e).foldl spec a))
    {s t : σ} {a : τ} {es : List ε} (start : R s a) (reached : run step s es = some t) :
    R t ((trace step observe s es).foldl spec a) := by
  induction es generalizing s a with
  | nil =>
      cases reached
      exact start
  | cons e es ih =>
      obtain ⟨m, stepped, tail⟩ := run_cons_eq_some.mp reached
      rw [trace_cons stepped, List.foldl_append]
      exact ih (simulates s a e m start stepped) tail

/-- The exact rule: both machines handle the same events, and refuse the same. -/
theorem run_map {view : σ → τ} {abstract : τ → ε → Option τ} {inv : σ → Prop}
    (keeps : ∀ s e t, inv s → step s e = some t → inv t)
    (commutes : ∀ s e, inv s → (step s e).map view = abstract (view s) e)
    {s : σ} (start : inv s) (es : List ε) :
    (run step s es).map view = run abstract (view s) es := by
  induction es generalizing s with
  | nil => rfl
  | cons e es ih =>
      have here := commutes s e start
      cases stepped : step s e with
      | none =>
          rw [stepped] at here
          simp only [run, stepped, ← here]
          rfl
      | some t =>
          rw [stepped] at here
          have there := ih (keeps s e t start stepped)
          simpa only [run, stepped, ← here, Option.map_some, Option.bind_some] using there

end Runs
