import Mathlib.Data.List.Basic

/-!
Runs of a partial step function.

A step function maps a state and an event to the next state; `none` means that
the event cannot happen there or that handling it stops the program. A run is a
list of events handled one after the other. `Meets` asks a condition of every
event of a run in the state it is handled in, `Always` asks a property of every
state a run passes through.

* `run_append` — a run splits into a first and a second part.
* `always_iff_forall_run` — `Always` speaks about the state after every initial
  part of the run.
* `Always.meets` — what follows from a property of every state is met by every
  event.
* `always_of_meets` — the invariant rule: a property kept by every step that
  meets the condition holds along every run whose steps meet it.
* `meets_iff_meets` — two conditions that agree wherever an invariant holds are met
  by the same runs.
* `always_iff_meets` — the exact form: when one step keeps the property exactly
  if it meets the condition, the property holds along a run exactly if every
  step of the run meets the condition.
-/

namespace Runs

universe u v

variable {σ : Type u} {ε : Type v} {step : σ → ε → Option σ}

/-- The state after a list of events, `none` when one of them is refused. -/
def run (step : σ → ε → Option σ) : σ → List ε → Option σ
  | s, [] => some s
  | s, e :: es => (step s e).bind fun t => run step t es

/-- Every event of the run meets `ok` in the state it is handled in. Events
after a refused one are never handled. -/
def Meets (step : σ → ε → Option σ) (ok : σ → ε → Prop) : σ → List ε → Prop
  | _, [] => True
  | s, e :: es => ok s e ∧ ∀ t, step s e = some t → Meets step ok t es

/-- `P` holds in every state the run passes through, its start included. -/
def Always (step : σ → ε → Option σ) (P : σ → Prop) : σ → List ε → Prop
  | s, [] => P s
  | s, e :: es => P s ∧ ∀ t, step s e = some t → Always step P t es

instance Meets.decidable {ok : σ → ε → Prop} [∀ s e, Decidable (ok s e)] :
    ∀ (s : σ) (es : List ε), Decidable (Meets step ok s es)
  | _, [] => inferInstanceAs (Decidable True)
  | s, e :: es =>
      match stepped : step s e with
      | none => decidable_of_iff (ok s e) (by simp [Meets, stepped])
      | some t =>
          have : Decidable (Meets step ok t es) := Meets.decidable t es
          decidable_of_iff (ok s e ∧ Meets step ok t es) (by simp [Meets, stepped])

theorem run_cons_eq_some {s t : σ} {e : ε} {es : List ε} :
    run step s (e :: es) = some t ↔ ∃ m, step s e = some m ∧ run step m es = some t := by
  simp only [run, Option.bind_eq_some_iff]

/-- A run of `pre ++ es` is a run of `pre` followed by a run of `es`. -/
theorem run_append (s : σ) (pre es : List ε) :
    run step s (pre ++ es) = (run step s pre).bind fun t => run step t es := by
  induction pre generalizing s with
  | nil => rfl
  | cons e pre ih =>
      cases h : step s e with
      | none => simp [run, h]
      | some t => simpa [run, h] using ih t

/-! ### Properties of every state -/

theorem Always.start {P : σ → Prop} {s : σ} {es : List ε} (h : Always step P s es) : P s := by
  cases es with
  | nil => exact h
  | cons e es => exact h.1

/-- `Always` is a statement about the state after every initial part of the run. -/
theorem always_iff_forall_run {P : σ → Prop} {s : σ} {es : List ε} :
    Always step P s es ↔ ∀ pre post t, es = pre ++ post → run step s pre = some t → P t := by
  induction es generalizing s with
  | nil =>
      constructor
      · intro h pre post t split reached
        obtain ⟨rfl, rfl⟩ := List.append_eq_nil_iff.mp split.symm
        cases reached
        exact h
      · intro h
        exact h [] [] s rfl rfl
  | cons e es ih =>
      constructor
      · rintro ⟨here, later⟩ pre post t split reached
        cases pre with
        | nil =>
            cases reached
            exact here
        | cons e' pre =>
            obtain ⟨rfl, rest⟩ := List.cons_eq_cons.mp split
            obtain ⟨m, stepped, tail⟩ := run_cons_eq_some.mp reached
            exact ih.mp (later m stepped) pre post t rest tail
      · intro h
        refine ⟨h [] (e :: es) s rfl rfl, fun m stepped => ih.mpr ?_⟩
        intro pre post t split reached
        exact h (e :: pre) post t (by rw [split, List.cons_append])
          (run_cons_eq_some.mpr ⟨m, stepped, reached⟩)

/-- What follows from a property of every state holds in every state. -/
theorem Always.imp {P Q : σ → Prop} {s : σ} {es : List ε} (h : Always step P s es)
    (imp : ∀ t, P t → Q t) : Always step Q s es :=
  always_iff_forall_run.mpr fun pre post t split reached =>
    imp t (always_iff_forall_run.mp h pre post t split reached)

/-- The last state of a run has what every state of the run has. -/
theorem Always.last {P : σ → Prop} {s t : σ} {es : List ε} (h : Always step P s es)
    (reached : run step s es = some t) : P t :=
  always_iff_forall_run.mp h es [] t (List.append_nil es).symm reached

/-! ### Conditions on every step -/

/-- A condition that follows from a property of every state is met by every
event. -/
theorem Always.meets {P : σ → Prop} {ok : σ → ε → Prop} {s : σ} {es : List ε}
    (h : Always step P s es) (imp : ∀ s e, P s → ok s e) : Meets step ok s es := by
  induction es generalizing s with
  | nil => trivial
  | cons e es ih => exact ⟨imp s e h.1, fun t stepped => ih (h.2 t stepped)⟩

/-- A run that meets a condition meets it at the event after every initial part. -/
theorem Meets.after {ok : σ → ε → Prop} {s t : σ} {pre post : List ε} {e : ε}
    (meets : Meets step ok s (pre ++ e :: post)) (reached : run step s pre = some t) : ok t e := by
  induction pre generalizing s with
  | nil =>
      cases reached
      exact meets.1
  | cons e' pre ih =>
      obtain ⟨m, stepped, tail⟩ := run_cons_eq_some.mp reached
      exact ih (meets.2 m stepped) tail

/-- What every event meets in every state, every run meets. -/
theorem meets_of_forall {ok : σ → ε → Prop} {s : σ} {es : List ε}
    (h : ∀ s, ∀ e ∈ es, ok s e) : Meets step ok s es := by
  induction es generalizing s with
  | nil => trivial
  | cons e es ih =>
      exact ⟨h s e List.mem_cons_self, fun t _ =>
        ih fun s e member => h s e (List.mem_cons_of_mem _ member)⟩

/-- The invariant rule: what every step that meets the condition keeps holds
along every run whose steps meet it. -/
theorem always_of_meets {inv : σ → Prop} {ok : σ → ε → Prop} {s : σ} {es : List ε}
    (keeps : ∀ s, ∀ e ∈ es, ∀ t, inv s → ok s e → step s e = some t → inv t)
    (start : inv s) (meets : Meets step ok s es) : Always step inv s es := by
  induction es generalizing s with
  | nil => exact start
  | cons e es ih =>
      refine ⟨start, fun t stepped => ?_⟩
      have next := keeps s e List.mem_cons_self t start meets.1 stepped
      exact ih (fun s e member => keeps s e (List.mem_cons_of_mem _ member)) next (meets.2 t stepped)

/-- The invariant rule without a condition on the steps. -/
theorem always_of_steps {inv : σ → Prop} {s : σ} {es : List ε}
    (keeps : ∀ s, ∀ e ∈ es, ∀ t, inv s → step s e = some t → inv t) (start : inv s) :
    Always step inv s es :=
  always_of_meets (fun s e member t before _ => keeps s e member t before) start
    (meets_of_forall fun _ _ _ => trivial)

/-- What every step keeps holds at the end of every run. -/
theorem invariant_run {inv : σ → Prop} (keeps : ∀ s e t, inv s → step s e = some t → inv t)
    {s t : σ} {es : List ε} (start : inv s) (reached : run step s es = some t) : inv t :=
  (always_of_steps (fun s e _ t => keeps s e t) start).last reached

/-- Two conditions that agree in every state with the invariant are met by the same
runs. -/
theorem meets_iff_meets (inv : σ → Prop) {ok ok' : σ → ε → Prop}
    (keeps : ∀ s e t, inv s → step s e = some t → inv t)
    (agree : ∀ s e, inv s → (ok s e ↔ ok' s e)) {s : σ} (start : inv s) (es : List ε) :
    Meets step ok s es ↔ Meets step ok' s es := by
  induction es generalizing s with
  | nil => exact Iff.rfl
  | cons e es ih =>
      refine and_congr (agree s e start) (forall_congr' fun t => ?_)
      exact forall_congr' fun stepped => ih (keeps s e t start stepped)

/-- The exact invariant rule. `inv` is kept by every step from a state with `P`;
a step keeps `P` exactly if it meets `ok`. Then `P` holds along a run exactly if
every step of the run meets `ok`. -/
theorem always_iff_meets (inv : σ → Prop) {P : σ → Prop} {ok : σ → ε → Prop}
    (keeps : ∀ s e t, inv s → P s → step s e = some t → inv t)
    (exact : ∀ s e t, inv s → P s → step s e = some t → (P t ↔ ok s e))
    (refused : ∀ s e, step s e = none → ok s e)
    {s : σ} (start : inv s) (holds : P s) (es : List ε) :
    Always step P s es ↔ Meets step ok s es := by
  induction es generalizing s with
  | nil => exact ⟨fun _ => trivial, fun _ => holds⟩
  | cons e es ih =>
      cases stepped : step s e with
      | none =>
          constructor
          · intro _
            exact ⟨refused s e stepped, fun t h => by rw [stepped] at h; cases h⟩
          · intro _
            exact ⟨holds, fun t h => by rw [stepped] at h; cases h⟩
      | some t =>
          have next := keeps s e t start holds stepped
          constructor
          · rintro ⟨-, later⟩
            have here := later t stepped
            refine ⟨(exact s e t start holds stepped).mp here.start, fun t' h => ?_⟩
            cases stepped.symm.trans h
            exact (ih next here.start).mp here
          · rintro ⟨ok, later⟩
            refine ⟨holds, fun t' h => ?_⟩
            cases stepped.symm.trans h
            have here := (exact s e t start holds stepped).mpr ok
            exact (ih next here).mpr (later t stepped)

/-- The exact invariant rule for a property that needs no further invariant. -/
theorem always_iff_meets_of_steps {P : σ → Prop} {ok : σ → ε → Prop}
    (exact : ∀ s e t, P s → step s e = some t → (P t ↔ ok s e))
    (refused : ∀ s e, step s e = none → ok s e) {s : σ} (holds : P s) (es : List ε) :
    Always step P s es ↔ Meets step ok s es := by
  apply always_iff_meets fun _ => True
  · intro _ _ _ _ _ _
    trivial
  · intro s e t _ before stepped
    exact exact s e t before stepped
  · exact refused
  · trivial
  · exact holds

end Runs
