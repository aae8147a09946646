import Mathlib.Logic.Function.Basic

/-!
Registers with writes that are made later, in the order in which they were posted.

A write can be made at once (`write`) or posted to a queue (`post`) from which one
after the other is taken and made (`flush`). `eventual` is the value a register has
once the queue is empty. It does not see the flushes.

* `eventual_flush` — making a posted write changes no eventual value.
* `eventual_post_self`, `eventual_post_of_ne`, `eventual_write_of_ne` — what the two
  kinds of writes change.
* `value_of_idle` — without a posted write the eventual value is the present one.
-/

namespace Deferred

universe u v

/-- Registers and the writes posted to them, the oldest first. -/
structure Registers (κ : Type u) (ν : Type v) where
  value : κ → ν
  queue : List (κ × ν)

namespace Registers

variable {κ : Type u} {ν : Type v} [DecidableEq κ] {r r' : Registers κ ν} {k k' : κ} {v : ν}

/-- A write made at once. -/
def write (k : κ) (v : ν) (r : Registers κ ν) : Registers κ ν :=
  { r with value := Function.update r.value k v }

/-- A write for later. -/
def post (k : κ) (v : ν) (r : Registers κ ν) : Registers κ ν :=
  { r with queue := r.queue ++ [(k, v)] }

/-- Make the oldest posted write. -/
def flush (r : Registers κ ν) : Option (Registers κ ν) :=
  match r.queue with
  | [] => none
  | (k, v) :: queue => some ⟨Function.update r.value k v, queue⟩

/-- The value once all posted writes are made. -/
def eventual (r : Registers κ ν) (k : κ) : ν :=
  r.queue.foldl (fun value w => if w.1 = k then w.2 else value) (r.value k)

/-- No write to the register is posted. -/
def Idle (k : κ) (r : Registers κ ν) : Prop := ∀ w ∈ r.queue, w.1 ≠ k

instance (k : κ) (r : Registers κ ν) : Decidable (r.Idle k) :=
  inferInstanceAs (Decidable (∀ w ∈ r.queue, w.1 ≠ k))

theorem eventual_flush (flushed : r.flush = some r') (k : κ) : r'.eventual k = r.eventual k := by
  obtain ⟨value, queue⟩ := r
  cases queue with
  | nil => cases flushed
  | cons w queue =>
      cases flushed
      by_cases own : w.1 = k
      · subst own
        simp [eventual]
      · simp [eventual, own, Function.update_of_ne (Ne.symm own)]

@[simp] theorem eventual_post_self (r : Registers κ ν) (k : κ) (v : ν) :
    (r.post k v).eventual k = v := by
  simp [eventual, post]

theorem eventual_post_of_ne (other : k' ≠ k) : (r.post k v).eventual k' = r.eventual k' := by
  simp [eventual, post, Ne.symm other]

theorem eventual_write_of_ne (other : k' ≠ k) : (r.write k v).eventual k' = r.eventual k' := by
  simp [eventual, write, Function.update_of_ne other]

/-- Without posted writes a register has its eventual value. -/
theorem value_of_idle (idle : r.Idle k) : r.value k = r.eventual k := by
  have unchanged : ∀ (queue : List (κ × ν)) (value : ν), (∀ w ∈ queue, w.1 ≠ k) →
      queue.foldl (fun value w => if w.1 = k then w.2 else value) value = value := by
    intro queue value others
    induction queue generalizing value with
    | nil => rfl
    | cons w queue ih =>
        rw [List.foldl_cons, if_neg (others w List.mem_cons_self)]
        exact ih value fun w' member => others w' (List.mem_cons_of_mem _ member)
  exact (unchanged r.queue _ idle).symm

/-- A flushed register has its value or the one of the write. -/
theorem value_flush (flushed : r.flush = some r') (k : κ) :
    (∃ v, (k, v) ∈ r.queue ∧ r'.value k = v) ∨ r'.value k = r.value k := by
  obtain ⟨value, queue⟩ := r
  cases queue with
  | nil => cases flushed
  | cons w queue =>
      cases flushed
      by_cases own : k = w.1
      · exact .inl ⟨w.2, by simp [own], by simp [own]⟩
      · exact .inr (Function.update_of_ne own _ _)

/-- A flush posts nothing. -/
theorem queue_flush (flushed : r.flush = some r') {w : κ × ν} (member : w ∈ r'.queue) :
    w ∈ r.queue := by
  obtain ⟨value, queue⟩ := r
  cases queue with
  | nil => cases flushed
  | cons w' queue =>
      cases flushed
      exact List.mem_cons_of_mem _ member

end Registers

end Deferred
