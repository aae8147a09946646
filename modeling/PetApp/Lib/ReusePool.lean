import Mathlib.Logic.Function.Basic
import PetApp.Lib.Lists

/-!
Numbered cells that are shown at places and used again.

A place takes a cell that waits in the reuse queue, or a new one; a place that is left, or a
reclaim of all places, gives the cells back to the queue.

* `Sound` — no cell is in two places, or at a place and in the queue.
* `sound_take`, `sound_leave`, `sound_reclaim` — every operation keeps that.
* `cellAt_take_cases` — after a `take` the other places have the cells they had, and none of
  them is the one that was taken.
-/

namespace Reuse

/-- Cells are numbered in the order in which they are made. -/
structure Pool where
  cellAt : Nat → Option Nat
  reusable : List Nat
  made : Nat

namespace Pool

def empty : Pool := ⟨fun _ => none, [], 0⟩

/-- The cells at the first `places` places. -/
def displayed (places : Nat) (p : Pool) : List Nat := (List.range places).filterMap p.cellAt

/-- All cells leave their places. -/
def reclaim (places : Nat) (p : Pool) : Pool :=
  { p with cellAt := fun _ => none, reusable := p.reusable ++ p.displayed places }

/-- A free place takes a new cell, or the one at a position of the reuse queue. -/
def take (place : Nat) (reused : Option Nat) (p : Pool) : Option (Nat × Pool) :=
  match p.cellAt place, reused with
  | none, none =>
      some (p.made,
        { p with cellAt := Function.update p.cellAt place (some p.made), made := p.made + 1 })
  | none, some position =>
      p.reusable[position]?.map fun cell =>
        (cell,
          { p with
            cellAt := Function.update p.cellAt place (some cell)
            reusable := p.reusable.eraseIdx position })
  | some _, _ => none

/-- A place gives its cell to the reuse queue. -/
def leave (place : Nat) (p : Pool) : Option Pool :=
  (p.cellAt place).map fun cell =>
    { p with
      cellAt := Function.update p.cellAt place none
      reusable := p.reusable ++ [cell] }

/-- Only the first `places` places have cells, and no cell is in two places, or at a place and
in the queue. -/
structure Sound (places : Nat) (p : Pool) : Prop where
  inRange : ∀ place cell, p.cellAt place = some cell → place < places
  apart : ∀ place place' cell, p.cellAt place = some cell → p.cellAt place' = some cell →
    place = place'
  away : ∀ place cell, p.cellAt place = some cell → cell ∉ p.reusable
  once : p.reusable.Nodup
  shownMade : ∀ place cell, p.cellAt place = some cell → cell < p.made
  reusableMade : ∀ cell ∈ p.reusable, cell < p.made

variable {places place cell : Nat} {reused : Option Nat} {p q : Pool}

theorem sound_empty (places : Nat) : Sound places empty :=
  ⟨by simp [empty], by simp [empty], by simp [empty], List.nodup_nil, by simp [empty],
    by simp [empty]⟩

theorem mem_displayed (sound : Sound places p) :
    cell ∈ p.displayed places ↔ ∃ place, p.cellAt place = some cell := by
  constructor
  · intro member
    obtain ⟨place, -, shown⟩ := List.mem_filterMap.mp member
    exact ⟨place, shown⟩
  · rintro ⟨place, shown⟩
    exact List.mem_filterMap.mpr ⟨place, List.mem_range.mpr (sound.inRange _ _ shown), shown⟩

theorem nodup_displayed (sound : Sound places p) : (p.displayed places).Nodup := by
  refine List.Nodup.filterMap ?_ List.nodup_range
  intro place place' cell shown shown'
  exact sound.apart place place' cell shown shown'

/-- A reclaim gives all cells to the reuse queue; the number of places may change with it. -/
theorem sound_reclaim (sound : Sound places p) (places' : Nat) :
    Sound places' (p.reclaim places) := by
  refine ⟨by simp [reclaim], by simp [reclaim], by simp [reclaim], ?_, by simp [reclaim], ?_⟩
  · refine List.nodup_append.mpr ⟨sound.once, nodup_displayed sound, ?_⟩
    rintro cell inQueue _ member rfl
    obtain ⟨place, shown⟩ := (mem_displayed sound).mp member
    exact sound.away place cell shown inQueue
  · intro cell member
    rcases List.mem_append.mp member with inQueue | shown
    · exact sound.reusableMade cell inQueue
    · obtain ⟨place, shown⟩ := (mem_displayed sound).mp shown
      exact sound.shownMade place cell shown

/-- The two ways to take a cell. -/
theorem take_cases (taken : p.take place reused = some (cell, q)) :
    (reused = none ∧ cell = p.made ∧
      q = ⟨Function.update p.cellAt place (some cell), p.reusable, p.made + 1⟩) ∨
    (∃ position, reused = some position ∧ p.reusable[position]? = some cell ∧
      q = ⟨Function.update p.cellAt place (some cell), p.reusable.eraseIdx position, p.made⟩) := by
  simp only [take] at taken
  split at taken
  · cases taken
    exact .inl ⟨rfl, rfl, rfl⟩
  · rename_i position _
    obtain ⟨found, waits, same⟩ := Option.map_eq_some_iff.mp taken
    cases same
    exact .inr ⟨position, rfl, waits, rfl⟩
  · cases taken

/-- Only a place without a cell takes one. -/
theorem free_of_take (taken : p.take place reused = some (cell, q)) : p.cellAt place = none := by
  cases shown : p.cellAt place with
  | none => rfl
  | some cell' => simp [take, shown] at taken

theorem cellAt_take (taken : p.take place reused = some (cell, q)) :
    q.cellAt = Function.update p.cellAt place (some cell) := by
  rcases take_cases taken with ⟨-, -, rfl⟩ | ⟨_, -, -, rfl⟩ <;> rfl

/-- The cell that is taken was at no place. -/
theorem nowhere_of_take (sound : Sound places p) (taken : p.take place reused = some (cell, q))
    (place' : Nat) : p.cellAt place' ≠ some cell := by
  intro shown
  rcases take_cases taken with ⟨-, rfl, -⟩ | ⟨position, -, waits, -⟩
  · exact absurd (sound.shownMade place' _ shown) (Nat.lt_irrefl _)
  · exact sound.away place' cell shown (List.mem_of_getElem? waits)

/-- After a `take` the place has the cell, and every other place the one it had, which is
another. -/
theorem cellAt_take_cases (sound : Sound places p)
    (taken : p.take place reused = some (cell, q)) {place' cell' : Nat}
    (shown : q.cellAt place' = some cell') :
    (place' = place ∧ cell' = cell) ∨
      (place' ≠ place ∧ cell' ≠ cell ∧ p.cellAt place' = some cell') := by
  rw [cellAt_take taken] at shown
  by_cases same : place' = place
  · subst same
    rw [Function.update_self] at shown
    exact .inl ⟨rfl, (Option.some.inj shown).symm⟩
  · rw [Function.update_of_ne same] at shown
    refine .inr ⟨same, ?_, shown⟩
    rintro rfl
    exact nowhere_of_take sound taken place' shown

theorem made_le_of_take (taken : p.take place reused = some (cell, q)) : p.made ≤ q.made := by
  rcases take_cases taken with ⟨-, -, rfl⟩ | ⟨_, -, -, rfl⟩
  · exact Nat.le_succ _
  · exact Nat.le_refl _

theorem lt_made_of_take (sound : Sound places p) (taken : p.take place reused = some (cell, q)) :
    cell < q.made := by
  rcases take_cases taken with ⟨-, rfl, rfl⟩ | ⟨position, -, waits, rfl⟩
  · exact Nat.lt_succ_self _
  · exact sound.reusableMade cell (List.mem_of_getElem? waits)

theorem reusable_of_take (sound : Sound places p) (taken : p.take place reused = some (cell, q)) :
    q.reusable.Sublist p.reusable ∧ cell ∉ q.reusable := by
  rcases take_cases taken with ⟨-, rfl, rfl⟩ | ⟨position, -, waits, rfl⟩
  · exact ⟨List.Sublist.refl _, fun waits => absurd (sound.reusableMade _ waits) (Nat.lt_irrefl _)⟩
  · refine ⟨List.eraseIdx_sublist .., ?_⟩
    intro still
    have once : (p.reusable.map id).Nodup := by
      rw [List.map_id]
      exact sound.once
    exact Lists.key_ne_of_mem_eraseIdx id once waits still rfl

theorem sound_take (sound : Sound places p) (inRange : place < places)
    (taken : p.take place reused = some (cell, q)) : Sound places q := by
  obtain ⟨remains, gone⟩ := reusable_of_take sound taken
  refine ⟨?_, ?_, ?_, sound.once.sublist remains, ?_, ?_⟩
  · intro place' cell' shown
    rcases cellAt_take_cases sound taken shown with ⟨rfl, -⟩ | ⟨-, -, old⟩
    · exact inRange
    · exact sound.inRange place' cell' old
  · intro place' place'' cell' shown shown'
    rcases cellAt_take_cases sound taken shown with ⟨rfl, rfl⟩ | ⟨-, other, old⟩ <;>
      rcases cellAt_take_cases sound taken shown' with ⟨rfl, same⟩ | ⟨-, other', old'⟩
    · rfl
    · exact absurd rfl other'
    · exact absurd same other
    · exact sound.apart place' place'' cell' old old'
  · intro place' cell' shown
    rcases cellAt_take_cases sound taken shown with ⟨-, rfl⟩ | ⟨-, -, old⟩
    · exact gone
    · exact fun waits => sound.away place' cell' old (remains.subset waits)
  · intro place' cell' shown
    rcases cellAt_take_cases sound taken shown with ⟨-, rfl⟩ | ⟨-, -, old⟩
    · exact lt_made_of_take sound taken
    · exact Nat.lt_of_lt_of_le (sound.shownMade place' cell' old) (made_le_of_take taken)
  · intro cell' waits
    exact Nat.lt_of_lt_of_le (sound.reusableMade cell' (remains.subset waits))
      (made_le_of_take taken)

/-- What a place that is left leaves behind. -/
theorem leave_eq_some : p.leave place = some q ↔
    ∃ cell, p.cellAt place = some cell ∧
      q = ⟨Function.update p.cellAt place none, p.reusable ++ [cell], p.made⟩ := by
  constructor
  · intro left
    obtain ⟨cell, shown, rfl⟩ := Option.map_eq_some_iff.mp left
    exact ⟨cell, shown, rfl⟩
  · rintro ⟨cell, shown, rfl⟩
    simp [leave, shown]

/-- The places that still have a cell have the one they had. -/
theorem cellAt_leave_cases (left : p.leave place = some q) {place' cell' : Nat}
    (shown : q.cellAt place' = some cell') : place' ≠ place ∧ p.cellAt place' = some cell' := by
  obtain ⟨cell, -, rfl⟩ := leave_eq_some.mp left
  by_cases same : place' = place
  · simp [same] at shown
  · exact ⟨same, by simpa [Function.update_of_ne same] using shown⟩

theorem sound_leave (sound : Sound places p) (left : p.leave place = some q) :
    Sound places q := by
  have others : ∀ place' cell', q.cellAt place' = some cell' →
      place' ≠ place ∧ p.cellAt place' = some cell' :=
    fun _ _ shown => cellAt_leave_cases left shown
  obtain ⟨cell, shown, rfl⟩ := leave_eq_some.mp left
  refine ⟨?_, ?_, ?_, ?_, ?_, ?_⟩
  · intro place' cell' still
    exact sound.inRange place' cell' (others place' cell' still).2
  · intro place' place'' cell' still still'
    exact sound.apart place' place'' cell' (others place' cell' still).2
      (others place'' cell' still').2
  · intro place' cell' still inQueue
    obtain ⟨other, old⟩ := others place' cell' still
    rcases List.mem_append.mp inQueue with before | now
    · exact sound.away place' cell' old before
    · cases List.mem_singleton.mp now
      exact other (sound.apart place' place cell old shown)
  · refine List.nodup_append.mpr ⟨sound.once, List.nodup_singleton _, ?_⟩
    rintro cell' before _ now rfl
    cases List.mem_singleton.mp now
    exact sound.away place cell shown before
  · intro place' cell' still
    exact sound.shownMade place' cell' (others place' cell' still).2
  · intro cell' member
    rcases List.mem_append.mp member with before | now
    · exact sound.reusableMade cell' before
    · cases List.mem_singleton.mp now
      exact sound.shownMade place cell shown

end Pool

end Reuse
