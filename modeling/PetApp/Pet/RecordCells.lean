import PetApp.Lib.Deferred
import PetApp.Lib.ReusePool
import PetApp.Pet.Records

/-!
The rows of the two list screens: `HealthBookTableViewCell.swift` under
`PetHealthBookViewController.swift` and `ListPetTableViewCell.swift` under
`ListPetViewController.swift`.

`tableView(_:cellForRowAt:)` takes a cell off the reuse queue or makes one, and
`configData` does not set its labels but queues a block that does. A cell can go
back to the reuse queue and to another row before that block has run; then two
blocks for it are queued.

* `RecordTable` — the records, the cells with their queued blocks, and the pool that
  hands the cells to the rows.
* `wired_step` — what every event keeps: the pool is sound, and the last block queued
  for the cell of a row is that of its record.
* `rows_show_records` — so a row without a queued block shows its record, and a tap
  opens the record its row shows in the end.
* `rows_never_stale_iff` — a row shows its own record or nothing at every moment exactly
  when no cell is reused under a queued block of another record.
-/

namespace PetApp

open Runs Deferred Reuse

/-- A class of cells. -/
structure CellKind (ρ ℓ : Type) where
  /-- The labels as the nib has them. -/
  nib : ℓ
  /-- The labels after `prepareForReuse`. -/
  prepareForReuse : ℓ
  /-- The labels the block of the configuration sets. -/
  config : ρ → ℓ

/-- The labels of a cell that the table hands out, new or off the reuse queue. -/
def CellKind.dequeued {ρ ℓ : Type} (kind : CellKind ρ ℓ) (reused : Option Nat) : ℓ :=
  match reused with
  | none => kind.nib
  | some _ => kind.prepareForReuse

/-- The labels of a `HealthBookTableViewCell`. -/
structure HealthBookLabels where
  contentHealthBookLabel : Option String := none
  detailHealthBookLabel : Option String := none
  petName : Option String := none
  dateLabel : Option String := none
deriving DecidableEq

/-- `HealthBookTableViewCell`; `configData` sets two labels to the diagnostic. -/
def HealthBookTableViewCell.kind (nib : HealthBookLabels) : CellKind HeathBook HealthBookLabels where
  nib := nib
  prepareForReuse := {}
  config heathBook := ⟨heathBook.diagnostic, heathBook.diagnostic, heathBook.petName,
    heathBook.createDate⟩

/-- The labels of a `ListPetTableViewCell`. -/
structure ListPetLabels where
  speciesLabel : Option String := none
  petNameLabel : Option String := none
deriving DecidableEq

/-- `ListPetTableViewCell` with `configPetData`. -/
def ListPetTableViewCell.kind (nib : ListPetLabels) : CellKind PetInformation ListPetLabels where
  nib := nib
  prepareForReuse := {}
  config petInformation := ⟨petInformation.species, petInformation.name⟩

/-! ### The table -/

/-- A table of records. -/
structure RecordTable (ρ ℓ : Type) where
  records : List ρ
  cells : Registers Nat ℓ
  pool : Pool
  /-- The record handed to the screen that was pushed last. -/
  opened : Option ρ

inductive RecordTableEvent (ρ : Type) where
  /-- The block of `setData`: new records and `reloadData`. -/
  | setData (records : List ρ)
  /-- A row comes to the screen, with a cell of the reuse queue or a new one. -/
  | cellForRowAt (row : Nat) (reused : Option Nat)
  | didEndDisplaying (row : Nat)
  /-- The oldest queued block runs. -/
  | block
  | didSelectRowAt (row : Nat)

namespace RecordTable

variable {ρ ℓ : Type} (kind : CellKind ρ ℓ)

/-- The table before its first answer. -/
def empty : RecordTable ρ ℓ := ⟨[], ⟨fun _ => kind.nib, []⟩, .empty, none⟩

variable {kind}

/-- The cell of each row on the screen. -/
def cellAt (s : RecordTable ρ ℓ) : Nat → Option Nat := s.pool.cellAt

/-- The labels once a cell has been dequeued and its configuration queued. -/
def dequeue (kind : CellKind ρ ℓ) (reused : Option Nat) (cell : Nat) (record : ρ)
    (cells : Registers Nat ℓ) : Registers Nat ℓ :=
  (cells.write cell (kind.dequeued reused)).post cell (kind.config record)

/-- One event. `none` when the row is not there, is on the screen already or is not on
the screen, when the reuse queue has no such cell, or when no block is queued. -/
def step (kind : CellKind ρ ℓ) (s : RecordTable ρ ℓ) : RecordTableEvent ρ → Option (RecordTable ρ ℓ)
  | .setData records =>
      some { s with records := records, pool := s.pool.reclaim s.records.length }
  | .cellForRowAt row reused =>
      match s.records[row]?, s.pool.take row reused with
      | some record, some (cell, pool) =>
          some { s with cells := dequeue kind reused cell record s.cells, pool := pool }
      | _, _ => none
  | .didEndDisplaying row => (s.pool.leave row).map fun pool => { s with pool := pool }
  | .block => s.cells.flush.map fun cells => { s with cells := cells }
  | .didSelectRowAt row =>
      match s.cellAt row, s.records[row]? with
      | some _, some record => some { s with opened := some record }
      | _, _ => none

/-- What one event can do. -/
theorem step_cases {s t : RecordTable ρ ℓ} {event : RecordTableEvent ρ}
    (stepped : step kind s event = some t) :
    (∃ records, event = .setData records ∧
      t = { s with records := records, pool := s.pool.reclaim s.records.length }) ∨
    (∃ row reused record cell pool, event = .cellForRowAt row reused ∧
      s.records[row]? = some record ∧ s.pool.take row reused = some (cell, pool) ∧
      t = { s with cells := dequeue kind reused cell record s.cells, pool := pool }) ∨
    (∃ row pool, event = .didEndDisplaying row ∧ s.pool.leave row = some pool ∧
      t = { s with pool := pool }) ∨
    (∃ cells, event = .block ∧ s.cells.flush = some cells ∧ t = { s with cells := cells }) ∨
    (∃ row cell record, event = .didSelectRowAt row ∧ s.cellAt row = some cell ∧
      s.records[row]? = some record ∧ t = { s with opened := some record }) := by
  cases event with
  | setData records =>
      cases stepped
      exact .inl ⟨records, rfl, rfl⟩
  | cellForRowAt row reused =>
      simp only [step] at stepped
      split at stepped
      · rename_i record cell pool found taken
        cases stepped
        exact .inr (.inl ⟨row, reused, record, cell, pool, rfl, found, taken, rfl⟩)
      · cases stepped
  | didEndDisplaying row =>
      obtain ⟨pool, left, rfl⟩ := Option.map_eq_some_iff.mp stepped
      exact .inr (.inr (.inl ⟨row, pool, rfl, left, rfl⟩))
  | block =>
      obtain ⟨cells, flushed, rfl⟩ := Option.map_eq_some_iff.mp stepped
      exact .inr (.inr (.inr (.inl ⟨cells, rfl, flushed, rfl⟩)))
  | didSelectRowAt row =>
      simp only [step] at stepped
      split at stepped
      · rename_i cell record shown found
        cases stepped
        exact .inr (.inr (.inr (.inr ⟨row, cell, record, rfl, shown, found, rfl⟩)))
      · cases stepped

/-! ### What every event keeps -/

/-- The pool is sound, and the last block queued for the cell of a row is that of its
record. -/
structure Wired (kind : CellKind ρ ℓ) (s : RecordTable ρ ℓ) : Prop where
  sound : s.pool.Sound s.records.length
  configured : ∀ row cell, s.cellAt row = some cell →
    ∃ record, s.records[row]? = some record ∧ s.cells.eventual cell = kind.config record

section Facts

variable {s t : RecordTable ρ ℓ}

theorem wired_empty : Wired kind (empty kind) :=
  ⟨Pool.sound_empty _, by simp [cellAt, empty, Pool.empty]⟩

theorem eventual_dequeue_of_ne {reused : Option Nat} {cell cell' : Nat} {record : ρ}
    (other : cell' ≠ cell) (cells : Registers Nat ℓ) :
    (dequeue kind reused cell record cells).eventual cell' = cells.eventual cell' := by
  rw [dequeue, Registers.eventual_post_of_ne other, Registers.eventual_write_of_ne other]

theorem wired_step {event : RecordTableEvent ρ} (wired : Wired kind s)
    (stepped : step kind s event = some t) : Wired kind t := by
  rcases step_cases stepped with ⟨records, -, rfl⟩ |
    ⟨row, reused, record, cell, pool, -, found, taken, rfl⟩ | ⟨row, pool, -, left, rfl⟩ |
    ⟨cells, -, flushed, rfl⟩ | ⟨row, cell, record, -, -, -, rfl⟩
  · refine ⟨Pool.sound_reclaim wired.sound _, ?_⟩
    rintro row cell ⟨⟩
  · obtain ⟨inRange, -⟩ := List.getElem?_eq_some_iff.mp found
    refine ⟨Pool.sound_take wired.sound inRange taken, ?_⟩
    intro row' cell' shown
    rcases Pool.cellAt_take_cases wired.sound taken shown with ⟨rfl, rfl⟩ | ⟨-, other, old⟩
    · exact ⟨record, found, Registers.eventual_post_self _ _ _⟩
    · obtain ⟨record', found', configured⟩ := wired.configured row' cell' old
      exact ⟨record', found', (eventual_dequeue_of_ne other s.cells).trans configured⟩
  · refine ⟨Pool.sound_leave wired.sound left, ?_⟩
    intro row' cell' still
    exact wired.configured row' cell' (Pool.cellAt_leave_cases left still).2
  · refine ⟨wired.sound, fun row cell shown => ?_⟩
    obtain ⟨record, found, configured⟩ := wired.configured row cell shown
    exact ⟨record, found, (Registers.eventual_flush flushed cell).trans configured⟩
  · exact ⟨wired.sound, wired.configured⟩

end Facts

/-! ### Whole runs -/

/-- Every row whose cell has no queued block shows its record. -/
def ShowsRecords (kind : CellKind ρ ℓ) (s : RecordTable ρ ℓ) : Prop :=
  ∀ row cell, s.cellAt row = some cell → s.cells.Idle cell →
    ∃ record, s.records[row]? = some record ∧ s.cells.value cell = kind.config record

/-- **Rows show their records.** In every run of reloads, scrolling, queued blocks and
taps, in any order: at every moment, a row whose cell has no queued block shows the record
at its position, and a tap on a row opens the record that its cell shows once the blocks
have run. -/
theorem rows_show_records (kind : CellKind ρ ℓ) (events : List (RecordTableEvent ρ)) :
    Always (step kind) (ShowsRecords kind) (empty kind) events ∧
      ∀ s t row, run (step kind) (empty kind) events = some s →
        step kind s (.didSelectRowAt row) = some t →
        ∃ cell record, s.cellAt row = some cell ∧ t.opened = some record ∧
          s.cells.eventual cell = kind.config record := by
  constructor
  · have always : Always (step kind) (Wired kind) (empty kind) events :=
      always_of_steps (fun _ _ _ _ wired stepped => wired_step wired stepped) wired_empty
    apply always.imp
    intro s wired row cell shown idle
    obtain ⟨record, found, configured⟩ := wired.configured row cell shown
    exact ⟨record, found, (Registers.value_of_idle idle).trans configured⟩
  · intro s t row reached selected
    have wired : Wired kind s := invariant_run (fun _ _ _ => wired_step) wired_empty reached
    simp only [step] at selected
    split at selected
    · rename_i cell record shown found
      cases selected
      obtain ⟨record', found', configured⟩ := wired.configured row cell shown
      cases found.symm.trans found'
      exact ⟨cell, record, shown, rfl, configured⟩
    · cases selected

/-- The labels of the record, or those of a cell that has not been configured. -/
def Own (kind : CellKind ρ ℓ) (record : ρ) (labels : ℓ) : Prop :=
  labels = kind.config record ∨ labels = kind.prepareForReuse ∨ labels = kind.nib

/-- Every row shows its own record or nothing, now and while the queued blocks run. -/
def NeverStale (kind : CellKind ρ ℓ) (s : RecordTable ρ ℓ) : Prop :=
  ∀ row cell record, s.cellAt row = some cell → s.records[row]? = some record →
    Own kind record (s.cells.value cell) ∧
      ∀ w ∈ s.cells.queue, w.1 = cell → Own kind record w.2

/-- A cell is reused for a row only when the blocks still queued for it leave labels
that are right for the row. -/
def ReusesSettled (kind : CellKind ρ ℓ) (s : RecordTable ρ ℓ) : RecordTableEvent ρ → Prop
  | .cellForRowAt row (some position) => s.cellAt row = none → ∀ record ∈ s.records[row]?,
      ∀ cell ∈ s.pool.reusable[position]?, ∀ w ∈ s.cells.queue, w.1 = cell → Own kind record w.2
  | _ => True

/-- Blocks are queued for cells that have been made. -/
def QueueMade (s : RecordTable ρ ℓ) : Prop := ∀ w ∈ s.cells.queue, w.1 < s.pool.made

section Facts

variable {s t : RecordTable ρ ℓ}

theorem queueMade_step (wired : Wired kind s) (queued : QueueMade s) {event : RecordTableEvent ρ}
    (stepped : step kind s event = some t) : QueueMade t := by
  rcases step_cases stepped with ⟨records, -, rfl⟩ |
    ⟨row, reused, record, cell, pool, -, -, taken, rfl⟩ | ⟨row, pool, -, left, rfl⟩ |
    ⟨cells, -, flushed, rfl⟩ | ⟨row, cell, record, -, -, -, rfl⟩
  · exact queued
  · intro w member
    rcases List.mem_append.mp member with old | new
    · exact (queued w old).trans_le (Pool.made_le_of_take taken)
    · cases List.mem_singleton.mp new
      exact Pool.lt_made_of_take wired.sound taken
  · obtain ⟨cell, -, rfl⟩ := Pool.leave_eq_some.mp left
    exact queued
  · intro w member
    exact queued w (Registers.queue_flush flushed member)
  · exact queued

/-- A cell that comes to a row keeps every row from being stale exactly when the blocks
still queued for it are right for the row. -/
theorem neverStale_dequeue_iff (wired : Wired kind s) (fresh : NeverStale kind s)
    {row cell : Nat} {reused : Option Nat} {record : ρ} {pool : Pool}
    (found : s.records[row]? = some record) (taken : s.pool.take row reused = some (cell, pool)) :
    NeverStale kind { s with cells := dequeue kind reused cell record s.cells, pool := pool } ↔
      ∀ w ∈ s.cells.queue, w.1 = cell → Own kind record w.2 := by
  constructor
  · intro after w member own
    have shown : pool.cellAt row = some cell := by
      rw [Pool.cellAt_take taken, Function.update_self]
    exact (after row cell record shown found).2 w (List.mem_append_left _ member) own
  · intro settled row' cell' record' shown found'
    rcases Pool.cellAt_take_cases wired.sound taken shown with ⟨rfl, rfl⟩ | ⟨-, other, old⟩
    · cases found.symm.trans found'
      refine ⟨?_, fun w member own => ?_⟩
      · have labels : (dequeue kind reused cell' record s.cells).value cell' =
            kind.dequeued reused := Function.update_self ..
        rw [labels]
        cases reused with
        | none => exact .inr (.inr rfl)
        | some position => exact .inr (.inl rfl)
      · rcases List.mem_append.mp member with before | new
        · exact settled w before own
        · cases List.mem_singleton.mp new
          exact .inl rfl
    · obtain ⟨now, later⟩ := fresh row' cell' record' old found'
      refine ⟨?_, fun w member own => ?_⟩
      · have labels : (dequeue kind reused cell record s.cells).value cell' =
            s.cells.value cell' := Function.update_of_ne other ..
        rw [labels]
        exact now
      · rcases List.mem_append.mp member with before | new
        · exact later w before own
        · cases List.mem_singleton.mp new
          exact absurd own.symm other

/-- Away from reuse every event keeps the rows from being stale. -/
theorem neverStale_step_iff (wired : Wired kind s) (queued : QueueMade s)
    (fresh : NeverStale kind s) {event : RecordTableEvent ρ} (stepped : step kind s event = some t) :
    NeverStale kind t ↔ ReusesSettled kind s event := by
  rcases step_cases stepped with ⟨records, rfl, rfl⟩ |
    ⟨row, reused, record, cell, pool, rfl, found, taken, rfl⟩ | ⟨row, pool, rfl, left, rfl⟩ |
    ⟨cells, rfl, flushed, rfl⟩ | ⟨row, cell, record, rfl, -, -, rfl⟩
  · refine iff_of_true ?_ trivial
    rintro row cell record ⟨⟩
  · rw [neverStale_dequeue_iff wired fresh found taken]
    have free := Pool.free_of_take taken
    rcases Pool.take_cases taken with ⟨rfl, rfl, -⟩ | ⟨position, rfl, waits, -⟩
    · refine iff_of_true ?_ trivial
      intro w member own
      exact absurd (queued w member) (by rw [own]; exact lt_irrefl _)
    · have hidden : s.cellAt row = none := free
      simp only [ReusesSettled, hidden, found, waits, Option.mem_def, Option.some.injEq,
        forall_eq', true_implies]
  · refine iff_of_true ?_ trivial
    intro row' cell' record' still found'
    exact fresh row' cell' record' (Pool.cellAt_leave_cases left still).2 found'
  · refine iff_of_true ?_ trivial
    intro row cell record shown found
    obtain ⟨now, later⟩ := fresh row cell record shown found
    refine ⟨?_, fun w member own => later w (Registers.queue_flush flushed member) own⟩
    rcases Registers.value_flush flushed cell with ⟨labels, member, value⟩ | value
    · rw [value]
      exact later (cell, labels) member rfl
    · rw [value]
      exact now
  · exact iff_of_true fresh trivial

theorem reusesSettled_of_refused {event : RecordTableEvent ρ} (refused : step kind s event = none) :
    ReusesSettled kind s event := by
  cases event with
  | cellForRowAt row reused =>
      cases reused with
      | none => trivial
      | some position =>
          intro hidden record found cell waits
          have free : s.pool.cellAt row = none := hidden
          simp [step, Pool.take, free, Option.mem_def.mp found, Option.mem_def.mp waits] at refused
  | _ => trivial

end Facts

/-- **When a row never shows another record.** For every run: each row shows its own
record or nothing at every moment, and so it stays while the queued blocks run, exactly
when every cell is reused for a row only after the blocks queued for it have run or with
labels that are right for that row. -/
theorem rows_never_stale_iff (kind : CellKind ρ ℓ) (events : List (RecordTableEvent ρ)) :
    Always (step kind) (NeverStale kind) (empty kind) events ↔
      Meets (step kind) (ReusesSettled kind) (empty kind) events := by
  apply always_iff_meets fun s => Wired kind s ∧ QueueMade s
  · rintro s event t ⟨wired, queued⟩ _ stepped
    exact ⟨wired_step wired stepped, queueMade_step wired queued stepped⟩
  · rintro s event t ⟨wired, queued⟩ fresh stepped
    exact neverStale_step_iff wired queued fresh stepped
  · intro s event refused
    exact reusesSettled_of_refused refused
  · exact ⟨wired_empty, by simp [QueueMade, empty]⟩
  · intro row cell record shown
    cases shown

end RecordTable

end PetApp
