import PetApp.Post.Service

/-!
The tables of the two post screens while they load: `didLoadHandBook` of
`HandBookViewController.swift`, `didLoadTraining` and `setData` of
`TrainingViewController.swift`.

A table view keeps the row count of its last reload and asks for cells and
selections below it, whatever has happened to the arrays since. The handbook
screen replaces its list in the fetch callback and reloads a second later; the
training screen does both a second later. Taps and searches reload at once.

* `bounded_setAnimals` — the list replaces an empty one, so the count kept from
  the last reload stays good.
* `bounded_user` — a tap or a search leaves a count that is good for both lists.
* `rows_in_range` — for both controllers, in every state of every run, each row
  below the kept count is in range for its cell and for its selection.
-/

namespace PetApp

open Runs

/-! ### The load of the training screen -/

section Training

variable (image : String → UIImage)

/-- The object `setData` makes of a document. `image` is the picture behind a
link, an empty one when there is none. -/
def Training.ofDocument (object : Nat) (document : Document) : Training where
  object := object
  animal := some ((document.string "animal").getD "")
  description := some ((document.string "description").getD "")
  title := (document.string "title").getD ""
  image := some (image ((document.string "image").getD ""))

/-- The list `setData` builds. -/
def Training.setData (documents : List Document) : List Training :=
  documents.mapIdx (Training.ofDocument image)

theorem Training.nodup_setData (documents : List Document) :
    (Training.setData image documents).Nodup := by
  have numbered : ∀ object document, (Training.ofDocument image object document).object = object :=
    fun _ _ => rfl
  exact Lists.nodup_mapIdx numbered documents

end Training

/-! ### Tables -/

/-- Where a load stands: before the fetch callback, before the block it queues
for a second later, after both. -/
inductive LoadStage where
  | fetching
  | delayed
  | done
deriving DecidableEq, Repr

/-- A screen, its load, and the row count its table got at the last reload. -/
structure PostTable (α : Type) where
  screen : PostScreen α
  stage : LoadStage
  rows : Nat

inductive TableEvent where
  | callback
  | delayedBlock
  | user (event : PostEvent)
deriving DecidableEq

/-- The screen with the loaded list. -/
def PostScreen.setAnimals {α : Type} (animals : List α) (distinct : animals.Nodup)
    (s : PostScreen α) : PostScreen α :=
  { s with animals := animals, distinct := distinct }

namespace PostTable

section Machine

variable {α : Type} [Post α] (foundation : Foundation)

/-- The screen when its load starts. -/
def start : PostTable α := ⟨.loaded [] List.nodup_nil, .fetching, 2⟩

/-- `reloadData()`. -/
def reloadData (table : PostTable α) : PostTable α :=
  { table with rows := table.screen.numberOfRowsInSection }

/-- The closures of the cells change the screen and reload. -/
def user (table : PostTable α) (event : PostEvent) : Option (PostTable α) :=
  (table.screen.step foundation event).map fun screen =>
    reloadData { table with screen := screen }

/-- The handbook screen: the callback sets the list, the delayed block reloads. -/
def handBookStep (documents : List Document) (table : PostTable HandBook) :
    TableEvent → Option (PostTable HandBook)
  | .callback =>
      if table.stage = .fetching then
        some { table with
          screen := table.screen.setAnimals (FireBaseService.decode documents)
            (FireBaseService.nodup_decode documents)
          stage := .delayed }
      else none
  | .delayedBlock =>
      if table.stage = .delayed then some (reloadData { table with stage := .done }) else none
  | .user event => user foundation table event

/-- The training screen: the delayed block sets the list and reloads. -/
def trainingStep (image : String → UIImage) (documents : List Document)
    (table : PostTable Training) : TableEvent → Option (PostTable Training)
  | .callback =>
      if table.stage = .fetching then some { table with stage := .delayed } else none
  | .delayedBlock =>
      if table.stage = .delayed then
        some <| reloadData
          { table with
            screen := table.screen.setAnimals (Training.setData image documents)
              (Training.nodup_setData image documents)
            stage := .done }
      else none
  | .user event => user foundation table event

end Machine

section Facts

variable {α : Type} {table next : PostTable α}

/-- Every row below the kept count is in range for its cell and its selection. -/
def InRange (table : PostTable α) : Prop :=
  ∀ row < table.rows,
    (table.screen.cellForRowAt row).isSome ∧ (table.screen.didSelectRowAt row).isSome

/-- The kept count is good for the list on the screen, and the filtered list is
never longer than the loaded one. -/
structure Bounded (table : PostTable α) : Prop where
  rows : table.rows ≤ table.screen.shown.length + 2
  filtered : table.screen.filtered.length ≤ table.screen.animals.length

theorem Bounded.shown_le (bounded : Bounded table) :
    table.screen.shown.length ≤ table.screen.animals.length := by
  unfold PostScreen.shown
  split
  · exact bounded.filtered
  · exact le_rfl

theorem inRange_of_bounded (bounded : Bounded table) : InRange table := by
  intro row below
  have shown := bounded.rows
  have animals := bounded.shown_le
  match row with
  | 0 => exact ⟨rfl, rfl⟩
  | 1 => exact ⟨rfl, rfl⟩
  | row + 2 =>
      have inShown : row < table.screen.shown.length := by omega
      have inAnimals : row < table.screen.animals.length := by omega
      rw [PostScreen.cellForRowAt_add_two, PostScreen.didSelectRowAt_add_two]
      simp [inShown, inAnimals]

/-- A reload leaves a good count. -/
theorem bounded_reloadData (filtered : table.screen.filtered.length ≤ table.screen.animals.length) :
    Bounded (reloadData table) :=
  ⟨(PostScreen.numberOfRowsInSection_eq table.screen).le, filtered⟩

/-- A list that replaces an empty one keeps the count good: both lists were
empty, so the count was at most two. -/
theorem bounded_setAnimals (bounded : Bounded table) (empty : table.screen.animals = [])
    (animals : List α) (distinct : animals.Nodup) (stage : LoadStage) :
    Bounded { table with screen := table.screen.setAnimals animals distinct, stage := stage } := by
  have rows := bounded.rows
  have shown := bounded.shown_le
  have filtered := bounded.filtered
  rw [empty, List.length_nil] at shown filtered
  refine ⟨?_, ?_⟩
  · show table.rows ≤ _
    omega
  · show table.screen.filtered.length ≤ _
    omega

theorem step_filtered_le [Post α] {foundation : Foundation} {s t : PostScreen α} {event : PostEvent}
    (stepped : s.step foundation event = some t) :
    t.filtered.length ≤ t.animals.length ∧ t.animals = s.animals := by
  cases event <;> cases stepped <;> exact ⟨List.length_filter_le _ _, rfl⟩

theorem bounded_user [Post α] {foundation : Foundation} {event : PostEvent}
    (stepped : user foundation table event = some next) :
    Bounded next ∧ next.screen.animals = table.screen.animals ∧ next.stage = table.stage := by
  obtain ⟨screen, changed, rfl⟩ := Option.map_eq_some_iff.mp stepped
  obtain ⟨filtered, animals⟩ := step_filtered_le changed
  exact ⟨bounded_reloadData filtered, animals, rfl⟩

/-- The invariant: the count is good, and the list is empty until the load sets
it. `unset` holds of the stages in which it has not been set. -/
structure Loading (unset : LoadStage → Prop) (table : PostTable α) : Prop
    extends Bounded table where
  empty : unset table.stage → table.screen.animals = []

theorem loading_start (unset : LoadStage → Prop) : Loading unset (start : PostTable α) where
  rows := le_rfl
  filtered := le_rfl
  empty := fun _ => rfl

theorem loading_user [Post α] {foundation : Foundation} {unset : LoadStage → Prop}
    {event : PostEvent} (loading : Loading unset table)
    (stepped : user foundation table event = some next) : Loading unset next := by
  obtain ⟨bounded, animals, stage⟩ := bounded_user stepped
  refine ⟨bounded, ?_⟩
  rw [animals, stage]
  exact loading.empty

end Facts

theorem loading_handBookStep {foundation : Foundation} {documents : List Document}
    {table next : PostTable HandBook} (loading : Loading (· = .fetching) table) {event : TableEvent}
    (stepped : handBookStep foundation documents table event = some next) :
    Loading (· = .fetching) next := by
  cases event with
  | callback =>
      simp only [handBookStep] at stepped
      split at stepped
      · rename_i fetching
        cases stepped
        refine ⟨bounded_setAnimals loading.toBounded (loading.empty fetching) _ _ _, ?_⟩
        rintro ⟨⟩
      · cases stepped
  | delayedBlock =>
      simp only [handBookStep] at stepped
      split at stepped
      · cases stepped
        refine ⟨bounded_reloadData loading.filtered, ?_⟩
        rintro ⟨⟩
      · cases stepped
  | user event => exact loading_user loading stepped

theorem loading_trainingStep {foundation : Foundation} {image : String → UIImage}
    {documents : List Document} {table next : PostTable Training}
    (loading : Loading (· ≠ .done) table) {event : TableEvent}
    (stepped : trainingStep foundation image documents table event = some next) :
    Loading (· ≠ .done) next := by
  cases event with
  | callback =>
      simp only [trainingStep] at stepped
      split at stepped
      · rename_i fetching
        cases stepped
        exact ⟨⟨loading.rows, loading.filtered⟩, fun _ => loading.empty (by simp [fetching])⟩
      · cases stepped
  | delayedBlock =>
      simp only [trainingStep] at stepped
      split at stepped
      · rename_i delayed
        cases stepped
        have set := bounded_setAnimals loading.toBounded (loading.empty (by simp [delayed]))
          (Training.setData image documents) (Training.nodup_setData image documents) .done
        exact ⟨bounded_reloadData set.filtered, fun unset => absurd rfl unset⟩
      · cases stepped
  | user event => exact loading_user loading stepped

/-- **No row request is out of range.** For both controllers, every list of
documents the load delivers, and every order of the fetch callback, the delayed
block, category taps, searches and clear taps: in every state, each row below
the row count of the last reload is in range for `cellForRowAt` and for
`didSelectRowAt`. -/
theorem rows_in_range (foundation : Foundation) (image : String → UIImage)
    (documents : List Document) (events : List TableEvent) :
    Always (handBookStep foundation documents) InRange start events ∧
      Always (trainingStep foundation image documents) InRange start events := by
  constructor
  · have loading : Always (handBookStep foundation documents) (Loading (· = .fetching)) start
        events := by
      apply always_of_steps
      · intro s event _ t before stepped
        exact loading_handBookStep before stepped
      · exact loading_start _
    exact loading.imp fun _ h => inRange_of_bounded h.toBounded
  · have loading : Always (trainingStep foundation image documents) (Loading (· ≠ .done)) start
        events := by
      apply always_of_steps
      · intro s event _ t before stepped
        exact loading_trainingStep before stepped
      · exact loading_start _
    exact loading.imp fun _ h => inRange_of_bounded h.toBounded

end PostTable

end PetApp
