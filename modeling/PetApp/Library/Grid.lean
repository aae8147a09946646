import PetApp.Lib.Runs
import PetApp.Library.ListView

/-!
The grid of animals on the list screen: `ListItemTableViewCell.swift` under
`initAnimalsCell` of `ListViewController.swift`.

A reload of the table hands the row of the grid a list and a tap closure over that
list. The row stores the list at once, but it only queues the `reloadData` of its
collection view. Until that block runs the collection view keeps the item count and
the cells of the list before, while requests and taps already read the new one.

* `UICollectionView` — a place for each item counted at the last `reloadData`.
* `synced_step` — what every step keeps: the closure reads the list of the row, and
  with no block queued the grid displays that list.
* `opensDisplayed_iff` — so a request or a tap can only go wrong while a block is
  queued, on an item that the new list no longer has or has another animal for.
* `tap_opens_displayed_iff` — the same over whole runs.
-/

namespace PetApp

open Runs

/-! ### The collection view -/

/-- `UICollectionView`: a place for each item counted at its last `reloadData`, with
the item its cell has been configured with, if it has been asked for. -/
structure UICollectionView (α : Type) where
  cells : List (Option α) := []
deriving DecidableEq

namespace UICollectionView

variable {α : Type}

/-- The item count obtained at the last `reloadData`. -/
def numberOfItems (view : UICollectionView α) : Nat := view.cells.length

/-- `reloadData`: the items are counted again and the cells are given up. -/
def reloadData (numberOfItemsInSection : Nat) : UICollectionView α :=
  ⟨List.replicate numberOfItemsInSection none⟩

/-- A cell configured with an item comes to its place. -/
def display (i : Nat) (item : α) (view : UICollectionView α) : UICollectionView α :=
  ⟨view.cells.set i (some item)⟩

/-- The item displayed at an index. -/
def displayed (view : UICollectionView α) (i : Nat) : Option α := view.cells[i]?.join

@[simp] theorem numberOfItems_reloadData (count : Nat) :
    (reloadData count : UICollectionView α).numberOfItems = count :=
  List.length_replicate

@[simp] theorem numberOfItems_display (i : Nat) (item : α) (view : UICollectionView α) :
    (view.display i item).numberOfItems = view.numberOfItems :=
  List.length_set

/-- After `reloadData` no cell has been configured. -/
@[simp] theorem displayed_reloadData (count i : Nat) :
    (reloadData count : UICollectionView α).displayed i = none := by
  simp only [displayed, reloadData, List.getElem?_replicate]
  split <;> rfl

/-- A configured cell displays its item, the other places stay as they were. -/
theorem displayed_display {i j : Nat} {item shown : α} {view : UICollectionView α}
    (here : (view.display i item).displayed j = some shown) :
    (j = i ∧ shown = item) ∨ view.displayed j = some shown := by
  simp only [displayed, display, List.getElem?_set] at here
  split at here
  · rename_i same
    split at here
    · cases here
      exact .inl ⟨same.symm, rfl⟩
    · cases here
  · exact .inr here

end UICollectionView

/-! ### The row of the grid -/

/-- The row, and how many of its `reloadData` blocks wait on the main queue. -/
structure ListItemTableViewCell where
  animals : List Animal := []
  /-- The list `tapCell` reads. Before the controller sets the closure it does
  nothing. -/
  tapCell : Option (List Animal) := none
  collectionView : UICollectionView Animal := {}
  reloads : Nat := 0
deriving DecidableEq

namespace ListItemTableViewCell

/-- `setData`. -/
def setData (animals : List Animal) (cell : ListItemTableViewCell) : ListItemTableViewCell :=
  { cell with animals := animals, reloads := cell.reloads + 1 }

/-- `collectionView(_:numberOfItemsInSection:)`. -/
def numberOfItemsInSection (cell : ListItemTableViewCell) : Nat := cell.animals.length

/-- `collectionView(_:cellForItemAt:)`: the animal the cell is configured with;
`none` is an index out of range. -/
def cellForItemAt (i : Nat) (cell : ListItemTableViewCell) : Option Animal := cell.animals[i]?

/-- `collectionView(_:didSelectItemAt:)`: the animal passed to the detail screen, if
one is pushed; `none` is an index out of range. -/
def didSelectItemAt (i : Nat) (cell : ListItemTableViewCell) : Option (Option Animal) :=
  match cell.tapCell with
  | none => some none
  | some animalData => animalData[i]?.map some

/-- The block of `setData` runs. -/
def reloadData (cell : ListItemTableViewCell) : ListItemTableViewCell :=
  { cell with
    collectionView := .reloadData cell.numberOfItemsInSection
    reloads := cell.reloads - 1 }

/-- The collection view asks for a cell and places it. -/
def request (i : Nat) (cell : ListItemTableViewCell) : Option ListItemTableViewCell :=
  (cell.cellForItemAt i).map fun animal =>
    { cell with collectionView := cell.collectionView.display i animal }

end ListItemTableViewCell

/-- `initAnimalsCell`. -/
def ListViewController.initAnimalsCell (s : ListViewController) (cell : ListItemTableViewCell) :
    ListItemTableViewCell :=
  { cell.setData s.animalData with tapCell := some s.animalData }

/-! ### The screen -/

/-- The list screen with the row of its grid. -/
structure GridScreen where
  controller : ListViewController := {}
  cell : ListItemTableViewCell := {}
deriving DecidableEq

inductive GridEvent where
  /-- The block of `ListViewController.setData` runs. -/
  | setData (arrAnimal : List Animal)
  /-- A category tap on the home screen. -/
  | homeTap (category : Category)
  | tapCategories (category : Category)
  | didStartSearch (searchText : String)
  | deleteSearchValue
  /-- The table asks for the row of the grid, as every reload makes it do. -/
  | initAnimalsCell
  /-- A queued block reloads the collection view. -/
  | reloadData
  | cellForItemAt (i : Nat)
  | didSelectItemAt (i : Nat)
deriving DecidableEq

namespace GridScreen

/-- One event. The collection view asks for and takes taps on the items it has
counted; an index out of range stops the app. -/
def step (foundation : Foundation) (s : GridScreen) : GridEvent → Option GridScreen
  | .setData arrAnimal => some { s with controller := s.controller.setData arrAnimal }
  | .homeTap category =>
      some { s with controller := { s.controller with animalType := category } }
  | .tapCategories category =>
      some { s with controller := s.controller.tapCategories foundation category }
  | .didStartSearch searchText =>
      some { s with controller := s.controller.didStartSearch foundation searchText }
  | .deleteSearchValue =>
      some { s with controller := s.controller.deleteSearchValue foundation }
  | .initAnimalsCell => some { s with cell := s.controller.initAnimalsCell s.cell }
  | .reloadData => if 0 < s.cell.reloads then some { s with cell := s.cell.reloadData } else none
  | .cellForItemAt i =>
      if i < s.cell.collectionView.numberOfItems then
        (s.cell.request i).map fun cell => { s with cell := cell }
      else none
  | .didSelectItemAt i =>
      if i < s.cell.collectionView.numberOfItems then
        (s.cell.didSelectItemAt i).map fun _ => s
      else none

/-- What is asked of every request and tap: the index is in range, and the tap opens
the animal displayed there. -/
def OpensDisplayed (s : GridScreen) : GridEvent → Prop
  | .cellForItemAt i => i < s.cell.collectionView.numberOfItems →
      ∃ animal, s.cell.cellForItemAt i = some animal
  | .didSelectItemAt i => i < s.cell.collectionView.numberOfItems →
      ∃ animal, s.cell.didSelectItemAt i = some (some animal) ∧
        ∀ shown, s.cell.collectionView.displayed i = some shown → animal = shown
  | _ => True

/-- While a `reloadData` block is queued, a request is for an item that the list
handed to the row last still has, and a tap is on one for which that list has the
animal displayed. -/
def LeavesItem (s : GridScreen) : GridEvent → Prop
  | .cellForItemAt i => i < s.cell.collectionView.numberOfItems → 0 < s.cell.reloads →
      i < s.cell.animals.length
  | .didSelectItemAt i => i < s.cell.collectionView.numberOfItems → 0 < s.cell.reloads →
      i < s.cell.animals.length ∧
        ∀ shown, s.cell.collectionView.displayed i = some shown →
          s.cell.animals[i]? = some shown
  | _ => True

end GridScreen

namespace ListItemTableViewCell

/-- The tap closure reads the list of the row, and with no block queued the
collection view has counted that list and displays its animals. -/
structure Synced (cell : ListItemTableViewCell) : Prop where
  tapCell : cell.tapCell = some cell.animals ∨ (cell.tapCell = none ∧ cell.animals = [] ∧
    cell.collectionView.numberOfItems = 0)
  counted : cell.reloads = 0 → cell.collectionView.numberOfItems = cell.animals.length
  displays : cell.reloads = 0 → ∀ i animal, cell.collectionView.displayed i = some animal →
    cell.animals[i]? = some animal

section Facts

variable {cell cell' : ListItemTableViewCell}

theorem synced_initAnimalsCell (s : ListViewController) (cell : ListItemTableViewCell) :
    Synced (s.initAnimalsCell cell) where
  tapCell := .inl rfl
  counted queued := absurd queued (Nat.succ_ne_zero _)
  displays queued := absurd queued (Nat.succ_ne_zero _)

theorem synced_reloadData (synced : Synced cell) : Synced cell.reloadData where
  tapCell := by
    rcases synced.tapCell with reads | ⟨unset, empty, -⟩
    · exact .inl reads
    · refine .inr ⟨unset, empty, ?_⟩
      simp [reloadData, numberOfItemsInSection, empty]
  counted _ := by simp [reloadData, numberOfItemsInSection]
  displays _ i animal displayed := by simp [reloadData] at displayed

/-- A requested cell is configured from the list of the row. -/
theorem synced_request (synced : Synced cell) {i : Nat} (requested : cell.request i = some cell') :
    Synced cell' := by
  obtain ⟨animal, found, rfl⟩ := Option.map_eq_some_iff.mp requested
  refine ⟨?_, fun idle => ?_, fun idle j shown displayed => ?_⟩
  · simpa using synced.tapCell
  · simpa using synced.counted idle
  · rcases UICollectionView.displayed_display displayed with ⟨rfl, rfl⟩ | before
    · exact found
    · exact synced.displays idle j shown before

/-- What a tap opens: the animal the list of the row has at the index. -/
theorem didSelectItemAt_eq (synced : Synced cell) {i : Nat}
    (counted : i < cell.collectionView.numberOfItems) :
    cell.didSelectItemAt i = cell.animals[i]?.map some := by
  rcases synced.tapCell with reads | ⟨-, -, none⟩
  · simp [didSelectItemAt, reads]
  · omega

end Facts

end ListItemTableViewCell

namespace GridScreen

open ListItemTableViewCell

variable {foundation : Foundation} {s t : GridScreen}

/-- What one event can do to the row: the controller's own events and a tap leave it,
a table reload hands it a list, a queued block reloads its grid, and a request
configures a cell. -/
theorem step_cell {event : GridEvent} (stepped : step foundation s event = some t) :
    t.cell = s.cell ∨ t.cell = s.controller.initAnimalsCell s.cell ∨
      t.cell = s.cell.reloadData ∨ ∃ i, s.cell.request i = some t.cell := by
  cases event with
  | initAnimalsCell =>
      cases stepped
      exact .inr (.inl rfl)
  | reloadData =>
      simp only [step, Option.ite_none_right_eq_some, Option.some.injEq] at stepped
      obtain ⟨-, rfl⟩ := stepped
      exact .inr (.inr (.inl rfl))
  | cellForItemAt i =>
      simp only [step, Option.ite_none_right_eq_some, Option.map_eq_some_iff] at stepped
      obtain ⟨-, cell, requested, rfl⟩ := stepped
      exact .inr (.inr (.inr ⟨i, requested⟩))
  | didSelectItemAt i =>
      simp only [step, Option.ite_none_right_eq_some, Option.map_eq_some_iff] at stepped
      obtain ⟨-, -, -, rfl⟩ := stepped
      exact .inl rfl
  | _ =>
      cases stepped
      exact .inl rfl

theorem synced_step (synced : Synced s.cell) {event : GridEvent}
    (stepped : step foundation s event = some t) : Synced t.cell := by
  rcases step_cell stepped with same | handed | reloaded | ⟨i, requested⟩
  · rwa [same]
  · rw [handed]
    exact synced_initAnimalsCell s.controller s.cell
  · rw [reloaded]
    exact synced_reloadData synced
  · exact synced_request synced requested

/-- An item that is counted and, with a block queued, left in the list is in range. -/
theorem inRange (synced : Synced s.cell) {i : Nat}
    (counted : i < s.cell.collectionView.numberOfItems)
    (left : 0 < s.cell.reloads → i < s.cell.animals.length) : i < s.cell.animals.length := by
  rcases Nat.eq_zero_or_pos s.cell.reloads with idle | queued
  · rwa [← synced.counted idle]
  · exact left queued

/-- A request or a tap does what is asked exactly when it leaves its item. -/
theorem opensDisplayed_iff (synced : Synced s.cell) (event : GridEvent) :
    OpensDisplayed s event ↔ LeavesItem s event := by
  cases event with
  | cellForItemAt i =>
      apply forall_congr'
      intro counted
      constructor
      · rintro ⟨animal, found⟩ -
        exact (List.getElem?_eq_some_iff.mp found).1
      · intro left
        exact ⟨_, List.getElem?_eq_getElem (inRange synced counted left)⟩
  | didSelectItemAt i =>
      apply forall_congr'
      intro counted
      rw [didSelectItemAt_eq synced counted]
      constructor
      · rintro ⟨animal, opened, same⟩ -
        obtain ⟨_, found, ⟨⟩⟩ := Option.map_eq_some_iff.mp opened
        refine ⟨(List.getElem?_eq_some_iff.mp found).1, fun shown displayed => ?_⟩
        rw [found, same shown displayed]
      · intro left
        have bound := inRange synced counted fun queued => (left queued).1
        have found := List.getElem?_eq_getElem bound
        refine ⟨_, by rw [found]; rfl, fun shown displayed => ?_⟩
        -- with no block queued the grid displays the list of the row
        have same : s.cell.animals[i]? = some shown := by
          rcases Nat.eq_zero_or_pos s.cell.reloads with idle | queued
          · exact synced.displays idle i shown displayed
          · exact (left queued).2 shown displayed
        exact Option.some.inj (found.symm.trans same)
  | _ => exact Iff.rfl

theorem synced_start : Synced ({} : GridScreen).cell :=
  ⟨.inr ⟨rfl, rfl, rfl⟩, fun _ => rfl, by rintro - i animal ⟨⟩⟩

/-- **When a tap opens what is displayed.** For every order of loads, category taps,
searches, table reloads, queued reloads of the grid, requests and taps: no index is
out of range and every tap opens the animal displayed at its index, if and only if
every item requested or tapped while a reload of the grid is queued is one that the
new list leaves as it is displayed. -/
theorem tap_opens_displayed_iff (foundation : Foundation) (events : List GridEvent) :
    Meets (step foundation) OpensDisplayed {} events ↔
      Meets (step foundation) LeavesItem {} events := by
  apply meets_iff_meets fun s => Synced s.cell
  · intro s event t synced stepped
    exact synced_step synced stepped
  · intro s event synced
    exact opensDisplayed_iff synced event
  · exact synced_start

/-- The husky and the corgi are displayed in their category; then a search keeps the
corgi and the table is reloaded. -/
def searchCorgi (category : Category) : List GridEvent :=
  [.setData [.husky, .corgi], .tapCategories category, .initAnimalsCell, .reloadData,
    .cellForItemAt 0, .cellForItemAt 1, .didStartSearch "cor", .initAnimalsCell]

/-- Before the grid is reloaded a tap on the husky opens the corgi, and a tap on the
corgi is out of range. -/
theorem tap_opens_other_animal :
    ∃ s, run (step .ascii) {} (searchCorgi ⟨"dog", by decide⟩) = some s ∧
      s.cell.collectionView.displayed 0 = some .husky ∧
      s.cell.didSelectItemAt 0 = some (some .corgi) ∧
      s.cell.collectionView.displayed 1 = some .corgi ∧ s.cell.didSelectItemAt 1 = none ∧
      ¬ Meets (step .ascii) OpensDisplayed {}
        (searchCorgi ⟨"dog", by decide⟩ ++ [.didSelectItemAt 0]) ∧
      ¬ Meets (step .ascii) OpensDisplayed {}
        (searchCorgi ⟨"dog", by decide⟩ ++ [.didSelectItemAt 1]) := by
  refine ⟨_, rfl, rfl, rfl, rfl, rfl, fun meets => ?_, fun meets => ?_⟩
  · obtain ⟨animal, opened, same⟩ := meets.after rfl (by decide)
    have other := same .husky rfl
    cases opened
    revert other
    decide
  · obtain ⟨animal, opened, -⟩ := meets.after rfl (by decide)
    cases opened

end GridScreen

end PetApp
