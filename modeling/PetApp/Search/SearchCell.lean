import PetApp.Lib.Runs
import PetApp.Library.ListView
import PetApp.Post.Screen

/-!
The search row: `SearchTableCell.swift` under the three screens that show it.

Every edit of the text schedules one more timer and none is ever cancelled; a
timer that fires searches for the text of the field at that moment. The screens
give the row their search and clear closures, and the row of categories its tap
closure.

`SearchRule` is what the three screens have in common: two tests of the items,
one for a category and one for a search within it, and closures that filter the
loaded list by them.

* `PostScreen.searchRule`, `ListViewController.searchRule` — the closures of the
  handbook and training screens and of the list screen.
* `settles_run` — after every run without a clear tap the screen shows the loaded
  list filtered by the last tap or search, and the last search was for the text
  in the field unless a timer is pending.
-/

namespace PetApp

open Runs

/-- The text field of the row and its pending timers. -/
structure SearchTableCell where
  text : Option String := some ""
  timers : Nat := 0
deriving DecidableEq

inductive SearchEvent where
  | category (type : Category)
  /-- The text is edited: `didStartSearch`. -/
  | edit (text : String)
  /-- A timer fires: `onSearch`. -/
  | fire
  /-- `didTapRemoveText`. -/
  | removeText
deriving DecidableEq

/-- A screen with a row of categories and a search row: its loaded and its shown
list, its closures, and the tests they filter by. -/
structure SearchRule (σ α : Type) where
  animals : σ → List α
  shown : σ → List α
  animalType : σ → String
  tapCategories : String → σ → σ
  didStartSearch : String → σ → σ
  deleteSearchValue : σ → σ
  hasType : String → α → Bool
  searches : String → String → α → Bool
  tapped : ∀ type s,
    animals (tapCategories type s) = animals s ∧ animalType (tapCategories type s) = type ∧
      shown (tapCategories type s) = (animals s).filter (hasType type)
  searched : ∀ text s,
    animals (didStartSearch text s) = animals s ∧
      animalType (didStartSearch text s) = animalType s ∧
      shown (didStartSearch text s) = (animals s).filter (searches (animalType s) text)

/-- The closures of the handbook and training screens. -/
def PostScreen.searchRule (α : Type) [Post α] (foundation : Foundation) :
    SearchRule (PostScreen α) α where
  animals := PostScreen.animals
  shown := PostScreen.shown
  animalType := PostScreen.animalType
  tapCategories := PostScreen.tapCategories foundation
  didStartSearch := PostScreen.didStartSearch foundation
  deleteSearchValue := PostScreen.deleteSearchValue foundation
  hasType := PostScreen.hasType foundation
  searches type text item :=
    (if type.isEmpty then true else PostScreen.hasType foundation type item) &&
      foundation.contains (foundation.lowercased (Post.title item)) (foundation.lowercased text)
  tapped _ _ := ⟨rfl, rfl, rfl⟩
  searched _ _ := ⟨rfl, rfl, rfl⟩

/-- The posts a search keeps: those of the category, if one is selected, whose title
contains the text. -/
theorem PostScreen.searches_searchRule {α : Type} [Post α] (foundation : Foundation)
    (type text : String) (item : α) :
    (PostScreen.searchRule α foundation).searches type text item =
      ((type.isEmpty || PostScreen.hasType foundation type item) &&
        foundation.contains (foundation.lowercased (Post.title item))
          (foundation.lowercased text)) := by
  simp only [PostScreen.searchRule]
  cases type.isEmpty <;> rfl

/-- The closures of the list screen. Its search asks for the category also when
none is selected. -/
def ListViewController.searchRule (foundation : Foundation) :
    SearchRule ListViewController Animal where
  animals := ListViewController.animals
  shown := ListViewController.animalData
  animalType := ListViewController.animalType
  tapCategories := ListViewController.tapCategories foundation
  didStartSearch := ListViewController.didStartSearch foundation
  deleteSearchValue := ListViewController.deleteSearchValue foundation
  hasType := ListViewController.hasType foundation
  searches := ListViewController.searches foundation
  tapped _ _ := ⟨rfl, rfl, rfl⟩
  searched _ _ := ⟨rfl, rfl, rfl⟩

/-- A screen and its search row. -/
structure Searching (σ : Type) where
  screen : σ
  cell : SearchTableCell := {}

/-- What last changed the list. -/
inductive LastChange where
  | load
  | category
  | search
deriving DecidableEq, Repr

def LastChange.after (last : LastChange) : SearchEvent → LastChange
  | .category _ => .category
  | .fire => .search
  | _ => last

/-- What last changed the list in a run from a freshly loaded screen. -/
def lastChange (events : List SearchEvent) : LastChange :=
  events.foldl LastChange.after .load

/-- The category selected after the next event. -/
def selectedAfter (type : Option Category) : SearchEvent → Option Category
  | .category type => some type
  | _ => type

/-- The category selected last. -/
def lastCategory (events : List SearchEvent) : Option Category :=
  events.foldl selectedAfter none

/-- The name of a category, empty when there is none: `animalType`. -/
def categoryName (type : Option Category) : String := type.elim "" Subtype.val

namespace SearchRule

variable {σ α : Type} (rule : SearchRule σ α)

/-- One event; a timer fires only if one is pending. -/
def step (s : Searching σ) : SearchEvent → Option (Searching σ)
  | .category type => some { s with screen := rule.tapCategories type s.screen }
  | .edit text => some { s with cell := ⟨some text, s.cell.timers + 1⟩ }
  | .fire =>
      match s.cell.timers with
      | 0 => none
      | timers + 1 =>
          some ⟨rule.didStartSearch (s.cell.text.getD "") s.screen, { s.cell with timers := timers }⟩
  | .removeText =>
      some ⟨rule.deleteSearchValue s.screen, { s.cell with text := none }⟩

/-- The test the shown list is filtered by. -/
def test (last : LastChange) (type text : String) (item : α) : Bool :=
  match last with
  | .load => true
  | .category => rule.hasType type item
  | .search => rule.searches type text item

/-- The screen shows the loaded list filtered by what last changed it. The last
search was for the text in the field unless a timer is pending. -/
structure Settles (loaded : List α) (last : LastChange) (type : Option Category)
    (s : Searching σ) : Prop where
  animals : rule.animals s.screen = loaded
  animalType : rule.animalType s.screen = categoryName type
  shown : ∃ text, rule.shown s.screen = loaded.filter (rule.test last (categoryName type) text) ∧
    (last = .search → s.cell.timers = 0 → text = s.cell.text.getD "")

section Facts

variable {rule : SearchRule σ α} {loaded : List α} {last : LastChange} {type : Option Category}
  {s t : Searching σ}

theorem settles_step (settles : rule.Settles loaded last type s) {event : SearchEvent}
    (kept : event ≠ .removeText) (stepped : rule.step s event = some t) :
    rule.Settles loaded (last.after event) (selectedAfter type event) t := by
  cases event with
  | category type =>
      cases stepped
      obtain ⟨same, selected, shown⟩ := rule.tapped type s.screen
      refine ⟨same.trans settles.animals, selected, "", ?_, ?_⟩
      · rw [shown, settles.animals]
        rfl
      · rintro ⟨⟩
  | edit text =>
      cases stepped
      obtain ⟨searched, shown, -⟩ := settles.shown
      refine ⟨settles.animals, settles.animalType, searched, shown, ?_⟩
      rintro - ⟨⟩
  | fire =>
      simp only [step] at stepped
      split at stepped
      · cases stepped
      · cases stepped
        obtain ⟨same, selected, shown⟩ := rule.searched (s.cell.text.getD "") s.screen
        refine ⟨same.trans settles.animals, selected.trans settles.animalType,
          s.cell.text.getD "", ?_, fun _ _ => rfl⟩
        rw [shown, settles.animals, settles.animalType]
        rfl
  | removeText => exact absurd rfl kept

/-- After every run without a clear tap the screen shows the loaded list filtered
by what last changed it. -/
theorem settles_run (settles : rule.Settles loaded last type s) {events : List SearchEvent}
    (kept : .removeText ∉ events) (reached : run rule.step s events = some t) :
    rule.Settles loaded (events.foldl LastChange.after last) (events.foldl selectedAfter type)
      t := by
  induction events generalizing s last type with
  | nil =>
      cases reached
      exact settles
  | cons event events ih =>
      obtain ⟨here, later⟩ := List.ne_and_not_mem_of_not_mem_cons kept
      obtain ⟨m, stepped, tail⟩ := run_cons_eq_some.mp reached
      exact ih (settles_step settles here.symm stepped) later tail

end Facts

end SearchRule

end PetApp
