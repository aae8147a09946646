import PetApp.Lib.Runs
import PetApp.Library.ListView

/-!
The tab bar with the home screen and the list screen: `initCategoriesCell` of
`HomeViewController.swift` and `ListViewController.swift`.

A category tap on the home screen sets `animalType` of the list screen and
switches to its tab; it filters nothing. A tap on the list screen filters what
has been loaded. The library arrives once, some time after the list view is
first loaded, and the arrival filters nothing either.

* `step_cases` — what one event can do.
* `sorted_step` — what every step keeps: the loaded list is empty until the
  library arrives and the library from then on, and an unset category goes with
  an unfiltered screen.
* `shown_step_iff` — when a step leaves the animals of the selected category on
  the screen.
* `selected_is_shown_iff` — so the selected category is the one shown in every
  state of a run exactly when every step of the run is of that kind.
-/

namespace PetApp

open Runs

/-- The list screen in its tab, and where its load stands. -/
structure TabBar where
  list : ListViewController := {}
  /-- The view of the list screen has been loaded. -/
  isViewLoaded : Bool := false
  /-- The library has arrived. -/
  arrived : Bool := false
deriving DecidableEq

inductive TabBarEvent where
  | homeTap (category : Category)
  | listTap (category : Category)
  | viewDidLoad
  | setData
deriving DecidableEq

namespace TabBar

section Machine

variable (foundation : Foundation) (library : List Animal)

/-- One event. The list screen can be tapped once its view is loaded; the view is
loaded once, and the library arrives once, after that. -/
def step (s : TabBar) : TabBarEvent → Option TabBar
  | .homeTap category => some { s with list := { s.list with animalType := category } }
  | .listTap category =>
      if s.isViewLoaded then some { s with list := s.list.tapCategories foundation category }
      else none
  | .viewDidLoad => if s.isViewLoaded then none else some { s with isViewLoaded := true }
  | .setData =>
      if s.isViewLoaded ∧ ¬ s.arrived then
        some { s with list := s.list.setData library, arrived := true }
      else none

/-- What is asked of every state: once the library has arrived and a category is
selected, the screen shows the animals of that category, in order. -/
def ShowsSelected (s : TabBar) : Prop :=
  s.arrived → s.list.animalType ≠ "" →
    s.list.animalData = library.filter (ListViewController.hasType foundation s.list.animalType)

/-- The animal is of the selected category; every animal is when none is. -/
def isSelected (s : TabBar) (animal : Animal) : Bool :=
  s.list.animalType = "" || ListViewController.hasType foundation s.list.animalType animal

/-- The steps that leave the selected category on the screen. A tap on the home
screen after the arrival chooses a category with the animals that were selected
before. The library arrives with no category selected, or with no animal of it
when the list screen has been tapped, or with no animal outside it when only the
home screen has. -/
def Agrees (s : TabBar) : TabBarEvent → Prop
  | .homeTap category => s.arrived →
      ∀ animal ∈ library,
        ListViewController.hasType foundation category animal = isSelected foundation s animal
  | .setData => s.isViewLoaded → ¬ s.arrived → s.list.animalType ≠ "" →
      ∀ animal ∈ library, ListViewController.hasType foundation s.list.animalType animal =
        !s.list.isSelectype
  | _ => True

/-- What every step keeps. -/
structure Sorted (s : TabBar) : Prop where
  animals : s.list.animals = if s.arrived then library else []
  filtered : ¬ s.arrived → s.list.filterAnimals = []
  unfiltered : s.list.animalType = "" → s.list.isSelectype = false

end Machine

section Facts

variable {foundation : Foundation} {library : List Animal} {s t : TabBar}

/-- What one event can do: a home tap sets the category, a list tap filters as
well, the view is loaded once, and the library arrives once after that. -/
theorem step_cases {event : TabBarEvent} (stepped : step foundation library s event = some t) :
    (∃ category, event = .homeTap category ∧
      t = { s with list := { s.list with animalType := category } }) ∨
    (∃ category, event = .listTap category ∧
      t = { s with list := s.list.tapCategories foundation category }) ∨
    (event = .viewDidLoad ∧ t = { s with isViewLoaded := true }) ∨
    (event = .setData ∧ s.isViewLoaded = true ∧ ¬ s.arrived = true ∧
      t = { s with list := s.list.setData library, arrived := true }) := by
  cases event with
  | homeTap category =>
      cases stepped
      exact .inl ⟨category, rfl, rfl⟩
  | listTap category =>
      simp only [step, Option.ite_none_right_eq_some, Option.some.injEq] at stepped
      exact .inr (.inl ⟨category, rfl, stepped.2.symm⟩)
  | viewDidLoad =>
      simp only [step, Option.ite_none_left_eq_some, Option.some.injEq] at stepped
      exact .inr (.inr (.inl ⟨rfl, stepped.2.symm⟩))
  | setData =>
      simp only [step, Option.ite_none_right_eq_some, Option.some.injEq] at stepped
      exact .inr (.inr (.inr ⟨rfl, stepped.1.1, stepped.1.2, stepped.2.symm⟩))

theorem sorted_step (sorted : Sorted library s) {event : TabBarEvent}
    (stepped : step foundation library s event = some t) : Sorted library t := by
  rcases step_cases stepped with ⟨category, -, rfl⟩ | ⟨category, -, rfl⟩ | ⟨-, rfl⟩ |
    ⟨-, -, -, rfl⟩
  · exact ⟨sorted.animals, sorted.filtered, fun empty => absurd empty category.2⟩
  · refine ⟨sorted.animals, fun waiting => ?_, fun empty => absurd empty category.2⟩
    have none : s.list.animals = [] := by
      rw [sorted.animals]
      exact if_neg waiting
    simp [ListViewController.tapCategories, ListViewController.filter, none]
  · exact ⟨sorted.animals, sorted.filtered, sorted.unfiltered⟩
  · exact ⟨rfl, fun waiting => absurd rfl waiting, sorted.unfiltered⟩

/-- Before a home tap the screen shows the animals that are selected. -/
theorem animalData_eq (sorted : Sorted library s) (shows : ShowsSelected foundation library s)
    (arrived : s.arrived) :
    s.list.animalData = library.filter (isSelected foundation s) := by
  by_cases empty : s.list.animalType = ""
  · have animals : s.list.animals = library := by simp [sorted.animals, arrived]
    have all : library.filter (isSelected foundation s) = library :=
      List.filter_eq_self.mpr fun animal _ => by simp [isSelected, empty]
    simp [ListViewController.animalData, sorted.unfiltered empty, animals, all]
  · rw [shows arrived empty]
    exact List.filter_congr fun animal _ => by simp [isSelected, empty]

/-- A step leaves the selected category on the screen exactly if it agrees. -/
theorem shown_step_iff (sorted : Sorted library s) (shows : ShowsSelected foundation library s)
    {event : TabBarEvent} (stepped : step foundation library s event = some t) :
    ShowsSelected foundation library t ↔ Agrees foundation library s event := by
  rcases step_cases stepped with ⟨category, rfl, rfl⟩ | ⟨category, rfl, rfl⟩ | ⟨rfl, rfl⟩ |
    ⟨rfl, loaded, waiting, rfl⟩
  · unfold ShowsSelected Agrees
    apply forall_congr'
    intro arrived
    have before := animalData_eq sorted shows arrived
    have after : ({ s.list with animalType := category } : ListViewController).animalData =
        s.list.animalData := rfl
    simp only [after, before, ne_eq, category.2, not_false_eq_true, forall_const]
    rw [eq_comm, Lists.filter_eq_filter_iff]
  · refine iff_of_true (fun arrived _ => ?_) trivial
    have animals : s.list.animals = library := by
      rw [sorted.animals]
      exact if_pos arrived
    simp [ListViewController.animalData, ListViewController.tapCategories,
      ListViewController.filter, animals]
  · exact iff_of_true shows trivial
  · -- what is shown is empty after a list tap and the whole library otherwise
    have none := sorted.filtered waiting
    simp only [ShowsSelected, Agrees, loaded, waiting, ListViewController.setData,
      ListViewController.animalData, none, forall_const, Bool.false_eq_true, not_false_eq_true]
    apply forall_congr'
    intro _
    rw [eq_comm]
    cases s.list.isSelectype with
    | true => simp
    | false => simp

theorem agrees_of_refused {event : TabBarEvent} (refused : step foundation library s event = none) :
    Agrees foundation library s event := by
  cases event with
  | homeTap category => cases refused
  | setData =>
      simp only [step] at refused
      split at refused
      · cases refused
      · rename_i blocked
        intro loaded waiting
        exact absurd ⟨loaded, waiting⟩ blocked
  | _ => trivial

end Facts

/-- **When the selected category is the one shown.** For every pet library and
every order of category taps on both screens, the first load of the list view
and the arrival of the library: in every state after the arrival with a category
selected the screen shows exactly the animals of that category, if and only if
every tap on the home screen and the arrival agree with what was selected. -/
theorem selected_is_shown_iff (foundation : Foundation) (image : String → UIImage)
    (documents : List Document) (events : List TabBarEvent) :
    Always (step foundation (ListViewController.arrAnimal image documents))
        (ShowsSelected foundation (ListViewController.arrAnimal image documents)) {} events ↔
      Meets (step foundation (ListViewController.arrAnimal image documents))
        (Agrees foundation (ListViewController.arrAnimal image documents)) {} events := by
  apply always_iff_meets (Sorted (ListViewController.arrAnimal image documents))
  · intro s event t sorted _ stepped
    exact sorted_step sorted stepped
  · intro s event t sorted shows stepped
    exact shown_step_iff sorted shows stepped
  · intro s event refused
    exact agrees_of_refused refused
  · exact ⟨rfl, fun _ => rfl, fun _ => rfl⟩
  · rintro ⟨⟩

/-- A library with a cat and a dog. -/
def catAndDog : List Document :=
  [.ofFields "a" [("animal", .string "cat"), ("species", .string "Siamese")],
    .ofFields "b" [("animal", .string "dog"), ("species", .string "Husky")]]

/-- A tap on the cats of the home screen after the library has arrived leaves the
dog on the list screen. -/
theorem home_tap_shows_dog :
    ∃ t, run (step .ascii (ListViewController.arrAnimal (fun _ => .empty) catAndDog)) {}
        [.viewDidLoad, .setData, .homeTap ⟨"cat", by decide⟩] = some t ∧
      t.list.animalType = "cat" ∧
      t.list.animalData.map Animal.animal = ["cat", "dog"] ∧
      ¬ Always (step .ascii (ListViewController.arrAnimal (fun _ => .empty) catAndDog))
        (ShowsSelected .ascii (ListViewController.arrAnimal (fun _ => .empty) catAndDog)) {}
        [.viewDidLoad, .setData, .homeTap ⟨"cat", by decide⟩] := by
  refine ⟨_, rfl, rfl, by decide, fun always => ?_⟩
  have shows := always.last rfl rfl (by decide)
  revert shows
  decide

end TabBar

end PetApp
