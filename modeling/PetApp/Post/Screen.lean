import PetApp.Lib.Lists
import PetApp.Lib.Runs
import PetApp.Platform.Foundation

/-!
The two screens of posts: `HandBookViewController.swift` and
`TrainingViewController.swift`.

Both show a row of categories, a search row and one row per post, keep the
loaded list and a filtered one, and choose between them by `isFilter`. The row
count and the cells make that choice; the selection of a row always reads the
loaded list. `PostScreen` is the common screen over a type of posts.

* `PostFilter` — what the user has asked for: a category and a test of the posts.
* `shows_run` — after every run the screen shows what was asked for: the loaded
  list, or the posts of it that pass the test, in the same order.
* `opensShown_of_shows_iff` — a row opens the post it shows exactly when every
  post loaded up to that row passes the test.
* `row_opened_is_shown_iff` — the same for the two controllers.
-/

namespace PetApp

open Runs

/-- What the screens read of a post: `animal` and `title`. -/
class Post (α : Type) where
  animal : α → Option String
  title : α → String

/-- An object of class `HandBook`: which object it is, and its fields. -/
structure HandBook where
  object : Nat
  animal : Option String
  description : Option String
  title : String := ""
  image : Option String
deriving DecidableEq

/-- An object of class `Training`. -/
structure Training where
  object : Nat
  animal : Option String
  description : Option String
  title : String := ""
  image : Option UIImage
deriving DecidableEq

instance : Post HandBook := ⟨HandBook.animal, HandBook.title⟩

instance : Post Training := ⟨Training.animal, Training.title⟩

/-- A row of the table. -/
inductive PostRow (α : Type) where
  | categories
  | search
  | post (item : α)
deriving DecidableEq

/-- The fields of the controllers. The loader creates an object for each post, so
no object is loaded twice. -/
structure PostScreen (α : Type) where
  animals : List α
  filtered : List α
  isFilter : Bool
  animalType : String
  distinct : animals.Nodup

/-- `HandBookViewController`: `animals` is `handBookAnimals` and `filtered` is
`filterHandBook`. -/
abbrev HandBookViewController := PostScreen HandBook

/-- `TrainingViewController`: `animals` is `trainingAnimals` and `filtered` is
`filterTraining`. -/
abbrev TrainingViewController := PostScreen Training

inductive PostEvent where
  | category (type : String)
  | search (searchText : String)
  | deleteSearch
deriving DecidableEq

namespace PostScreen

section Controller

variable {α : Type} [Post α] (foundation : Foundation)

/-- The screen when its posts have been loaded. -/
def loaded (animals : List α) (distinct : animals.Nodup) : PostScreen α where
  animals := animals
  filtered := []
  isFilter := false
  animalType := ""
  distinct := distinct

/-- `item.animal?.lowercased() == type.lowercased()`. -/
def hasType (type : String) (item : α) : Bool :=
  (Post.animal item).map foundation.lowercased == some (foundation.lowercased type)

/-- `filter`. -/
def filter (type : String) (s : PostScreen α) : PostScreen α :=
  { s with filtered := s.animals.filter (hasType foundation type) }

/-- `tapCategoriesCellClousure`. -/
def tapCategories (type : String) (s : PostScreen α) : PostScreen α :=
  { s with animalType := type, isFilter := true }.filter foundation type

/-- `deleteSearchValueClousure`. -/
def deleteSearchValue (s : PostScreen α) : PostScreen α :=
  { s with isFilter := if s.animalType.isEmpty then false else true }.filter foundation s.animalType

/-- `didStartSearchClousure`. -/
def didStartSearch (searchText : String) (s : PostScreen α) : PostScreen α :=
  { s with
    isFilter := true
    filtered := s.animals.filter fun item =>
      let isSelected := if s.animalType.isEmpty then true else hasType foundation s.animalType item
      isSelected && foundation.contains (foundation.lowercased (Post.title item))
        (foundation.lowercased searchText) }

/-- One event; every event is accepted. -/
def step (s : PostScreen α) : PostEvent → Option (PostScreen α)
  | .category type => some (s.tapCategories foundation type)
  | .search searchText => some (s.didStartSearch foundation searchText)
  | .deleteSearch => some (s.deleteSearchValue foundation)

end Controller

section Table

variable {α : Type} (s : PostScreen α)

/-- The posts on the screen: `isFilter` chooses between the two lists. -/
def shown : List α := if s.isFilter then s.filtered else s.animals

/-- `tableView(_:numberOfRowsInSection:)`. -/
def numberOfRowsInSection : Nat :=
  if s.isFilter then s.filtered.length + 2 else s.animals.length + 2

/-- `initPostCell`; `none` is an index out of range. -/
def initPostCell (row : Nat) : Option (PostRow α) :=
  let posts := if s.isFilter then s.filtered else s.animals
  posts[row - 2]?.map PostRow.post

/-- `tableView(_:cellForRowAt:)`. -/
def cellForRowAt (row : Nat) : Option (PostRow α) :=
  if row = 0 then some .categories
  else if row = 1 then some .search
  else s.initPostCell row

/-- `tableView(_:didSelectRowAt:)`: the post passed to the detail screen, if one is
pushed; `none` is an index out of range. -/
def didSelectRowAt (row : Nat) : Option (Option α) :=
  if row > 1 then s.animals[row - 2]?.map some else some none

theorem numberOfRowsInSection_eq : s.numberOfRowsInSection = s.shown.length + 2 := by
  unfold numberOfRowsInSection shown
  split <;> rfl

/-- The rows after the first two show the posts on the screen. -/
theorem cellForRowAt_add_two (row : Nat) :
    s.cellForRowAt (row + 2) = s.shown[row]?.map PostRow.post := rfl

theorem didSelectRowAt_add_two (row : Nat) :
    s.didSelectRowAt (row + 2) = s.animals[row]?.map some := by
  simp [didSelectRowAt]

/-- The row shows a post and its selection opens that post. -/
def OpensShown (row : Nat) : Prop :=
  ∃ item, s.cellForRowAt row = some (.post item) ∧ s.didSelectRowAt row = some (some item)

end Table

end PostScreen

/-! ### What the user asks for -/

/-- A filter: the chosen category and the posts to keep, `none` for all of them. -/
structure PostFilter (α : Type) where
  animalType : String
  keeps : Option (α → Bool)

namespace PostFilter

variable {α : Type} [Post α] (foundation : Foundation)

/-- The filter asked for by the next event. A category replaces the filter, a
search is made within the category, clearing the search goes back to it. -/
def after (asked : PostFilter α) : PostEvent → PostFilter α
  | .category type => ⟨type, some (PostScreen.hasType foundation type)⟩
  | .search searchText =>
      ⟨asked.animalType, some fun item =>
        (asked.animalType.isEmpty || PostScreen.hasType foundation asked.animalType item) &&
          foundation.contains (foundation.lowercased (Post.title item))
            (foundation.lowercased searchText)⟩
  | .deleteSearch =>
      ⟨asked.animalType, if asked.animalType.isEmpty then none
        else some (PostScreen.hasType foundation asked.animalType)⟩

/-- The filter asked for by a list of events. -/
def asked (events : List PostEvent) : PostFilter α :=
  events.foldl (after foundation) ⟨"", none⟩

/-- Every post loaded up to the row is kept. -/
def KeepsUpTo (filter : PostFilter α) (animals : List α) (row : Nat) : Prop :=
  ∀ keeps ∈ filter.keeps, ∀ item ∈ animals.take (row - 1), keeps item = true

end PostFilter

namespace PostScreen

/-- The screen shows what was asked for. -/
structure Shows {α : Type} (filter : PostFilter α) (s : PostScreen α) : Prop where
  animalType : s.animalType = filter.animalType
  isFilter : s.isFilter = filter.keeps.isSome
  filtered : ∀ keeps ∈ filter.keeps, s.filtered = s.animals.filter keeps

section Facts

variable {α : Type} [Post α] {foundation : Foundation} {filter : PostFilter α} {s t : PostScreen α}

/-- One event leads from the filter asked for to the next one. -/
theorem shows_step (shows : Shows filter s) {event : PostEvent}
    (stepped : step foundation s event = some t) :
    Shows (filter.after foundation event) t ∧ t.animals = s.animals := by
  cases event with
  | category type =>
      cases stepped
      refine ⟨⟨rfl, rfl, ?_⟩, rfl⟩
      rintro keeps ⟨⟩
      rfl
  | search searchText =>
      cases stepped
      refine ⟨⟨shows.animalType, rfl, ?_⟩, rfl⟩
      rintro keeps ⟨⟩
      simp only [didStartSearch, shows.animalType]
      apply List.filter_congr
      intro item _
      cases filter.animalType.isEmpty <;> rfl
  | deleteSearch =>
      cases stepped
      have type := shows.animalType
      by_cases empty : filter.animalType.isEmpty = true
      · refine ⟨⟨type, ?_, ?_⟩, rfl⟩
        · simp [deleteSearchValue, PostScreen.filter, PostFilter.after, type, empty]
        · simp [PostFilter.after, empty]
      · refine ⟨⟨type, ?_, ?_⟩, rfl⟩
        · simp [deleteSearchValue, PostScreen.filter, PostFilter.after, type, empty]
        · simp [deleteSearchValue, PostScreen.filter, PostFilter.after, type, empty]

/-- After every run the screen shows what was asked for. -/
theorem shows_run (shows : Shows filter s) {events : List PostEvent}
    (reached : run (step foundation) s events = some t) :
    Shows (events.foldl (PostFilter.after foundation) filter) t ∧ t.animals = s.animals := by
  induction events generalizing s filter with
  | nil =>
      cases reached
      exact ⟨shows, rfl⟩
  | cons event events ih =>
      obtain ⟨m, stepped, tail⟩ := run_cons_eq_some.mp reached
      obtain ⟨next, animals⟩ := shows_step shows stepped
      obtain ⟨last, animals'⟩ := ih next tail
      exact ⟨last, animals'.trans animals⟩

omit [Post α] in
theorem shows_loaded (animals : List α) (distinct : animals.Nodup) :
    Shows ⟨"", none⟩ (loaded animals distinct) where
  animalType := rfl
  isFilter := rfl
  filtered := by rintro keeps ⟨⟩

omit [Post α] in
theorem opensShown_iff {row : Nat} (post : 2 ≤ row) :
    s.OpensShown row ↔ ∃ item, (if s.isFilter then s.filtered else s.animals)[row - 2]? = some item ∧
      s.animals[row - 2]? = some item := by
  have notCategories : row ≠ 0 := by omega
  have notSearch : row ≠ 1 := by omega
  have selects : row > 1 := by omega
  simp [OpensShown, cellForRowAt, initPostCell, didSelectRowAt, notCategories, notSearch, selects]

omit [Post α] in
/-- A displayed row opens the post it shows exactly when every post loaded up to
the row is kept. -/
theorem opensShown_of_shows_iff (shows : Shows filter s) {row : Nat} (post : 2 ≤ row)
    (displayed : row < s.numberOfRowsInSection) :
    s.OpensShown row ↔ filter.KeepsUpTo s.animals row := by
  have active := shows.isFilter
  rw [opensShown_iff post, PostFilter.KeepsUpTo]
  cases asked : filter.keeps with
  | none =>
      rw [asked, Option.isSome_none] at active
      have inRange : row - 2 < s.animals.length := by
        simp only [numberOfRowsInSection, active, Bool.false_eq_true, if_false] at displayed
        omega
      simp [active, List.getElem?_eq_getElem inRange]
  | some keeps =>
      rw [asked, Option.isSome_some] at active
      have filtered := shows.filtered keeps asked
      have inRange : row - 2 < (s.animals.filter keeps).length := by
        simp only [numberOfRowsInSection, active, if_true, filtered] at displayed
        omega
      have upTo : row - 2 + 1 = row - 1 := by omega
      have same := Lists.getElem?_filter_eq_iff keeps s.distinct inRange
      rw [upTo] at same
      simp only [active, filtered, if_true, Option.mem_def, Option.some.injEq, forall_eq']
      rw [← same, List.getElem?_eq_getElem inRange]
      constructor
      · rintro ⟨item, shown, opened⟩
        exact shown.trans opened.symm
      · intro agree
        exact ⟨_, rfl, agree.symm⟩

/-- After a run on a loaded list, a displayed row opens the post it shows exactly
when the filter asked for keeps every post loaded up to it. -/
theorem opensShown_run_iff {animals : List α} {distinct : animals.Nodup} {events : List PostEvent}
    (reached : run (step foundation) (loaded animals distinct) events = some t) {row : Nat}
    (post : 2 ≤ row) (displayed : row < t.numberOfRowsInSection) :
    t.OpensShown row ↔ (PostFilter.asked foundation events).KeepsUpTo animals row := by
  obtain ⟨shows, same⟩ := shows_run (shows_loaded animals distinct) reached
  rw [opensShown_of_shows_iff shows post displayed, same]
  rfl

end Facts

/-- **When the row shown is the row opened.** In both controllers, for every
loaded list and every sequence of category taps, searches and clear taps, a
displayed row opens the post it shows exactly when the filter asked for keeps
every post loaded up to that row. -/
theorem row_opened_is_shown_iff (foundation : Foundation) (events : List PostEvent) (row : Nat)
    (post : 2 ≤ row) :
    (∀ (animals : List HandBook) (distinct : animals.Nodup) (t : HandBookViewController),
        run (step foundation) (loaded animals distinct) events = some t →
        row < t.numberOfRowsInSection →
        (t.OpensShown row ↔ (PostFilter.asked foundation events).KeepsUpTo animals row)) ∧
      ∀ (animals : List Training) (distinct : animals.Nodup) (t : TrainingViewController),
        run (step foundation) (loaded animals distinct) events = some t →
        row < t.numberOfRowsInSection →
        (t.OpensShown row ↔ (PostFilter.asked foundation events).KeepsUpTo animals row) := by
  constructor
  · intro animals distinct t reached displayed
    exact opensShown_run_iff reached post displayed
  · intro animals distinct t reached displayed
    exact opensShown_run_iff reached post displayed

/-- Three posts, the first about a cat. -/
def catDogDog : List HandBook :=
  [⟨0, some "cat", none, "Cats", none⟩, ⟨1, some "dog", none, "Dogs", none⟩,
    ⟨2, some "Dog", none, "More dogs", none⟩]

/-- After the category of cats is chosen the only row of a post opens its post. -/
theorem row_opened_is_shown_cats :
    ∃ t, run (step .ascii) (loaded catDogDog (by decide)) [.category "cat"] = some t ∧
      2 < t.numberOfRowsInSection ∧ t.OpensShown 2 :=
  ⟨_, rfl, by decide, ((row_opened_is_shown_iff .ascii [.category "cat"] 2 le_rfl).1 catDogDog
    (by decide) _ rfl (by decide)).mpr (by rintro keeps ⟨⟩; decide)⟩

/-- After the category of dogs is chosen the first row of a post shows a dog and
opens the cat. -/
theorem dog_row_opens_cat :
    ∃ t, run (step .ascii) (loaded catDogDog (by decide)) [.category "dog"] = some t ∧
      2 < t.numberOfRowsInSection ∧
      (t.cellForRowAt 2, t.didSelectRowAt 2) =
        (some (.post ⟨1, some "dog", none, "Dogs", none⟩),
          some (some ⟨0, some "cat", none, "Cats", none⟩)) ∧
      ¬ t.OpensShown 2 := by
  refine ⟨_, rfl, by decide, by decide, ?_⟩
  rintro ⟨item, shown, opened⟩
  cases opened
  revert shown
  decide

end PostScreen

end PetApp
