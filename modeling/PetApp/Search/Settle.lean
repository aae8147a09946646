import PetApp.Search.SearchCell

/-!
The search row of the two screens of posts once its timers have run out.

A timer that fires searches for the text of the field at that moment, whatever the
text was when the timer was scheduled. A clear tap empties the field and shows the
category again, but leaves the timers: one that fires later, and one that fires
after the text has been erased by an edit, searches for the empty text. Foundation
documents that no text contains the empty one, so that search shows nothing.

* `filter_searches` — a search shows the wanted posts, or nothing when the text is
  empty.
* `shown_deleteSearchValue` — a clear tap shows the posts of the category.
* `showsText_step_iff` — a step breaks the list exactly when the last pending timer
  fires on an empty field and the category has posts.
* `search_settles_iff` — so over whole runs the list shown is that of the current
  text exactly when this does not happen.
-/

namespace PetApp

open Runs

/-- What Foundation documents about the empty text: it is in lower case, and no
text contains it. -/
structure Foundation.EmptyNowhere (foundation : Foundation) : Prop where
  lowercased : foundation.lowercased "" = ""
  contains : ∀ text, foundation.contains text "" = false

theorem Foundation.emptyNowhere_ascii : Foundation.ascii.EmptyNowhere where
  lowercased := rfl
  contains _ := rfl

/-- What happens to the search row while a category stays selected. -/
inductive TextEvent where
  | edit (text : String)
  | fire
  | removeText
deriving DecidableEq

/-- The event of the search row. -/
def TextEvent.event : TextEvent → SearchEvent
  | .edit text => .edit text
  | .fire => .fire
  | .removeText => .removeText

namespace PostScreen

variable {α : Type} [Post α] (foundation : Foundation) (animals : List α) (type : Option Category)

/-- The post is of the category; every post is when none is selected. -/
def inCategory (item : α) : Bool :=
  (categoryName type).isEmpty || hasType foundation (categoryName type) item

/-- The post is of the category and its title contains the text, unless that is
empty. -/
def isWanted (text : String) (item : α) : Bool :=
  inCategory foundation type item &&
    (text.isEmpty ||
      foundation.contains (foundation.lowercased (Post.title item)) (foundation.lowercased text))

/-- The screen with its posts loaded and the category selected. -/
def selected (distinct : animals.Nodup) : PostScreen α :=
  type.elim (loaded animals distinct) fun type =>
    (loaded animals distinct).tapCategories foundation type

/-- One event of the search row. -/
def textStep (s : Searching (PostScreen α)) (event : TextEvent) :
    Option (Searching (PostScreen α)) :=
  (searchRule α foundation).step s event.event

/-- What is asked of a state: when no timer is pending, the list shown is that of
the category and the text of the field. -/
def ShowsText (s : Searching (PostScreen α)) : Prop :=
  s.cell.timers = 0 →
    s.screen.shown = animals.filter (isWanted foundation type (s.cell.text.getD ""))

/-- The last pending timer fires on an empty field only when the category has no
posts. -/
def SearchesText (s : Searching (PostScreen α)) : TextEvent → Prop
  | .fire => s.cell.timers = 1 → s.cell.text.getD "" = "" →
      ∀ item ∈ animals, inCategory foundation type item = false
  | _ => True

/-- The posts and the category of the screen stay as they were. -/
structure KeepsPosts (s : Searching (PostScreen α)) : Prop where
  animals : s.screen.animals = animals
  animalType : s.screen.animalType = categoryName type

section Facts

variable {foundation : Foundation} {animals : List α} {type : Option Category}
  {s t : Searching (PostScreen α)}

/-- With an empty text the wanted posts are those of the category. -/
theorem isWanted_empty : isWanted (α := α) foundation type "" = inCategory foundation type := by
  funext item
  simp [isWanted]

/-- The posts a search keeps. -/
theorem searches_eq (text : String) (item : α) :
    (searchRule α foundation).searches (categoryName type) text item =
      (inCategory foundation type item &&
        foundation.contains (foundation.lowercased (Post.title item))
          (foundation.lowercased text)) :=
  searches_searchRule foundation (categoryName type) text item

/-- A search shows the wanted posts exactly when there is a text or the category has
no posts. -/
theorem filter_searches (empty : foundation.EmptyNowhere) (text : String) :
    animals.filter ((searchRule α foundation).searches (categoryName type) text) =
        animals.filter (isWanted foundation type text) ↔
      (text = "" → ∀ item ∈ animals, inCategory foundation type item = false) := by
  by_cases blank : text = ""
  · subst blank
    have nothing : animals.filter ((searchRule α foundation).searches (categoryName type) "") = [] := by
      apply List.filter_eq_nil_iff.mpr
      intro item _
      simp [searches_eq, empty.lowercased, empty.contains]
    rw [nothing, isWanted_empty, eq_comm, List.filter_eq_nil_iff]
    simp
  · refine iff_of_true (List.filter_congr fun item _ => ?_) fun none => absurd none blank
    have filled : text.isEmpty = false := by simpa using blank
    rw [searches_eq, isWanted, filled, Bool.false_or]

/-- A clear tap shows the posts of the category. -/
theorem shown_deleteSearchValue {screen : PostScreen α} (posts : screen.animals = animals)
    (category : screen.animalType = categoryName type) :
    (screen.deleteSearchValue foundation).shown = animals.filter (inCategory foundation type) := by
  by_cases none : (categoryName type).isEmpty = true
  · have all : animals.filter (inCategory foundation type) = animals := by
      apply List.filter_eq_self.mpr
      intro item _
      simp [inCategory, none]
    simp [deleteSearchValue, PostScreen.filter, shown, posts, category, none, all]
  · have some : animals.filter (inCategory foundation type) =
        animals.filter (hasType foundation (categoryName type)) := by
      apply List.filter_congr
      intro item _
      simp [inCategory, none]
    simp [deleteSearchValue, PostScreen.filter, shown, posts, category, none, some]

theorem keepsPosts_step (keeps : KeepsPosts animals type s) {event : TextEvent}
    (stepped : textStep foundation s event = some t) : KeepsPosts animals type t := by
  cases event with
  | edit text =>
      cases stepped
      exact ⟨keeps.animals, keeps.animalType⟩
  | fire =>
      simp only [textStep, TextEvent.event, SearchRule.step] at stepped
      split at stepped
      · cases stepped
      · cases stepped
        exact ⟨keeps.animals, keeps.animalType⟩
  | removeText =>
      cases stepped
      exact ⟨keeps.animals, keeps.animalType⟩

/-- A step breaks the list exactly when the last pending timer fires on an empty
field and the category has posts. -/
theorem showsText_step_iff (empty : foundation.EmptyNowhere) (keeps : KeepsPosts animals type s)
    {event : TextEvent} (stepped : textStep foundation s event = some t) :
    ShowsText foundation animals type t ↔ SearchesText foundation animals type s event := by
  cases event with
  | edit text =>
      cases stepped
      refine iff_of_true ?_ trivial
      rintro ⟨⟩
  | fire =>
      simp only [textStep, TextEvent.event, SearchRule.step] at stepped
      split at stepped
      · cases stepped
      · rename_i timers pending
        cases stepped
        obtain ⟨-, -, shown⟩ :=
          (searchRule α foundation).searched (s.cell.text.getD "") s.screen
        replace shown : (didStartSearch foundation (s.cell.text.getD "") s.screen).shown =
            animals.filter
              ((searchRule α foundation).searches (categoryName type) (s.cell.text.getD "")) := by
          rw [← keeps.animals, ← keeps.animalType]
          exact shown
        have last : s.cell.timers = 1 ↔ timers = 0 := by omega
        simp only [ShowsText, SearchesText, last]
        apply forall_congr'
        intro _
        rw [← filter_searches empty, ← shown]
        rfl
  | removeText =>
      cases stepped
      refine iff_of_true ?_ trivial
      intro _
      have wanted : isWanted foundation type "" = inCategory (α := α) foundation type :=
        isWanted_empty
      show ((s.screen.deleteSearchValue foundation).shown : List α) = _
      rw [shown_deleteSearchValue keeps.animals keeps.animalType]
      exact congrArg animals.filter wanted.symm

theorem keepsPosts_selected (distinct : animals.Nodup) :
    KeepsPosts animals type ⟨selected foundation animals type distinct, {}⟩ := by
  cases type with
  | none => exact ⟨rfl, rfl⟩
  | some type => exact ⟨rfl, rfl⟩

/-- A screen with its category selected shows that category. -/
theorem showsText_selected (distinct : animals.Nodup) :
    ShowsText foundation animals type ⟨selected foundation animals type distinct, {}⟩ := by
  intro _
  show (selected foundation animals type distinct).shown =
    animals.filter (isWanted foundation type "")
  rw [isWanted_empty]
  cases type with
  | none => exact (List.filter_eq_self.mpr fun _ _ => rfl).symm
  | some type =>
      obtain ⟨type, named⟩ := type
      apply List.filter_congr
      intro item _
      simp [inCategory, categoryName, named]

/-- Over whole runs the list shown is that of the text exactly when no last pending
timer fires on an empty field in a category with posts. -/
theorem always_showsText_iff (empty : foundation.EmptyNowhere) (distinct : animals.Nodup)
    (events : List TextEvent) :
    Always (textStep foundation) (ShowsText foundation animals type)
        ⟨selected foundation animals type distinct, {}⟩ events ↔
      Meets (textStep foundation) (SearchesText foundation animals type)
        ⟨selected foundation animals type distinct, {}⟩ events := by
  apply always_iff_meets (KeepsPosts animals type)
  · intro s event t keeps _ stepped
    exact keepsPosts_step keeps stepped
  · intro s event t keeps _ stepped
    exact showsText_step_iff empty keeps stepped
  · intro s event refused
    cases event with
    | edit | removeText => trivial
    | fire =>
        intro last
        simp [textStep, TextEvent.event, SearchRule.step, last] at refused
  · exact keepsPosts_selected distinct
  · exact showsText_selected distinct

end Facts

end PostScreen

open PostScreen

/-- **When a search settles on the text of the field.** In both controllers, for
every loaded list, every category selected beforehand or none, and every run of
edits, fired timers and clear taps: in every state with no timer pending the list
shown is the posts of the category whose title contains the text, all of them for
an empty field, exactly when the last pending timer never fires on an empty field
while the category has posts. -/
theorem search_settles_iff (foundation : Foundation) (empty : foundation.EmptyNowhere)
    (type : Option Category) (events : List TextEvent) :
    (∀ (animals : List HandBook) (distinct : animals.Nodup),
      Always (textStep foundation) (ShowsText foundation animals type)
          ⟨selected foundation animals type distinct, {}⟩ events ↔
        Meets (textStep foundation) (SearchesText foundation animals type)
          ⟨selected foundation animals type distinct, {}⟩ events) ∧
    ∀ (animals : List Training) (distinct : animals.Nodup),
      Always (textStep foundation) (ShowsText foundation animals type)
          ⟨selected foundation animals type distinct, {}⟩ events ↔
        Meets (textStep foundation) (SearchesText foundation animals type)
          ⟨selected foundation animals type distinct, {}⟩ events := by
  constructor
  · intro animals distinct
    exact always_showsText_iff empty distinct events
  · intro animals distinct
    exact always_showsText_iff empty distinct events

/-- Two posts, one about dogs and one about cats. -/
def dogsAndCats : List HandBook :=
  [⟨0, some "dog", none, "Dogs", none⟩, ⟨1, some "cat", none, "Cats", none⟩]

theorem nodup_dogsAndCats : dogsAndCats.Nodup := by decide

/-- A text that is typed in two edits is searched for once both timers have run. -/
theorem search_settles_typed :
    Foundation.ascii.EmptyNowhere ∧
      Always (textStep .ascii) (ShowsText .ascii dogsAndCats none)
        ⟨selected .ascii dogsAndCats none nodup_dogsAndCats, {}⟩
        [.edit "d", .edit "do", .fire, .fire] := by
  refine ⟨Foundation.emptyNowhere_ascii, ((search_settles_iff .ascii Foundation.emptyNowhere_ascii
    none [.edit "d", .edit "do", .fire, .fire]).1 dogsAndCats nodup_dogsAndCats).mpr ?_⟩
  refine ⟨trivial, ?_⟩
  rintro _ ⟨⟩
  refine ⟨trivial, ?_⟩
  rintro _ ⟨⟩
  refine ⟨by rintro ⟨⟩, ?_⟩
  rintro _ ⟨⟩
  refine ⟨fun _ blank => absurd blank (by decide), ?_⟩
  rintro _ ⟨⟩
  trivial

/-- A text that is typed and then removed: the timer left over searches for the
empty text and the list shown is empty. The same happens when the text is erased by
an edit. -/
theorem search_settles_on_nothing :
    (∃ t, run (textStep .ascii) ⟨selected .ascii dogsAndCats none nodup_dogsAndCats, {}⟩
        [.edit "d", .removeText, .fire] = some t ∧
      t.cell.timers = 0 ∧ t.cell.text = none ∧ t.screen.shown = []) ∧
    (∃ t, run (textStep .ascii) ⟨selected .ascii dogsAndCats none nodup_dogsAndCats, {}⟩
        [.edit "d", .edit "", .fire, .fire] = some t ∧
      t.cell.timers = 0 ∧ t.cell.text = some "" ∧ t.screen.shown = []) ∧
    ¬ Always (textStep .ascii) (ShowsText .ascii dogsAndCats none)
      ⟨selected .ascii dogsAndCats none nodup_dogsAndCats, {}⟩ [.edit "d", .removeText, .fire] := by
  refine ⟨⟨_, rfl, rfl, rfl, by decide⟩, ⟨_, rfl, rfl, rfl, by decide⟩, fun always => ?_⟩
  have shown := (always.last rfl) rfl
  revert shown
  decide

end PetApp
