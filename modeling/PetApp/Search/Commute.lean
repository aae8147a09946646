import PetApp.Search.SearchCell

/-!
Two runs of category taps and searches on one screen.

A search is made within the selected category, but a category tap ignores the
text in the search field: it shows the whole category. So what two runs show is
decided by their last steps, and two runs that end in one category and one text
can show different lists.

* `shown_of_settles` — with no timer pending the list shown is fixed by the last
  category, the text in the field and the kind of the last change.
* `category_search_commute_iff` — on each of the three screens, two such runs show
  the same list exactly when their last changes are of one kind or the two tests
  agree on every loaded item.
-/

namespace PetApp

open Runs

namespace SearchRule

variable {σ α : Type}

/-- Two runs of category taps, edits and fired timers from one screen that end
with the same category and the same text and with no timer pending. -/
structure SameEnd (rule : SearchRule σ α) (start : σ) (events events' : List SearchEvent)
    (t t' : Searching σ) : Prop where
  kept : .removeText ∉ events
  kept' : .removeText ∉ events'
  reached : run rule.step ⟨start, {}⟩ events = some t
  reached' : run rule.step ⟨start, {}⟩ events' = some t'
  idle : t.cell.timers = 0
  idle' : t'.cell.timers = 0
  category : lastCategory events = lastCategory events'
  text : t.cell.text = t'.cell.text

/-- The last changes are of one kind, or their tests agree on every item. -/
def LastAgree (rule : SearchRule σ α) (animals : List α) (events events' : List SearchEvent)
    (text : String) : Prop :=
  lastChange events = lastChange events' ∨
    ∀ item ∈ animals,
      rule.test (lastChange events) (categoryName (lastCategory events)) text item =
        rule.test (lastChange events') (categoryName (lastCategory events)) text item

variable {rule : SearchRule σ α} {loaded : List α}

/-- With no timer pending, the screen shows the loaded list filtered by the last
change, for the text in the field. -/
theorem shown_of_settles {last : LastChange} {type : Option Category} {s : Searching σ}
    (settles : rule.Settles loaded last type s) (idle : s.cell.timers = 0) :
    rule.shown s.screen =
      loaded.filter (rule.test last (categoryName type) (s.cell.text.getD "")) := by
  obtain ⟨text, shown, current⟩ := settles.shown
  rw [shown]
  cases last with
  | load => rfl
  | category => rfl
  | search => rw [current rfl idle]

/-- Two runs with one end show the same list exactly when their last changes
agree. -/
theorem shown_eq_iff {start : σ} (all : rule.shown start = rule.animals start)
    (unset : rule.animalType start = "") {events events' : List SearchEvent} {t t' : Searching σ}
    (same : rule.SameEnd start events events' t t') :
    rule.shown t.screen = rule.shown t'.screen ↔
      rule.LastAgree (rule.animals start) events events' (t.cell.text.getD "") := by
  have begins : rule.Settles (rule.animals start) .load none ⟨start, {}⟩ := by
    refine ⟨rfl, unset, "", ?_, ?_⟩
    · rw [all]
      exact (List.filter_eq_self.mpr fun _ _ => rfl).symm
    · rintro ⟨⟩
  have settles := settles_run begins same.kept same.reached
  have settles' := settles_run begins same.kept' same.reached'
  have category : events.foldl selectedAfter none = events'.foldl selectedAfter none :=
    same.category
  rw [shown_of_settles settles same.idle, shown_of_settles settles' same.idle', ← same.text,
    ← category, Lists.filter_eq_filter_iff]
  constructor
  · exact .inr
  · rintro (kind | agree)
    · intro item _
      show rule.test (lastChange events) _ _ _ = rule.test (lastChange events') _ _ _
      rw [kind]
    · exact agree

end SearchRule

/-- **When category and search commute.** On each of the three screens, for every
loaded list and any two runs of category taps, edits and fired timers that end
with the same category and text and no timer pending: the two runs show the same
list exactly when their last changes are of one kind, or the tests of the two
last changes agree on every loaded item. -/
theorem category_search_commute_iff (foundation : Foundation) (events events' : List SearchEvent) :
    (∀ (animals : List Animal) (t t' : Searching ListViewController),
      (ListViewController.searchRule foundation).SameEnd { animals := animals } events events' t t' →
      (t.screen.animalData = t'.screen.animalData ↔
        (ListViewController.searchRule foundation).LastAgree animals events events'
          (t.cell.text.getD ""))) ∧
    (∀ (animals : List HandBook) (distinct : animals.Nodup)
        (t t' : Searching HandBookViewController),
      (PostScreen.searchRule HandBook foundation).SameEnd (.loaded animals distinct)
        events events' t t' →
      (t.screen.shown = t'.screen.shown ↔
        (PostScreen.searchRule HandBook foundation).LastAgree animals events events'
          (t.cell.text.getD ""))) ∧
    (∀ (animals : List Training) (distinct : animals.Nodup)
        (t t' : Searching TrainingViewController),
      (PostScreen.searchRule Training foundation).SameEnd (.loaded animals distinct)
        events events' t t' →
      (t.screen.shown = t'.screen.shown ↔
        (PostScreen.searchRule Training foundation).LastAgree animals events events'
          (t.cell.text.getD ""))) := by
  refine ⟨?_, ?_, ?_⟩
  · intro animals t t' same
    exact SearchRule.shown_eq_iff rfl rfl same
  · intro animals distinct t t' same
    exact SearchRule.shown_eq_iff rfl rfl same
  · intro animals distinct t t' same
    exact SearchRule.shown_eq_iff rfl rfl same

/-! ### A category and a search in both orders -/

/-- The category of dogs. -/
def dogs : Category := ⟨"dog", by decide⟩

/-- A search for "cat" within the dogs. -/
def searchLast : List SearchEvent := [.category dogs, .edit "cat", .fire]

/-- The same search and then a tap on the dogs. -/
def categoryLast : List SearchEvent := [.edit "cat", .fire, .category dogs]

/-- The search made twice. -/
def searchTwice : List SearchEvent := [.category dogs, .edit "x", .edit "cat", .fire, .fire]

/-- Two searches that end alike show the same list of huskies. -/
theorem category_search_commute_search_twice :
    ∃ t t', (ListViewController.searchRule .ascii).SameEnd { animals := [.husky] }
        searchLast searchTwice t t' ∧
      t.screen.animalData = t'.screen.animalData := by
  have same : (ListViewController.searchRule .ascii).SameEnd { animals := [.husky] }
      searchLast searchTwice _ _ :=
    ⟨by decide, by decide, rfl, rfl, rfl, rfl, rfl, rfl⟩
  exact ⟨_, _, same, ((category_search_commute_iff .ascii searchLast searchTwice).1
    [.husky] _ _ same).mpr (.inl rfl)⟩

/-- On every screen the search shows nothing and the tap shows the dog, although
both runs end with the category of dogs and the text "cat". -/
theorem category_after_search_shows_dog :
    (∃ t t', (ListViewController.searchRule .ascii).SameEnd { animals := [.husky] }
        searchLast categoryLast t t' ∧
      t.screen.animalData = [] ∧ t'.screen.animalData = [.husky]) ∧
    (∃ t t', (PostScreen.searchRule HandBook .ascii).SameEnd
        (.loaded [⟨0, some "dog", none, "Dogs", none⟩] (by decide)) searchLast categoryLast t t' ∧
      t.screen.shown = [] ∧ t'.screen.shown = [⟨0, some "dog", none, "Dogs", none⟩]) ∧
    (∃ t t', (PostScreen.searchRule Training .ascii).SameEnd
        (.loaded [⟨0, some "dog", none, "Dogs", none⟩] (by decide)) searchLast categoryLast t t' ∧
      t.screen.shown = [] ∧ t'.screen.shown = [⟨0, some "dog", none, "Dogs", none⟩]) := by
  refine ⟨⟨_, _, ⟨by decide, by decide, rfl, rfl, rfl, rfl, rfl, rfl⟩, ?_, ?_⟩,
    ⟨_, _, ⟨by decide, by decide, rfl, rfl, rfl, rfl, rfl, rfl⟩, ?_, ?_⟩,
    ⟨_, _, ⟨by decide, by decide, rfl, rfl, rfl, rfl, rfl, rfl⟩, ?_, ?_⟩⟩
  all_goals decide

end PetApp
