import PetApp.Lib.Lists
import PetApp.Search.SearchCell

/-!
The three search closures against one rule.

The handbook, training and list screens each copy the search closure by hand. The
rule they have in common asks for the selected category, if there is one, and for
the text in what the item is searched by: the title of a post, the species of an
animal. The closures of the two screens of posts test `animalType.isEmpty` first;
that of the list screen compares the category in any case, so that with none
selected it keeps only animals without one.

* `commonRule` — the rule, over a type of items.
* `followsCommonRule_iff` — a screen follows it exactly when its own test agrees
  with it on the loaded items.
* `animal_search_follows_iff` — the screens of posts always follow it, the list
  screen exactly when a category is selected or no animal with one has the text in
  its species.
-/

namespace PetApp

/-- What a search reads of an item: its category, if it has one, and the text it is
searched by. -/
structure SearchKeys (α : Type) where
  animal : α → Option String
  text : α → String

/-- Posts are searched by their title. -/
def Post.searchKeys (α : Type) [Post α] : SearchKeys α := ⟨Post.animal, Post.title⟩

/-- Animals are searched by their species. -/
def Animal.searchKeys : SearchKeys Animal := ⟨fun animal => some animal.animal, Animal.species⟩

section CommonRule

variable {α : Type} (foundation : Foundation) (keys : SearchKeys α) (type searchText : String)

/-- The item contains the text, ignoring case. -/
def hasText (item : α) : Bool :=
  foundation.contains (foundation.lowercased (keys.text item)) (foundation.lowercased searchText)

/-- No category is selected or the item is of it, and the item contains the text,
both ignoring case. -/
def commonRule (item : α) : Bool :=
  (type.isEmpty || (keys.animal item).map foundation.lowercased == some (foundation.lowercased type))
    && hasText foundation keys searchText item

end CommonRule

namespace SearchRule

variable {σ α : Type} (rule : SearchRule σ α) (foundation : Foundation) (keys : SearchKeys α)

/-- A search leaves on the screen exactly the items of the common rule, in the order
in which they were loaded. -/
def FollowsCommonRule (searchText : String) (s : σ) : Prop :=
  rule.shown (rule.didStartSearch searchText s) =
    (rule.animals s).filter (commonRule foundation keys (rule.animalType s) searchText)

variable {rule foundation keys}

theorem followsCommonRule_iff {searchText : String} {s : σ} :
    rule.FollowsCommonRule foundation keys searchText s ↔
      ∀ item ∈ rule.animals s, rule.searches (rule.animalType s) searchText item =
        commonRule foundation keys (rule.animalType s) searchText item := by
  obtain ⟨-, -, shown⟩ := rule.searched searchText s
  rw [FollowsCommonRule, shown]
  exact Lists.filter_eq_filter_iff

end SearchRule

/-- The closures of the screens of posts test the category only if one is
selected. -/
theorem PostScreen.searches_eq_commonRule {α : Type} [Post α] (foundation : Foundation)
    (type searchText : String) (item : α) :
    (PostScreen.searchRule α foundation).searches type searchText item =
      commonRule foundation (Post.searchKeys α) type searchText item :=
  PostScreen.searches_searchRule foundation type searchText item

/-- **The screens of posts follow the common rule.** -/
theorem PostScreen.followsCommonRule {α : Type} [Post α] (foundation : Foundation)
    (searchText : String) (s : PostScreen α) :
    (PostScreen.searchRule α foundation).FollowsCommonRule foundation (Post.searchKeys α)
      searchText s :=
  SearchRule.followsCommonRule_iff.mpr fun item _ =>
    PostScreen.searches_eq_commonRule foundation _ searchText item

namespace ListViewController

variable {foundation : Foundation} {type searchText : String}

/-- With a category selected the test of the list screen is the common rule. -/
theorem searches_eq_commonRule (selected : type ≠ "") (animal : Animal) :
    searches foundation type searchText animal =
      commonRule foundation Animal.searchKeys type searchText animal := by
  have named : type.isEmpty = false := by simpa using selected
  simp [searches, commonRule, hasText, hasType, Animal.searchKeys, named]

/-- With none selected it agrees with the common rule on an animal exactly when the
text is not in its species or it has no category. -/
theorem searches_empty_eq_commonRule_iff {animal : Animal} :
    searches foundation "" searchText animal =
        commonRule foundation Animal.searchKeys "" searchText animal ↔
      (hasText foundation Animal.searchKeys searchText animal = true →
        hasType foundation "" animal = true) := by
  have split : searches foundation "" searchText animal =
      (hasType foundation "" animal && hasText foundation Animal.searchKeys searchText animal) :=
    rfl
  have whole : commonRule foundation Animal.searchKeys "" searchText animal =
      hasText foundation Animal.searchKeys searchText animal := by
    simp [commonRule]
  rw [split, whole]
  cases hasType foundation "" animal <;>
    cases hasText foundation Animal.searchKeys searchText animal <;> simp

/-- A search is made within a category, or every animal with the text in its
species has no category. -/
def SearchesAsSelected (foundation : Foundation) (searchText : String)
    (s : ListViewController) : Prop :=
  s.animalType ≠ "" ∨
    ∀ animal ∈ s.animals, hasText foundation Animal.searchKeys searchText animal = true →
      hasType foundation "" animal = true

theorem followsCommonRule_iff_searchesAsSelected {s : ListViewController} :
    (searchRule foundation).FollowsCommonRule foundation Animal.searchKeys searchText s ↔
      s.SearchesAsSelected foundation searchText := by
  rw [SearchRule.followsCommonRule_iff]
  change (∀ animal ∈ s.animals, searches foundation s.animalType searchText animal =
    commonRule foundation Animal.searchKeys s.animalType searchText animal) ↔ _
  by_cases selected : s.animalType = ""
  · rw [selected]
    have unselected : ¬ s.animalType ≠ "" := fun ne => ne selected
    simp only [SearchesAsSelected, searches_empty_eq_commonRule_iff, unselected, false_or]
  · exact iff_of_true (fun animal _ => searches_eq_commonRule selected animal) (.inl selected)

end ListViewController

/-- **When the three searches follow one rule.** The list screen leaves in
`filterAnimals`, and shows, the animals of the common rule exactly when a category is
selected or every animal with the text in its species has none. The screens of posts
show the posts of the rule on every search. -/
theorem animal_search_follows_iff (foundation : Foundation) (searchText : String) :
    (∀ s : ListViewController,
      ((s.didStartSearch foundation searchText).isSelectype = true ∧
        (s.didStartSearch foundation searchText).filterAnimals =
          s.animals.filter (commonRule foundation Animal.searchKeys s.animalType searchText)) ↔
        s.SearchesAsSelected foundation searchText) ∧
      (∀ s : HandBookViewController,
        (s.didStartSearch foundation searchText).shown =
          s.animals.filter
            (commonRule foundation (Post.searchKeys HandBook) s.animalType searchText)) ∧
      ∀ s : TrainingViewController,
        (s.didStartSearch foundation searchText).shown =
          s.animals.filter
            (commonRule foundation (Post.searchKeys Training) s.animalType searchText) := by
  refine ⟨fun s => ?_, PostScreen.followsCommonRule foundation searchText,
    PostScreen.followsCommonRule foundation searchText⟩
  rw [← ListViewController.followsCommonRule_iff_searchesAsSelected]
  -- the closure sets `isSelectype`, so what it leaves in `filterAnimals` is shown
  exact ⟨fun left => left.2, fun follows => ⟨rfl, follows⟩⟩

/-- With no category selected, a search of the library for a part of the husky's
species shows nothing. -/
theorem animal_search_misses_husky :
    ∃ s : ListViewController, s.animals = [.husky] ∧ s.animalType = "" ∧
      (s.didStartSearch .ascii "hus").isSelectype = true ∧
      (s.didStartSearch .ascii "hus").filterAnimals = [] ∧
      s.animals.filter (commonRule .ascii Animal.searchKeys s.animalType "hus") = [.husky] :=
  ⟨⟨[.husky], [], false, ""⟩, by decide⟩

end PetApp
