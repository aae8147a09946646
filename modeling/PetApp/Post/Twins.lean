import PetApp.Post.Table

/-!
The handbook screen and the training screen on the same documents.

The two decoders differ: a document without `animal` gives a handbook post
without one and a training post with an empty one. A category is never empty, so
both screens drop such a post from every category; while no category is chosen
neither looks at the field. Clearing a search without a category makes both show
everything, although the list they filter behind it differs.

* `twins_decode` — the decoders give twins: posts with one title whose fields
  `animal` are the same up to that default.
* `alike_after` — the simulation step: filters that treat twins alike are led by
  every event to filters that treat twins alike.
* `titles_of_alike` — screens that show such filters of lists of twins show the
  same titles.
* `posts_same_titles` — so the screens show the same titles after every run.
-/

namespace PetApp

open Runs

/-- The same post as each screen decodes it. -/
structure Twins (handBook : HandBook) (training : Training) : Prop where
  title : handBook.title = training.title
  animal : training.animal = some (handBook.animal.getD "")

theorem twins_decode (image : String → UIImage) (documents : List Document) :
    List.Forall₂ Twins (FireBaseService.decode documents) (Training.setData image documents) := by
  refine List.forall₂_iff_get.mpr ⟨by simp [FireBaseService.decode, Training.setData], ?_⟩
  intro i _ _
  simp only [FireBaseService.decode, Training.setData, List.get_eq_getElem, List.getElem_mapIdx]
  exact ⟨rfl, rfl⟩

/-- The filters have one category and treat twins alike. -/
structure Alike (left : PostFilter HandBook) (right : PostFilter Training) : Prop where
  animalType : left.animalType = right.animalType
  keeps : Option.Rel (fun p q => ∀ handBook training, Twins handBook training →
    p handBook = q training) left.keeps right.keeps

section Facts

variable {foundation : Foundation} {left : PostFilter HandBook} {right : PostFilter Training}

/-- Only the empty text has the lower case of the empty text. -/
def Foundation.LowercasesToEmpty (foundation : Foundation) : Prop :=
  ∀ text, foundation.lowercased text = foundation.lowercased "" → text = ""

/-- Twins are of the same categories, as no category is empty. -/
theorem hasType_twins (lower : foundation.LowercasesToEmpty) {type : String} (named : type ≠ "")
    {handBook : HandBook} {training : Training} (twins : Twins handBook training) :
    PostScreen.hasType foundation type handBook = PostScreen.hasType foundation type training := by
  unfold PostScreen.hasType
  simp only [Post.animal, twins.animal]
  cases handBook.animal with
  | some animal => rfl
  | none =>
      have other : foundation.lowercased "" ≠ foundation.lowercased type :=
        fun same => named (lower type same.symm)
      simp [other]

/-- One event leads from filters that treat twins alike to such filters. -/
theorem alike_after (lower : foundation.LowercasesToEmpty) (alike : Alike left right)
    {event : PostEvent} (named : ∀ type, event = .category type → type ≠ "") :
    Alike (left.after foundation event) (right.after foundation event) := by
  cases event with
  | category type =>
      refine ⟨rfl, .some fun handBook training twins => ?_⟩
      exact hasType_twins lower (named type rfl) twins
  | search searchText =>
      refine ⟨alike.animalType, .some fun handBook training twins => ?_⟩
      simp only [Post.title, twins.title, alike.animalType]
      by_cases empty : right.animalType = ""
      · have isEmpty : right.animalType.isEmpty = true := by rw [empty]; rfl
        simp [isEmpty]
      · rw [hasType_twins lower empty twins]
  | deleteSearch =>
      refine ⟨alike.animalType, ?_⟩
      simp only [PostFilter.after, alike.animalType]
      split
      · exact .none
      · rename_i nonempty
        refine .some fun handBook training twins => hasType_twins lower ?_ twins
        rintro empty
        simp [empty] at nonempty

theorem alike_foldl (lower : foundation.LowercasesToEmpty) (alike : Alike left right)
    {events : List PostEvent} (named : ∀ type, .category type ∈ events → type ≠ "") :
    Alike (events.foldl (PostFilter.after foundation) left)
      (events.foldl (PostFilter.after foundation) right) := by
  induction events generalizing left right with
  | nil => exact alike
  | cons event events ih =>
      refine ih (alike_after lower alike ?_) fun type member => named type (.tail _ member)
      rintro type rfl
      exact named type (.head _)

end Facts

namespace PostScreen

/-- What a screen that shows a filter has on it. -/
theorem shown_of_shows {α : Type} {filter : PostFilter α} {s : PostScreen α}
    (shows : Shows filter s) :
    s.shown = filter.keeps.elim s.animals fun keeps => s.animals.filter keeps := by
  unfold shown
  rw [shows.isFilter]
  cases asked : filter.keeps with
  | none => rfl
  | some keeps => exact shows.filtered keeps asked

/-- Filters that treat twins alike, of lists of twins, show the same titles. -/
theorem titles_of_alike {left : PostFilter HandBook} {right : PostFilter Training}
    (alike : Alike left right) {h : HandBookViewController} {t : TrainingViewController}
    (showsLeft : Shows left h) (showsRight : Shows right t)
    (twins : List.Forall₂ Twins h.animals t.animals) :
    h.shown.map HandBook.title = t.shown.map Training.title := by
  have shown : List.Forall₂ Twins h.shown t.shown := by
    rw [shown_of_shows showsLeft, shown_of_shows showsRight]
    match left.keeps, right.keeps, alike.keeps with
    | _, _, .none => exact twins
    | _, _, .some agree =>
        refine List.rel_filter ?_ twins
        intro handBook training same
        simp only [agree handBook training same]
  rw [← List.forall₂_eq_eq_eq, List.forall₂_map_left_iff, List.forall₂_map_right_iff]
  exact shown.imp fun _ _ same => same.title

theorem run_isSome {α : Type} [Post α] (foundation : Foundation) (s : PostScreen α)
    (events : List PostEvent) : ∃ t, run (step foundation) s events = some t := by
  induction events generalizing s with
  | nil => exact ⟨s, rfl⟩
  | cons event events ih => cases event <;> exact ih _

end PostScreen

namespace PostTable

variable {α : Type} [Post α] {foundation : Foundation}

/-- After the load, what the user does to a table is what the user does to its
screen. -/
theorem screen_run {tableStep : PostTable α → TableEvent → Option (PostTable α)}
    (handled : ∀ table event, tableStep table (.user event) = user foundation table event)
    {table : PostTable α} {events : List PostEvent} {s : PostScreen α}
    (reached : run (PostScreen.step foundation) table.screen events = some s) :
    ∃ next, run tableStep table (events.map .user) = some next ∧ next.screen = s := by
  induction events generalizing table with
  | nil =>
      cases reached
      exact ⟨table, rfl, rfl⟩
  | cons event events ih =>
      obtain ⟨m, stepped, tail⟩ := run_cons_eq_some.mp reached
      have reloaded : (reloadData { table with screen := m }).screen = m := rfl
      rw [← reloaded] at tail
      obtain ⟨next, last, screen⟩ := ih tail
      refine ⟨next, run_cons_eq_some.mpr ⟨_, ?_, last⟩, screen⟩
      rw [handled, user, stepped]
      rfl

/-- **The two post screens are the same machine.** For every list of documents
and every sequence of taps on non-empty categories, searches and clear taps made
after the load and its delayed block, the handbook screen and the training screen
show the same titles. -/
theorem posts_same_titles (foundation : Foundation) (lower : foundation.LowercasesToEmpty)
    (image : String → UIImage) (documents : List Document) (events : List PostEvent)
    (named : ∀ type, .category type ∈ events → type ≠ "") :
    ∃ h t,
      run (handBookStep foundation documents) start
          ([.callback, .delayedBlock] ++ events.map .user) = some h ∧
        run (trainingStep foundation image documents) start
          ([.callback, .delayedBlock] ++ events.map .user) = some t ∧
        h.screen.shown.map HandBook.title = t.screen.shown.map Training.title := by
  -- the screens when the load is over
  let left : PostTable HandBook := reloadData
    ⟨.loaded (FireBaseService.decode documents) (FireBaseService.nodup_decode documents), .done, 2⟩
  let right : PostTable Training := reloadData
    ⟨.loaded (Training.setData image documents) (Training.nodup_setData image documents), .done, 2⟩
  obtain ⟨s, reachedLeft⟩ := PostScreen.run_isSome foundation left.screen events
  obtain ⟨t, reachedRight⟩ := PostScreen.run_isSome foundation right.screen events
  have handledLeft : ∀ table event,
      handBookStep foundation documents table (.user event) = user foundation table event :=
    fun _ _ => rfl
  have handledRight : ∀ table event,
      trainingStep foundation image documents table (.user event) = user foundation table event :=
    fun _ _ => rfl
  obtain ⟨h, runLeft, rfl⟩ := screen_run handledLeft reachedLeft
  obtain ⟨k, runRight, rfl⟩ := screen_run handledRight reachedRight
  refine ⟨h, k, runLeft, runRight, ?_⟩
  obtain ⟨showsLeft, animalsLeft⟩ := PostScreen.shows_run (PostScreen.shows_loaded _ _) reachedLeft
  obtain ⟨showsRight, animalsRight⟩ :=
    PostScreen.shows_run (PostScreen.shows_loaded _ _) reachedRight
  apply PostScreen.titles_of_alike (alike_foldl lower ⟨rfl, .none⟩ named) showsLeft showsRight
  rw [animalsLeft, animalsRight]
  exact twins_decode image documents

/-- Two posts, one of them without `animal`. -/
def barkAndNameless : List Document :=
  [.ofFields "a" [("animal", .string "dog"), ("title", .string "Bark")],
    .ofFields "b" [("title", .string "Nameless")]]

/-- Clearing a search in the category of dogs leaves the dog on both screens. -/
theorem posts_same_titles_dog :
    Foundation.ascii.LowercasesToEmpty ∧
      ∃ h t,
        run (handBookStep .ascii barkAndNameless) start
            ([.callback, .delayedBlock] ++
              [.category "dog", .search "x", .deleteSearch].map .user) = some h ∧
          run (trainingStep .ascii (fun _ => .empty) barkAndNameless) start
            ([.callback, .delayedBlock] ++
              [.category "dog", .search "x", .deleteSearch].map .user) = some t ∧
          h.screen.shown.map HandBook.title = t.screen.shown.map Training.title := by
  have lower : Foundation.ascii.LowercasesToEmpty := by
    intro text same
    have none : text.toList.map Char.toLower = [] := by
      simpa [Foundation.ascii] using congrArg String.toList same
    rw [List.map_eq_nil_iff] at none
    exact String.toList_eq_nil_iff.mp none
  refine ⟨lower, posts_same_titles .ascii lower (fun _ => .empty) barkAndNameless
    [.category "dog", .search "x", .deleteSearch] ?_⟩
  intro type member
  simp only [List.mem_cons, PostEvent.category.injEq, reduceCtorEq, List.not_mem_nil, or_false]
    at member
  rw [member]
  decide

end PostTable

end PetApp
