import PetApp.Favorite.Reopen
import PetApp.Favorite.Toggle
import PetApp.Library.Grid

/-!
Where favourites come from: the grid of the pet library, the detail screens and the favourites
screens over one store.

An animal is made of a document, shown in the grid, handed to a detail screen, written to a row by
a heart tap, read from the row by a favourites screen, and handed to a detail screen again. Each
hand-over copies ten fields by name, and the screens keep lists that others have changed since.
Here any number of screens of each kind are open, in any order.

* `LibraryApp.step` — the events of all screens.
* `eq_favoriteOf_of_records` — a row that records an animal is the row of that animal.
* `handed_of_origin` — what a favourites screen hands on, also for a row that was deleted.
* `traced_step` — every list and every row holds animals of the library.
* `favorites_from_library` — so a favourite has the fields of one document, at every moment.
-/

namespace PetApp

open Runs

/-! ### The screens -/

/-- A detail screen: the animal it was handed, its state and its queued refreshes. -/
structure OpenDetail where
  animal : Animal
  detail : DetailItem
  pending : Nat

/-- The list screen, the store, and the screens opened so far. -/
structure LibraryApp where
  grid : GridScreen := {}
  context : Context
  details : List OpenDetail := []
  favorites : List FavoriteVC := []

inductive LibraryAppEvent where
  | grid (event : GridEvent)
  | opensFavorites
  | selects (screen item : Nat)
  /-- A tap on the unsave button of the cell at a position. -/
  | unsaves (screen position : Nat) (saves : Bool)
  /-- A tap on the heart by the user whose uid `UserManager` holds. -/
  | heart (index : Nat) (uid : Option String) (saves : Bool)
  | refresh (index : Nat)

/-- The animal an event on the grid hands to a detail screen. -/
def GridScreen.handed (s : GridScreen) : GridEvent → Option Animal
  | .didSelectItemAt i => (s.cell.didSelectItemAt i).join
  | _ => none

namespace LibraryApp

section Machine

variable (foundation : Foundation) (codec : ImageCodec) (deleted : Favorite → Favorite)

/-- A detail screen is pushed on an animal, if there is one. -/
def push (animal : Option Animal) (s : LibraryApp) : LibraryApp :=
  { s with details := s.details ++ animal.toList.map fun animal =>
      ⟨animal, .opened (fun o => (deleted o).species) s.context animal, 0⟩ }

/-- One event. `none` when there is no such screen or an index is out of range. -/
def step (s : LibraryApp) : LibraryAppEvent → Option LibraryApp
  | .grid event =>
      (s.grid.step foundation event).map fun grid =>
        { s with grid := grid }.push deleted (s.grid.handed event)
  | .opensFavorites => some { s with favorites := s.favorites ++ [.opened s.context] }
  | .selects screen item => do
      let vc ← s.favorites[screen]?
      let selected ← vc.didSelectItemAt codec deleted s.context item
      return s.push deleted selected.2
  | .unsaves screen position saves => do
      let vc ← s.favorites[screen]?
      let cell ← vc.cells[position]?
      let after ← vc.unsaveFavoriteClousure cell.indexPath saves s.context
      return { s with context := after.1, favorites := s.favorites.set screen after.2 }
  | .heart index uid saves =>
      s.details[index]?.map fun d =>
        let after := DetailItem.heartButtonClousure codec (fun o => (deleted o).species) d.animal
          uid saves s.context d.detail
        { s with
          context := after.1
          details := s.details.set index ⟨d.animal, after.2, d.pending + 1⟩ }
  | .refresh index =>
      match s.details[index]? with
      | some ⟨animal, detail, pending + 1⟩ =>
          some { s with details := s.details.set index ⟨animal, detail.refresh s.context, pending⟩ }
      | _ => none

end Machine

end LibraryApp

/-! ### Rows and animals -/

section Rows

variable {codec : ImageCodec} {animal : Animal} {uid : String} {row : Favorite}

theorem records_favoriteOf (codec : ImageCodec) (animal : Animal) (uid : String) (objectID : Nat) :
    (favoriteOf codec animal uid objectID).Records codec animal uid :=
  ⟨rfl, rfl, rfl, rfl, rfl, rfl, rfl, rfl, rfl, rfl, rfl⟩

/-- A row that records an animal is the row of that animal. -/
theorem eq_favoriteOf_of_records (records : row.Records codec animal uid) :
    row = favoriteOf codec animal uid row.objectID := by
  obtain ⟨height, weight, age, origin, type, species, information, history, image, kind, user⟩ :=
    records
  cases row
  simp_all [favoriteOf]

end Rows

namespace LibraryApp

/-- What is known of the screens and the store: every list of the grid and every detail screen
has known animals, every row and every array has rows of one origin. -/
structure Traced (known : Animal → Prop) (origin : Favorite → Prop) (s : LibraryApp) : Prop where
  animals : ∀ animal ∈ s.grid.controller.animals, known animal
  filtered : ∀ animal ∈ s.grid.controller.filterAnimals, known animal
  tapCell : ∀ list ∈ s.grid.cell.tapCell, ∀ animal ∈ list, known animal
  details : ∀ d ∈ s.details, known d.animal
  arrays : ∀ vc ∈ s.favorites, ∀ row ∈ vc.favorites, origin row
  rows : ∀ row ∈ s.context.objects, origin row

section Facts

variable {foundation : Foundation} {codec : ImageCodec} {deleted : Favorite → Favorite}
  {known : Animal → Prop} {origin : Favorite → Prop} {s t : LibraryApp}

/-! ### The grid -/

/-- The controller filters the loaded animals. -/
theorem known_controller (traced : Traced known origin s) {event : GridEvent} {grid : GridScreen}
    (loads : ∀ arrAnimal, event = .setData arrAnimal → ∀ animal ∈ arrAnimal, known animal)
    (stepped : s.grid.step foundation event = some grid) :
    (∀ animal ∈ grid.controller.animals, known animal) ∧
      ∀ animal ∈ grid.controller.filterAnimals, known animal := by
  have filter : ∀ test : Animal → Bool, ∀ animal ∈ s.grid.controller.animals.filter test,
      known animal :=
    fun test animal member => traced.animals animal (List.mem_filter.mp member).1
  cases event with
  | setData arrAnimal =>
      cases stepped
      exact ⟨loads arrAnimal rfl, traced.filtered⟩
  | homeTap category =>
      cases stepped
      exact ⟨traced.animals, traced.filtered⟩
  | tapCategories category =>
      cases stepped
      exact ⟨traced.animals, filter _⟩
  | didStartSearch searchText =>
      cases stepped
      exact ⟨traced.animals, filter _⟩
  | deleteSearchValue =>
      cases stepped
      exact ⟨traced.animals, filter _⟩
  | initAnimalsCell =>
      cases stepped
      exact ⟨traced.animals, traced.filtered⟩
  | reloadData =>
      simp only [GridScreen.step, Option.ite_none_right_eq_some, Option.some.injEq] at stepped
      obtain ⟨-, rfl⟩ := stepped
      exact ⟨traced.animals, traced.filtered⟩
  | cellForItemAt i =>
      simp only [GridScreen.step, Option.ite_none_right_eq_some, Option.map_eq_some_iff] at stepped
      obtain ⟨-, cell, -, rfl⟩ := stepped
      exact ⟨traced.animals, traced.filtered⟩
  | didSelectItemAt i =>
      simp only [GridScreen.step, Option.ite_none_right_eq_some, Option.map_eq_some_iff] at stepped
      obtain ⟨-, -, -, rfl⟩ := stepped
      exact ⟨traced.animals, traced.filtered⟩

/-- The tap closure reads a list of the controller. -/
theorem known_tapCell (traced : Traced known origin s) {event : GridEvent} {grid : GridScreen}
    (stepped : s.grid.step foundation event = some grid) :
    ∀ list ∈ grid.cell.tapCell, ∀ animal ∈ list, known animal := by
  rcases GridScreen.step_cell stepped with same | handed | reloaded | ⟨i, requested⟩
  · rw [same]
    exact traced.tapCell
  · rw [handed]
    rintro list ⟨⟩
    rw [ListViewController.animalData]
    split
    · exact traced.filtered
    · exact traced.animals
  · rw [reloaded]
    exact traced.tapCell
  · obtain ⟨animal, -, same⟩ := Option.map_eq_some_iff.mp requested
    rw [← same]
    exact traced.tapCell

/-- What a tap on the grid hands on. -/
theorem known_of_grid (traced : Traced known origin s) {event : GridEvent} {animal : Animal}
    (handed : s.grid.handed event = some animal) : known animal := by
  cases event with
  | didSelectItemAt i =>
      have selected := Option.join_eq_some_iff.mp handed
      unfold ListItemTableViewCell.didSelectItemAt at selected
      cases reads : s.grid.cell.tapCell with
      | none => simp [reads] at selected
      | some list =>
          simp only [reads, Option.map_eq_some_iff, Option.some.injEq, exists_eq_right] at selected
          exact traced.tapCell list reads animal (List.mem_of_getElem? selected)
  | _ => cases handed

/-! ### The favourites screens -/

/-- A favourites screen hands on the animal its row was written for, or none: the attributes of a
stored row are those that were written, and a deleted one keeps them or has no image. -/
theorem handed_of_origin
    (reads : ∀ row, origin row → ∃ animal uid, known animal ∧ row.Records codec animal uid)
    (lossless : ∀ animal, known animal → ∀ data, codec.pngData animal.image = some data →
      codec.decode data = some animal.image)
    (noImage : codec.decode [] = none)
    (answers : ∀ row, deleted row = row ∨ (deleted row).image = none)
    {ctx : Context} {vc : FavoriteVC} (rows : ∀ row ∈ vc.favorites, origin row) {item : Nat}
    {row : Favorite} {animal : Animal}
    (selected : vc.didSelectItemAt codec deleted ctx item = some (row, some animal)) :
    known animal := by
  obtain ⟨shown, found, same⟩ := Option.map_eq_some_iff.mp selected
  simp only [Prod.mk.injEq, Option.map_eq_some_iff] at same
  obtain ⟨isRow, image, decoded, rfl⟩ := same
  subst isRow
  obtain ⟨written, uid, isKnown, records⟩ := reads _ (rows _ (List.mem_of_getElem? found))
  have values : ctx.values deleted shown = shown ∨ (ctx.values deleted shown).image = none := by
    unfold Context.values
    split
    · exact .inl rfl
    · exact answers shown
  rcases values with asWritten | noData
  · rw [asWritten] at decoded ⊢
    cases encoded : codec.pngData written.image with
    | none =>
        rw [records.image, encoded, Option.getD_none, noImage] at decoded
        cases decoded
    | some data =>
        rw [records.image, encoded, Option.getD_some, lossless written isKnown data encoded]
          at decoded
        cases decoded
        rw [eq_favoriteOf_of_records records, animalWith_favoriteOf]
        exact isKnown
  · rw [noData, Option.getD_none, noImage] at decoded
    cases decoded

/-! ### One event -/

/-- A screen is pushed on a known animal. -/
theorem traced_push (traced : Traced known origin s) {animal : Option Animal}
    (isKnown : ∀ a, animal = some a → known a) : Traced known origin (s.push deleted animal) where
  animals := traced.animals
  filtered := traced.filtered
  tapCell := traced.tapCell
  details := by
    intro d member
    rcases List.mem_append.mp member with before | new
    · exact traced.details d before
    · obtain ⟨a, handed, rfl⟩ := List.mem_map.mp new
      exact isKnown a (Option.mem_toList.mp handed)
  arrays := traced.arrays
  rows := traced.rows

/-- A tap on a heart writes a row of the animal of its screen, or removes one. -/
theorem rows_heart (rows : ∀ row ∈ s.context.objects, origin row) {animal : Animal}
    {uid : Option String} {saves : Bool} {detail : DetailItem} {species : Favorite → Option String}
    (writes : ∀ objectID, origin (favoriteOf codec animal (uid.getD "") objectID)) :
    ∀ row ∈ (DetailItem.heartButtonClousure codec species animal uid saves s.context
      detail).1.objects, origin row := by
  rw [DetailItem.heartButtonClousure_eq]
  intro row member
  split at member
  · rw [objects_insertFavorite] at member
    rcases List.mem_append.mp member with before | new
    · exact rows row before
    · cases List.mem_singleton.mp new
      exact writes s.context.nextID
  · rw [objects_deleteFavorite] at member
    exact rows row (List.mem_filter.mp member).1

theorem traced_step
    (reads : ∀ row, origin row → ∃ animal uid, known animal ∧ row.Records codec animal uid)
    (lossless : ∀ animal, known animal → ∀ data, codec.pngData animal.image = some data →
      codec.decode data = some animal.image)
    (noImage : codec.decode [] = none)
    (answers : ∀ row, deleted row = row ∨ (deleted row).image = none)
    (traced : Traced known origin s) {event : LibraryAppEvent}
    (loads : ∀ arrAnimal, event = .grid (.setData arrAnimal) → ∀ animal ∈ arrAnimal, known animal)
    (writes : ∀ index uid saves, event = .heart index uid saves → ∀ animal, known animal →
      ∀ objectID, origin (favoriteOf codec animal (uid.getD "") objectID))
    (stepped : step foundation codec deleted s event = some t) : Traced known origin t := by
  cases event with
  | grid event =>
      obtain ⟨grid, moved, rfl⟩ := Option.map_eq_some_iff.mp stepped
      obtain ⟨animals, filtered⟩ := known_controller traced
        (fun arrAnimal same => loads arrAnimal (congrArg LibraryAppEvent.grid same)) moved
      have next : Traced known origin { s with grid := grid } :=
        ⟨animals, filtered, known_tapCell traced moved, traced.details, traced.arrays, traced.rows⟩
      exact traced_push next fun a handed => known_of_grid traced handed
  | opensFavorites =>
      cases stepped
      refine ⟨traced.animals, traced.filtered, traced.tapCell, traced.details, ?_, traced.rows⟩
      intro vc member
      rcases List.mem_append.mp member with before | new
      · exact traced.arrays vc before
      · cases List.mem_singleton.mp new
        exact traced.rows
  | selects screen item =>
      simp only [step, Option.bind_eq_bind, Option.bind_eq_some_iff, Option.pure_def,
        Option.some.injEq] at stepped
      obtain ⟨vc, found, ⟨row, animal⟩, selected, rfl⟩ := stepped
      refine traced_push traced fun a handed => ?_
      cases handed
      exact handed_of_origin reads lossless noImage answers
        (traced.arrays vc (List.mem_of_getElem? found)) selected
  | unsaves screen position saves =>
      simp only [step, Option.bind_eq_bind, Option.bind_eq_some_iff, Option.pure_def,
        Option.some.injEq] at stepped
      obtain ⟨vc, found, cell, -, after, unsaved, rfl⟩ := stepped
      obtain ⟨favorite, -, rfl⟩ := Option.map_eq_some_iff.mp unsaved
      have rows : ∀ row ∈ (deleteFavorite favorite saves s.context).2.objects, origin row := by
        intro row member
        rw [objects_deleteFavorite] at member
        exact traced.rows row (List.mem_filter.mp member).1
      refine ⟨traced.animals, traced.filtered, traced.tapCell, traced.details, ?_, rows⟩
      intro vc' member
      rcases List.mem_or_eq_of_mem_set member with before | rfl
      · exact traced.arrays vc' before
      · exact rows
  | heart index uid saves =>
      obtain ⟨d, found, rfl⟩ := Option.map_eq_some_iff.mp stepped
      have isKnown := traced.details d (List.mem_of_getElem? found)
      refine ⟨traced.animals, traced.filtered, traced.tapCell, ?_, traced.arrays,
        rows_heart traced.rows (writes index uid saves rfl d.animal isKnown)⟩
      intro d' member
      rcases List.mem_or_eq_of_mem_set member with before | rfl
      · exact traced.details d' before
      · exact isKnown
  | refresh index =>
      simp only [step] at stepped
      split at stepped
      · rename_i animal detail pending found
        cases stepped
        refine ⟨traced.animals, traced.filtered, traced.tapCell, ?_, traced.arrays, traced.rows⟩
        intro d member
        rcases List.mem_or_eq_of_mem_set member with before | rfl
        · exact traced.details d before
        · exact traced.details ⟨animal, detail, pending + 1⟩ (List.mem_of_getElem? found)
      · cases stepped

end Facts

/-! ### Whole runs -/

/-- **A favourite is a document of the library.** For every library, every store of its rows and
every order of loads, category taps, searches, reloads and taps in the grid, opened and selected
favourites, unsave taps, heart taps and refreshes on any number of screens, whatever the saves do:
at every moment each detail screen has the ten fields of one document of the library, and each row
of the store has the fields of one, under the uid it had at the start or that of a heart tap of
the run. PNG keeps the images of the library, empty data is no image, and a deleted object keeps
its attributes or has no image. -/
theorem favorites_from_library (foundation : Foundation) (codec : ImageCodec)
    (deleted : Favorite → Favorite) (image : String → UIImage) (library : List Document)
    (ctx : Context) (events : List LibraryAppEvent)
    (lossless : ∀ document ∈ library, ∀ data,
      codec.pngData (Animal.ofDocument image document).image = some data →
        codec.decode data = some (Animal.ofDocument image document).image)
    (noImage : codec.decode [] = none)
    (answers : ∀ row, deleted row = row ∨ (deleted row).image = none)
    (loads : ∀ arrAnimal, .grid (.setData arrAnimal) ∈ events → ∃ documents ⊆ library,
      arrAnimal = ListViewController.arrAnimal image documents)
    (start : ∀ row ∈ ctx.objects, ∃ document ∈ library, ∃ uid,
      row.Records codec (.ofDocument image document) uid) :
    Always (step foundation codec deleted)
      (fun s =>
        (∀ d ∈ s.details, ∃ document ∈ library, d.animal = .ofDocument image document) ∧
        ∀ row ∈ s.context.objects, ∃ document ∈ library, ∃ uid,
          row.Records codec (.ofDocument image document) uid ∧
            (row ∈ ctx.objects ∨
              ∃ index tapped saves, .heart index tapped saves ∈ events ∧ uid = tapped.getD ""))
      { context := ctx } events := by
  let known : Animal → Prop := fun animal =>
    ∃ document ∈ library, animal = .ofDocument image document
  let origin : Favorite → Prop := fun row => ∃ document ∈ library, ∃ uid,
    row.Records codec (.ofDocument image document) uid ∧
      (row ∈ ctx.objects ∨
        ∃ index tapped saves, .heart index tapped saves ∈ events ∧ uid = tapped.getD "")
  have reads : ∀ row, origin row → ∃ animal uid, known animal ∧ row.Records codec animal uid := by
    rintro row ⟨document, member, uid, records, -⟩
    exact ⟨_, uid, ⟨document, member, rfl⟩, records⟩
  have keepsImage : ∀ animal, known animal → ∀ data, codec.pngData animal.image = some data →
      codec.decode data = some animal.image := by
    rintro _ ⟨document, member, rfl⟩
    exact lossless document member
  have traced : Always (step foundation codec deleted) (Traced known origin)
      { context := ctx } events := by
    apply always_of_steps
    · intro s event inRun t traced stepped
      refine traced_step reads keepsImage noImage answers traced ?_ ?_ stepped
      · rintro arrAnimal rfl animal member
        obtain ⟨documents, subset, rfl⟩ := loads arrAnimal inRun
        obtain ⟨document, delivered, rfl⟩ := List.mem_map.mp member
        exact ⟨document, subset delivered, rfl⟩
      · rintro index tapped saves rfl _ ⟨document, member, rfl⟩ objectID
        exact ⟨document, member, _, records_favoriteOf codec _ _ objectID,
          .inr ⟨index, tapped, saves, inRun, rfl⟩⟩
    · refine ⟨by simp, by simp, by simp, by simp, by simp, ?_⟩
      intro row stored
      obtain ⟨document, member, uid, records⟩ := start row stored
      exact ⟨document, member, uid, records, .inl stored⟩
  exact traced.imp fun s traced => ⟨traced.details, traced.rows⟩

/-- A library of one document. -/
def huskies : List Document :=
  [.ofFields "d" [("species", .string "Husky"), ("animal", .string "dog")]]

/-- A favourite that is saved, shown by a favourites screen, deleted on its detail screen and then
selected. -/
def selectsDeleted : List LibraryAppEvent :=
  [.grid (.setData (ListViewController.arrAnimal (fun _ => ⟨1, 1, [1]⟩) huskies)),
    .grid .initAnimalsCell, .grid .reloadData, .grid (.didSelectItemAt 0),
    .heart 0 (some "an") true, .refresh 0, .opensFavorites, .heart 0 (some "an") true,
    .selects 0 0]

/-- The detail screen has the fields of the document again. -/
theorem favorites_from_library_selects_deleted :
    ∃ t d, run (step .ascii .raw id) { context := .empty } selectsDeleted = some t ∧
      t.context.objects = [] ∧ t.details[1]? = some d ∧
      ∃ document ∈ huskies, d.animal = .ofDocument (fun _ => ⟨1, 1, [1]⟩) document := by
  have loads : ∀ arrAnimal, .grid (.setData arrAnimal) ∈ selectsDeleted → ∃ documents ⊆ huskies,
      arrAnimal = ListViewController.arrAnimal (fun _ => ⟨1, 1, [1]⟩) documents := by
    intro arrAnimal member
    simp only [selectsDeleted, List.mem_cons, LibraryAppEvent.grid.injEq, GridEvent.setData.injEq,
      reduceCtorEq, List.not_mem_nil, or_false] at member
    exact ⟨huskies, List.Subset.refl _, member⟩
  have always := favorites_from_library .ascii .raw id (fun _ => ⟨1, 1, [1]⟩) huskies .empty
    selectsDeleted
    (by
      rintro document - data ⟨⟩
      rfl)
    rfl (fun _ => .inl rfl) loads (by simp [Context.empty])
  refine ⟨_, _, rfl, rfl, rfl, ?_⟩
  exact (always.last rfl).1 _ (List.mem_cons_of_mem _ (List.mem_singleton_self _))

end LibraryApp

end PetApp
