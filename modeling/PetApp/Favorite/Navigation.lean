import PetApp.Favorite.DetailItem
import PetApp.Favorite.FavoriteVC

/-!
The favourites screen under a detail screen: `FavoriteVC.swift` pushes a
`DetailItemViewController` built from the selected row and shows again when the
user goes back.

`FavoriteVC` fetches in `viewDidLoad` and after an unsave. It neither fetches when
it shows again nor observes the notification that a heart tap posts, so what is
tapped on the detail screen is missing from its array.

* `gone_insertFavorite`, `gone_deleteFavorite` — a deleted object id never comes
  back.
* `step_cases` — what one event can do.
* `follows_step` — while a detail screen is pushed, the array is the store of the
  moment of the push, and a tap on the heart of a row with a species has removed
  one of its rows for good.
* `favorites_shown_iff` — so the array is the store whenever the screen shows,
  exactly when every detail screen is left untapped, or was opened on a row
  without a species and left with the rows it was opened on.
-/

namespace PetApp

open Runs

/-- What `value(forKey:)` answers on the attributes of an object; `deleted` gives
the attributes an object answers once its deletion has been saved. -/
def Context.values (deleted : Favorite → Favorite) (ctx : Context) (favorite : Favorite) : Favorite :=
  if ctx.isStored favorite then favorite else deleted favorite

/-- The animal `didSelectItemAt` builds from the attributes of a row. -/
def Favorite.animalWith (image : UIImage) (values : Favorite) : Animal where
  height := values.height.getD ""
  weight := values.weight.getD ""
  age := values.age.getD ""
  origin := values.origin.getD ""
  type := values.type.getD ""
  species := values.species.getD ""
  information := values.information.getD ""
  history := values.history.getD ""
  image := image
  animal := values.animal.getD ""

namespace FavoriteVC

/-- `collectionView(_:didSelectItemAt:)`: the selected row, and the animal of the
detail screen unless the image data does not decode. `none` is an index out of
range. -/
def didSelectItemAt (codec : ImageCodec) (deleted : Favorite → Favorite) (ctx : Context)
    (vc : FavoriteVC) (item : Nat) : Option (Favorite × Option Animal) :=
  vc.favorites[item]?.map fun favorite =>
    let values := ctx.values deleted favorite
    (favorite, (codec.decode (values.image.getD [])).map values.animalWith)

/-- What is asked of the screen: its array is the store, so that every index a
select, an unsave or a height query can use leads to a stored row. -/
structure ShowsStored (ctx : Context) (vc : FavoriteVC) : Prop where
  rows : vc.favorites = getFavoriteOfCurrentUser ctx
  stored : ∀ (indexPath : Nat) (favorite : Favorite), vc.favorites[indexPath]? = some favorite →
      ctx.isStored favorite = true

theorem showsStored_iff {ctx : Context} {vc : FavoriteVC} :
    vc.ShowsStored ctx ↔ vc.favorites = ctx.objects := by
  refine ⟨fun shows => shows.rows, fun same => ⟨same, ?_⟩⟩
  intro indexPath favorite found
  rw [same] at found
  exact Context.isStored_of_mem (List.mem_of_getElem? found)

end FavoriteVC

/-! ### The two screens on the navigation stack -/

/-- A detail screen pushed by `FavoriteVC`: the animal, the screen and its queued
refreshes, and for the record the selected row, the rows stored at the push and
the number of taps since. -/
structure PushedDetail where
  animal : Animal
  detail : DetailItem
  pending : Nat
  item : Favorite
  rows : List Favorite
  taps : Nat

/-- The store, the favourites screen if it is open, and the detail screen over
it. -/
structure FavoriteStack where
  context : Context
  vc : Option FavoriteVC
  pushed : Option PushedDetail

inductive StackEvent where
  | opens
  /-- A tap on the unsave button of the cell at a position. -/
  | unsave (position : Nat)
  | select (item : Nat)
  /-- A tap on the heart by the user whose uid `UserManager` holds. -/
  | heart (uid : Option String)
  | refresh
  | pop
deriving DecidableEq, Repr

namespace FavoriteStack

section Machine

variable (codec : ImageCodec) (deleted : Favorite → Favorite)

/-- One event; every save succeeds. `none` when the screen of the event is not on
top or an index is out of range. -/
def step (s : FavoriteStack) : StackEvent → Option FavoriteStack
  | .opens =>
      match s.vc with
      | some _ => none
      | none => some { s with vc := some (.opened s.context) }
  | .unsave position =>
      match s.vc, s.pushed with
      | some vc, none => do
          let cell ← vc.cells[position]?
          let after ← vc.unsaveFavoriteClousure cell.indexPath true s.context
          return { s with context := after.1, vc := some after.2 }
      | _, _ => none
  | .select item =>
      match s.vc, s.pushed with
      | some vc, none =>
          (vc.didSelectItemAt codec deleted s.context item).map fun (favorite, animal) =>
            { s with pushed := animal.map fun animal =>
              ⟨animal, .opened (fun o => (deleted o).species) s.context animal, 0, favorite,
                s.context.objects, 0⟩ }
      | _, _ => none
  | .heart uid =>
      s.pushed.map fun p =>
        let after := DetailItem.heartButtonClousure codec (fun o => (deleted o).species) p.animal uid
          true s.context p.detail
        { s with
          context := after.1
          pushed := some { p with detail := after.2, pending := p.pending + 1, taps := p.taps + 1 } }
  | .refresh =>
      match s.pushed with
      | some ⟨animal, detail, pending + 1, item, rows, taps⟩ =>
          some { s with
            pushed := some ⟨animal, detail.refresh s.context, pending, item, rows, taps⟩ }
      | _ => none
  | .pop =>
      match s.vc, s.pushed with
      | _, some _ => some { s with pushed := none }
      | some _, none => some { s with vc := none }
      | none, none => none

end Machine

/-- What is asked of a state: the favourites screen, when it is on top, shows the
store. -/
def Shows (s : FavoriteStack) : Prop :=
  s.pushed = none → ∀ vc ∈ s.vc, vc.ShowsStored s.context

/-- A detail screen is left only untapped, or with the rows it was pushed on when
its row has no species. -/
def LeavesRows (s : FavoriteStack) : StackEvent → Prop
  | .pop => ∀ p ∈ s.pushed, p.taps = 0 ∨ p.item.species = none ∧ s.context.objects = p.rows
  | _ => True

end FavoriteStack

/-! ### Deleted rows -/

/-- The id was given out and no object has it any more. -/
def Context.Gone (objectID : Nat) (ctx : Context) : Prop :=
  objectID < ctx.nextID ∧ ∀ o ∈ ctx.objects, o.objectID ≠ objectID

namespace Context.Gone

variable {objectID : Nat} {ctx : Context}

/-- A new object gets a new id. -/
theorem gone_insertFavorite (gone : ctx.Gone objectID) (codec : ImageCodec) (animal : Animal)
    (uid : String) (saves : Bool) :
    (insertFavorite codec animal uid saves ctx).2.Gone objectID := by
  have nextID : (insertFavorite codec animal uid saves ctx).2.nextID = ctx.nextID + 1 := by
    cases saves <;> rfl
  constructor
  · rw [nextID]
    exact Nat.lt_succ_of_lt gone.1
  · intro o member
    rw [objects_insertFavorite] at member
    rcases List.mem_append.mp member with old | new
    · exact gone.2 o old
    · cases List.mem_singleton.mp new
      exact (Nat.ne_of_lt gone.1).symm

theorem nextID_deleteFavorite (favorite : Favorite) (saves : Bool) (ctx : Context) :
    (deleteFavorite favorite saves ctx).2.nextID = ctx.nextID := by
  cases saves <;> rfl

theorem gone_deleteFavorite (gone : ctx.Gone objectID) (favorite : Favorite) (saves : Bool) :
    (deleteFavorite favorite saves ctx).2.Gone objectID := by
  constructor
  · rw [nextID_deleteFavorite]
    exact gone.1
  · intro o member
    rw [objects_deleteFavorite] at member
    exact gone.2 o (List.mem_filter.mp member).1

/-- A stored row is gone once it has been deleted. -/
theorem of_deleteFavorite {favorite : Favorite} (member : favorite ∈ ctx.objects) (saves : Bool) :
    (deleteFavorite favorite saves ctx).2.Gone favorite.objectID := by
  constructor
  · rw [nextID_deleteFavorite]
    exact ctx.registered favorite member
  · intro o kept
    rw [objects_deleteFavorite] at kept
    simpa using (List.mem_filter.mp kept).2

/-- A heart tap does not bring an id back. -/
theorem heartButtonClousure (gone : ctx.Gone objectID) (codec : ImageCodec)
    (deleted : Favorite → Option String) (animal : Animal) (uid : Option String) (saves : Bool)
    (detail : DetailItem) :
    (DetailItem.heartButtonClousure codec deleted animal uid saves ctx detail).1.Gone objectID := by
  rw [DetailItem.heartButtonClousure_eq]
  split
  · exact gone.gone_insertFavorite codec animal (uid.getD "") saves
  · exact gone.gone_deleteFavorite _ saves

end Context.Gone

namespace FavoriteStack

/-- What is known of a detail screen over the favourites screen: the rows of the
push are the array, the row it was opened on is one of them; before the first tap
store and snapshot are those rows, and after it, if the row has a species, one of
them is gone. -/
structure Follows (ctx : Context) (vc : FavoriteVC) (p : PushedDetail) : Prop where
  rows : vc.favorites = p.rows
  item : p.item ∈ p.rows
  species : p.animal.species = p.item.species.getD ""
  untapped : p.taps = 0 → ctx.objects = p.rows ∧ p.detail.favorites = p.rows
  tapped : p.taps ≠ 0 → p.item.species ≠ none → ∃ row ∈ p.rows, ctx.Gone row.objectID

/-- A detail screen is pushed only over the favourites screen, and follows it. -/
def Stacked (s : FavoriteStack) : Prop :=
  ∀ p ∈ s.pushed, ∃ vc, s.vc = some vc ∧ Follows s.context vc p

section Facts

variable {codec : ImageCodec} {deleted : Favorite → Favorite} {s t : FavoriteStack}

/-- What one event can do. -/
theorem step_cases {event : StackEvent} (stepped : step codec deleted s event = some t) :
    (event = .opens ∧ s.vc = none ∧ t = { s with vc := some (.opened s.context) }) ∨
    (∃ position vc favorite, event = .unsave position ∧ s.vc = some vc ∧ s.pushed = none ∧
      t.context = (deleteFavorite favorite true s.context).2 ∧ t.pushed = none ∧
      ∃ cells, t.vc = some ⟨getFavoriteOfCurrentUser t.context, cells⟩) ∨
    (∃ item vc favorite animal, event = .select item ∧ s.vc = some vc ∧ s.pushed = none ∧
      vc.favorites[item]? = some favorite ∧
      animal = (codec.decode ((s.context.values deleted favorite).image.getD [])).map
        (s.context.values deleted favorite).animalWith ∧
      t = { s with pushed := animal.map fun animal =>
        ⟨animal, .opened (fun o => (deleted o).species) s.context animal, 0, favorite,
          s.context.objects, 0⟩ }) ∨
    (∃ uid p, event = .heart uid ∧ s.pushed = some p ∧ t.vc = s.vc ∧
      t.context = (DetailItem.heartButtonClousure codec (fun o => (deleted o).species) p.animal uid
        true s.context p.detail).1 ∧
      ∃ detail, t.pushed =
        some { p with detail := detail, pending := p.pending + 1, taps := p.taps + 1 }) ∨
    (∃ p, event = .refresh ∧ s.pushed = some p ∧
      t = ⟨s.context, s.vc,
        some { p with detail := p.detail.refresh s.context, pending := p.pending - 1 }⟩) ∨
    (∃ p, event = .pop ∧ s.pushed = some p ∧ t = { s with pushed := none }) ∨
    (event = .pop ∧ s.pushed = none ∧ t = { s with vc := none }) := by
  cases event with
  | opens =>
      simp only [step] at stepped
      split at stepped
      · cases stepped
      · rename_i closed
        cases stepped
        exact .inl ⟨rfl, closed, rfl⟩
  | unsave position =>
      simp only [step] at stepped
      split at stepped
      · rename_i vc opened top
        simp only [FavoriteVC.unsaveFavoriteClousure, Option.bind_eq_bind, Option.bind_eq_some_iff,
          Option.map_eq_some_iff, Option.pure_def, Option.some.injEq] at stepped
        obtain ⟨cell, -, after, ⟨favorite, -, rfl⟩, rfl⟩ := stepped
        exact .inr (.inl ⟨position, vc, favorite, rfl, opened, top, rfl, top, _, rfl⟩)
      · cases stepped
  | select item =>
      simp only [step] at stepped
      split at stepped
      · rename_i vc opened top
        obtain ⟨⟨favorite, animal⟩, selected, rfl⟩ := Option.map_eq_some_iff.mp stepped
        obtain ⟨_, found, ⟨⟩⟩ := Option.map_eq_some_iff.mp selected
        exact .inr (.inr (.inl ⟨item, vc, favorite, _, rfl, opened, top, found, rfl, rfl⟩))
      · cases stepped
  | heart uid =>
      obtain ⟨p, pushed, rfl⟩ := Option.map_eq_some_iff.mp stepped
      exact .inr (.inr (.inr (.inl ⟨uid, p, rfl, pushed, rfl, rfl, _, rfl⟩)))
  | refresh =>
      simp only [step] at stepped
      split at stepped
      · rename_i pushed
        cases stepped
        exact .inr (.inr (.inr (.inr (.inl ⟨_, rfl, pushed, rfl⟩))))
      · cases stepped
  | pop =>
      simp only [step] at stepped
      split at stepped
      · rename_i p pushed
        cases stepped
        exact .inr (.inr (.inr (.inr (.inr (.inl ⟨p, rfl, pushed, rfl⟩)))))
      · rename_i top
        cases stepped
        exact .inr (.inr (.inr (.inr (.inr (.inr ⟨rfl, top, rfl⟩)))))
      · cases stepped

/-- On a stored row the detail screen gets the row's species. -/
theorem species_animalWith {favorite : Favorite} (member : favorite ∈ s.context.objects)
    (image : UIImage) :
    ((s.context.values deleted favorite).animalWith image).species = favorite.species.getD "" := by
  have values : s.context.values deleted favorite = favorite := by
    simp [Context.values, Context.isStored_of_mem member]
  rw [values]
  rfl

/-- The first tap on the heart of a row with a species deletes a stored row. -/
theorem gone_first_tap {ctx : Context} {p : PushedDetail} (codec : ImageCodec)
    (deleted : Favorite → Option String) (uid : Option String)
    (fresh : p.detail.favorites = ctx.objects) (item : p.item ∈ ctx.objects)
    (species : p.item.species = some p.animal.species) :
    ∃ row ∈ ctx.objects, (DetailItem.heartButtonClousure codec deleted p.animal uid true ctx
      p.detail).1.Gone row.objectID := by
  rw [DetailItem.heartButtonClousure_eq, DetailItem.animalObject_of_fresh deleted p.animal fresh]
  have found : p.item ∈ ctx.speciesRows p.animal := by
    simp [Context.speciesRows, item, species]
  cases rows : ctx.speciesRows p.animal with
  | nil => simp [rows] at found
  | cons row rest =>
      have member : row ∈ ctx.speciesRows p.animal := by simp [rows]
      have stored : row ∈ ctx.objects := (List.mem_filter.mp member).1
      exact ⟨row, stored, Context.Gone.of_deleteFavorite stored true⟩

/-- A tap keeps what is known of the detail screen. -/
theorem Follows.heart {ctx : Context} {vc : FavoriteVC} {p : PushedDetail}
    (follows : Follows ctx vc p) (deleted : Favorite → Option String) (uid : Option String)
    (detail : DetailItem) :
    Follows (DetailItem.heartButtonClousure codec deleted p.animal uid true ctx p.detail).1 vc
      { p with detail := detail, pending := p.pending + 1, taps := p.taps + 1 } where
  rows := follows.rows
  item := follows.item
  species := follows.species
  untapped none := absurd none (Nat.succ_ne_zero _)
  tapped _ named := by
    by_cases first : p.taps = 0
    · obtain ⟨store, snapshot⟩ := follows.untapped first
      have species : p.item.species = some p.animal.species := by
        rw [follows.species]
        cases known : p.item.species with
        | none => exact absurd known named
        | some species => rfl
      have tapped := gone_first_tap codec deleted uid (snapshot.trans store.symm)
        (store ▸ follows.item) species
      rwa [store] at tapped
    · obtain ⟨row, member, gone⟩ := follows.tapped first named
      exact ⟨row, member, gone.heartButtonClousure codec deleted p.animal uid true p.detail⟩

/-- Every event keeps what is known of a pushed detail screen, given that the
favourites screen shows the store when it is on top. -/
theorem stacked_step (stacked : Stacked s) (shows : Shows s) {event : StackEvent}
    (stepped : step codec deleted s event = some t) : Stacked t := by
  rcases step_cases stepped with ⟨-, closed, rfl⟩ | ⟨-, vc, favorite, -, -, -, -, top, -⟩ |
    ⟨item, vc, favorite, animal, -, opened, top, found, built, rfl⟩ |
    ⟨uid, p, -, pushed, vc, context, detail, tapped⟩ | ⟨p, -, pushed, rfl⟩ | ⟨p, -, -, rfl⟩ |
    ⟨-, top, rfl⟩
  · intro p pushed
    obtain ⟨vc, opened, -⟩ := stacked p pushed
    rw [closed] at opened
    cases opened
  · intro p pushed
    rw [top] at pushed
    cases pushed
  · intro p pushed
    obtain ⟨animal, isBuilt, rfl⟩ := Option.map_eq_some_iff.mp pushed
    have store := (shows top vc opened).rows
    have stored : favorite ∈ s.context.objects := List.mem_of_getElem? (store ▸ found)
    obtain ⟨image, -, rfl⟩ := Option.map_eq_some_iff.mp (built.symm.trans isBuilt)
    refine ⟨vc, opened, store, stored, species_animalWith stored image, fun _ => ⟨rfl, rfl⟩, ?_⟩
    intro tapped
    exact absurd rfl tapped
  · intro p' pushed'
    obtain ⟨vc', opened, follows⟩ := stacked p pushed
    cases tapped.symm.trans pushed'
    rw [context]
    exact ⟨vc', vc.trans opened, follows.heart _ uid detail⟩
  · rintro p' ⟨⟩
    obtain ⟨vc, opened, follows⟩ := stacked p pushed
    refine ⟨vc, opened, follows.rows, follows.item, follows.species, fun untapped => ?_,
      follows.tapped⟩
    obtain ⟨store, -⟩ := follows.untapped untapped
    exact ⟨store, store⟩
  · rintro p ⟨⟩
  · intro p pushed
    rw [top] at pushed
    cases pushed

/-- Leaving a detail screen keeps the favourites screen in step exactly when the
screen is left untapped, or with its rows on a row without a species. -/
theorem Follows.showsStored_iff {ctx : Context} {vc : FavoriteVC} {p : PushedDetail}
    (follows : Follows ctx vc p) :
    vc.ShowsStored ctx ↔ p.taps = 0 ∨ p.item.species = none ∧ ctx.objects = p.rows := by
  rw [FavoriteVC.showsStored_iff, follows.rows]
  by_cases untapped : p.taps = 0
  · exact iff_of_true (follows.untapped untapped).1.symm (.inl untapped)
  · by_cases unnamed : p.item.species = none
    · constructor
      · intro store
        exact .inr ⟨unnamed, store.symm⟩
      · rintro (none | ⟨-, store⟩)
        · exact absurd none untapped
        · exact store.symm
    · -- one of the rows is gone
      obtain ⟨row, member, -, gone⟩ := follows.tapped untapped unnamed
      refine iff_of_false ?_ ?_
      · intro store
        rw [store] at member
        exact gone row member rfl
      · rintro (none | ⟨none, -⟩)
        · exact untapped none
        · exact unnamed none

/-- A step keeps the favourites screen in step exactly when it leaves the rows of
a detail screen as asked. -/
theorem shows_step_iff (stacked : Stacked s) (shows : Shows s) {event : StackEvent}
    (stepped : step codec deleted s event = some t) : Shows t ↔ LeavesRows s event := by
  rcases step_cases stepped with ⟨rfl, closed, rfl⟩ |
    ⟨position, vc, favorite, rfl, -, -, -, -, cells, fetched⟩ |
    ⟨item, vc, favorite, animal, rfl, opened, top, -, -, rfl⟩ |
    ⟨uid, p, rfl, -, -, -, detail, tapped⟩ | ⟨p, rfl, pushed, rfl⟩ | ⟨p, rfl, pushed, rfl⟩ |
    ⟨rfl, top, rfl⟩
  · refine iff_of_true ?_ trivial
    rintro - vc ⟨⟩
    exact FavoriteVC.showsStored_iff.mpr rfl
  · refine iff_of_true ?_ trivial
    intro _ vc' here
    cases fetched.symm.trans here
    exact FavoriteVC.showsStored_iff.mpr rfl
  · refine iff_of_true ?_ trivial
    intro _
    exact shows top
  · refine iff_of_true ?_ trivial
    intro top
    rw [tapped] at top
    cases top
  · refine iff_of_true ?_ trivial
    rintro ⟨⟩
  · obtain ⟨vc, opened, follows⟩ := stacked p pushed
    constructor
    · intro now p' here
      cases pushed.symm.trans here
      exact follows.showsStored_iff.mp (now rfl vc opened)
    · intro leaves _ vc' here
      cases opened.symm.trans here
      exact follows.showsStored_iff.mpr (leaves p pushed)
  · refine iff_of_true ?_ ?_
    · rintro - vc ⟨⟩
    · intro p pushed
      rw [top] at pushed
      cases pushed

end Facts

/-- **When the favourites screen shows the store.** For every store and every run
of opening the favourites screen, unsaving, selecting, tapping the heart of the
detail screen with its refreshes, and going back: whenever the favourites screen
is on top its array is the store, and every row it can touch is stored, exactly
when each detail screen is left untapped, or was opened on a row without a species
and is left with the rows it was opened on. -/
theorem favorites_shown_iff (codec : ImageCodec) (deleted : Favorite → Favorite) (ctx : Context)
    (events : List StackEvent) :
    Always (step codec deleted) Shows ⟨ctx, none, none⟩ events ↔
      Meets (step codec deleted) LeavesRows ⟨ctx, none, none⟩ events := by
  apply always_iff_meets Stacked
  · intro s event t stacked shows stepped
    exact stacked_step stacked shows stepped
  · intro s event t stacked shows stepped
    exact shows_step_iff stacked shows stepped
  · intro s event refused
    cases event with
    | opens | unsave | select | heart | refresh => trivial
    | pop =>
        intro p pushed
        simp only [step] at refused
        split at refused
        · cases refused
        · cases refused
        · rename_i top
          rw [top] at pushed
          cases pushed
  · rintro p ⟨⟩
  · rintro - vc ⟨⟩

/-- Opening the only favourite, unsaving it on its detail screen and going back
leaves its deleted row on the favourites screen. -/
theorem favorites_show_deleted_row :
    ∃ t vc, run (step .raw id) ⟨(insertFavorite .raw .husky "alice" true .empty).2, none, none⟩
        [.opens, .select 0, .heart (some "alice"), .refresh, .pop] = some t ∧
      t.pushed = none ∧ t.vc = some vc ∧
      vc.favorites = [favoriteOf .raw .husky "alice" 0] ∧ getFavoriteOfCurrentUser t.context = [] ∧
      ¬ Always (step .raw id) Shows
        ⟨(insertFavorite .raw .husky "alice" true .empty).2, none, none⟩
        [.opens, .select 0, .heart (some "alice"), .refresh, .pop] := by
  refine ⟨_, _, rfl, rfl, rfl, rfl, rfl, fun always => ?_⟩
  have shown := (always.last rfl) rfl _ rfl
  cases shown.rows

end FavoriteStack

end PetApp
