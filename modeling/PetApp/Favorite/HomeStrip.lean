import PetApp.Favorite.FavoriteVC
import PetApp.Favorite.Toggle

/-!
The favourites strip of the home screen: `FavoriteTableCell.swift`.

A cell fetches the favourites when it awakes and observes
`notiFicationNameFavorite`; each notification makes it fetch again. Heart taps
and unsave taps post the notification after they have changed the store, and
`NotificationCenter.post` calls the observers before it returns.

* `mirrors_post` — after a notification every observer mirrors the store.
* `step_cases` — an event changes the store and posts, or leaves store and
  observers alone, or adds an observer that has just fetched.
* `home_strip_mirrors_store` — so every cell mirrors the store in every state,
  whatever screens are open and whatever the outcome of the saves.
-/

namespace PetApp

open Runs

/-- A `FavoriteTableCell`: its array, and whether its `noDataView` is hidden. -/
structure FavoriteTableCell where
  animalsFavorite : List Favorite
  isNoDataHidden : Bool
deriving DecidableEq

namespace FavoriteTableCell

/-- The favourites and the visibility `configCollectionView` sets. -/
def configCollectionView (ctx : Context) (cell : FavoriteTableCell) : FavoriteTableCell :=
  let animalsFavorite := getFavoriteOfCurrentUser ctx
  { cell with
    animalsFavorite := animalsFavorite
    isNoDataHidden := if animalsFavorite.length > 0 then true else false }

/-- `awakeFromNib`: the cell is registered by `getFavorite`, then configured. -/
def awakeFromNib (ctx : Context) (isNoDataHidden : Bool) : FavoriteTableCell :=
  configCollectionView ctx ⟨[], isNoDataHidden⟩

/-- `didUpdateFavorite`, up to the reload of the collection view. -/
def didUpdateFavorite (ctx : Context) (cell : FavoriteTableCell) : FavoriteTableCell :=
  let animalsFavorite := getFavoriteOfCurrentUser ctx
  { cell with
    animalsFavorite := animalsFavorite
    isNoDataHidden := if animalsFavorite.length > 0 then true else false }

/-- `collectionView(_:numberOfItemsInSection:)`. -/
def numberOfItemsInSection (cell : FavoriteTableCell) : Nat := cell.animalsFavorite.length

/-- What is asked of a cell: it holds the stored favourites, has one item for each
of them, and hides the placeholder exactly when there are some. -/
structure Mirrors (ctx : Context) (cell : FavoriteTableCell) : Prop where
  rows : cell.animalsFavorite = getFavoriteOfCurrentUser ctx
  count : cell.numberOfItemsInSection = (getFavoriteOfCurrentUser ctx).length
  noData : cell.isNoDataHidden = true ↔ getFavoriteOfCurrentUser ctx ≠ []

/-- A notification makes the cell mirror the store. -/
theorem mirrors_didUpdateFavorite (ctx : Context) (cell : FavoriteTableCell) :
    (cell.didUpdateFavorite ctx).Mirrors ctx where
  rows := rfl
  count := rfl
  noData := by
    simp only [didUpdateFavorite]
    rw [List.ne_nil_iff_length_pos]
    simp

/-- A cell that has just awoken mirrors the store. -/
theorem mirrors_awakeFromNib (ctx : Context) (isNoDataHidden : Bool) :
    (awakeFromNib ctx isNoDataHidden).Mirrors ctx :=
  mirrors_didUpdateFavorite ctx ⟨[], isNoDataHidden⟩

end FavoriteTableCell

/-! ### The screens and their notifications -/

/-- The store, the cells that observe it, and the detail and favourites screens
that are open, each with a snapshot of its own. -/
structure Screens where
  context : Context
  observers : List FavoriteTableCell
  details : List Visit
  favoriteVCs : List FavoriteVC

inductive ScreenEvent where
  /-- A home cell awakes; its placeholder is hidden in the nib or not. -/
  | awakeFromNib (isNoDataHidden : Bool)
  | opensDetail (animal : Animal)
  /-- A tap on the heart of an open detail screen. -/
  | heart (screen : Nat) (uid : Option String) (saves : Bool)
  /-- The block that a heart tap has left to the main queue. -/
  | refresh (screen : Nat)
  | leavesDetail (screen : Nat)
  | opensFavorites
  /-- A tap on the unsave button of a cell that captured `indexPath`. -/
  | unsave (screen : Nat) (indexPath : Nat) (saves : Bool)
  | leavesFavorites (screen : Nat)

namespace Screens

/-- The store with `n` cells awoken on it and no other screen open. -/
def launched (ctx : Context) (isNoDataHidden : Bool) (n : Nat) : Screens where
  context := ctx
  observers := List.replicate n (.awakeFromNib ctx isNoDataHidden)
  details := []
  favoriteVCs := []

/-- `NotificationCenter.default.post(name: notiFicationNameFavorite)` after the
store has become `ctx`. -/
def post (ctx : Context) (s : Screens) : Screens :=
  { s with context := ctx, observers := s.observers.map (·.didUpdateFavorite ctx) }

section Machine

variable (codec : ImageCodec) (deleted : Favorite → Option String)

/-- One event. `none` when the named screen is not open, when no refresh is
queued, or when an unsave closure indexes out of range. -/
def step (s : Screens) : ScreenEvent → Option Screens
  | .awakeFromNib isNoDataHidden =>
      some { s with observers := s.observers ++ [.awakeFromNib s.context isNoDataHidden] }
  | .opensDetail animal =>
      some { s with details := s.details ++ [⟨animal, .opened deleted s.context animal, 0⟩] }
  | .heart screen uid saves =>
      s.details[screen]?.map fun visit =>
        let after := DetailItem.heartButtonClousure codec deleted visit.animal uid saves s.context
          visit.detail
        -- the notification precedes the refresh, which is only queued here
        let tapped : Visit := { visit with detail := after.2, pending := visit.pending + 1 }
        { s.post after.1 with details := s.details.set screen tapped }
  | .refresh screen =>
      match s.details[screen]? with
      | some ⟨animal, detail, pending + 1⟩ =>
          some { s with
            details := s.details.set screen ⟨animal, detail.refresh s.context, pending⟩ }
      | _ => none
  | .leavesDetail screen => some { s with details := s.details.eraseIdx screen }
  | .opensFavorites => some { s with favoriteVCs := s.favoriteVCs ++ [.opened s.context] }
  | .unsave screen indexPath saves => do
      let vc ← s.favoriteVCs[screen]?
      let after ← vc.unsaveFavoriteClousure indexPath saves s.context
      return { s.post after.1 with favoriteVCs := s.favoriteVCs.set screen after.2 }
  | .leavesFavorites screen => some { s with favoriteVCs := s.favoriteVCs.eraseIdx screen }

end Machine

/-- Every home cell mirrors the store. -/
def Mirrored (s : Screens) : Prop := ∀ cell ∈ s.observers, cell.Mirrors s.context

section Facts

variable {codec : ImageCodec} {deleted : Favorite → Option String} {s t : Screens}

/-- After a notification every observer mirrors the store. -/
theorem mirrors_post (ctx : Context) (s : Screens) : Mirrored (s.post ctx) := by
  intro cell member
  obtain ⟨before, -, rfl⟩ := List.mem_map.mp member
  exact FavoriteTableCell.mirrors_didUpdateFavorite ctx before

/-- What one event does to the store and its observers: a tap changes the store
and notifies them, a cell that awakes joins them, and nothing else touches
either. -/
theorem step_cases {event : ScreenEvent} (stepped : step codec deleted s event = some t) :
    (∃ ctx, t.context = (s.post ctx).context ∧ t.observers = (s.post ctx).observers) ∨
    (∃ isNoDataHidden, t.context = s.context ∧
      t.observers = s.observers ++ [.awakeFromNib s.context isNoDataHidden]) ∨
    (t.context = s.context ∧ t.observers = s.observers) := by
  cases event with
  | awakeFromNib isNoDataHidden =>
      cases stepped
      exact .inr (.inl ⟨isNoDataHidden, rfl, rfl⟩)
  | opensDetail animal =>
      cases stepped
      exact .inr (.inr ⟨rfl, rfl⟩)
  | heart screen uid saves =>
      obtain ⟨visit, -, rfl⟩ := Option.map_eq_some_iff.mp stepped
      exact .inl ⟨_, rfl, rfl⟩
  | refresh screen =>
      simp only [step] at stepped
      split at stepped
      · cases stepped
        exact .inr (.inr ⟨rfl, rfl⟩)
      · cases stepped
  | leavesDetail screen =>
      cases stepped
      exact .inr (.inr ⟨rfl, rfl⟩)
  | opensFavorites =>
      cases stepped
      exact .inr (.inr ⟨rfl, rfl⟩)
  | unsave screen indexPath saves =>
      simp only [step, Option.bind_eq_bind, Option.bind_eq_some_iff, Option.pure_def,
        Option.some.injEq] at stepped
      obtain ⟨vc, -, after, -, rfl⟩ := stepped
      exact .inl ⟨after.1, rfl, rfl⟩
  | leavesFavorites screen =>
      cases stepped
      exact .inr (.inr ⟨rfl, rfl⟩)

/-- Every event keeps the cells in step with the store. -/
theorem mirrored_step (mirrored : Mirrored s) {event : ScreenEvent}
    (stepped : step codec deleted s event = some t) : Mirrored t := by
  rcases step_cases stepped with ⟨ctx, context, observers⟩ |
    ⟨isNoDataHidden, context, observers⟩ | ⟨context, observers⟩
  · have posted := mirrors_post ctx s
    unfold Mirrored at posted ⊢
    rwa [context, observers]
  · intro cell member
    rw [observers, List.mem_append, List.mem_singleton] at member
    rw [context]
    rcases member with old | rfl
    · exact mirrored cell old
    · exact FavoriteTableCell.mirrors_awakeFromNib s.context isNoDataHidden
  · unfold Mirrored at mirrored ⊢
    rwa [context, observers]

theorem mirrored_launched (ctx : Context) (isNoDataHidden : Bool) (n : Nat) :
    Mirrored (launched ctx isNoDataHidden n) := by
  intro cell member
  rw [List.eq_of_mem_replicate member]
  exact FavoriteTableCell.mirrors_awakeFromNib ctx isNoDataHidden

end Facts

/-- **The home strip mirrors the store.** For every store, every number of awoken
cells and every run of heart taps on any detail screens and unsave taps on any
favourites screens, with the screens opened and left at any time and whatever the
outcome of each save: in every state each cell holds the stored favourites, has
one item for each and hides its placeholder exactly when there are some. -/
theorem home_strip_mirrors_store (codec : ImageCodec) (deleted : Favorite → Option String)
    (ctx : Context) (isNoDataHidden : Bool) (n : Nat) (events : List ScreenEvent) :
    Always (step codec deleted) Mirrored (launched ctx isNoDataHidden n) events := by
  apply always_of_steps
  · intro s event _ t mirrored stepped
    exact mirrored_step mirrored stepped
  · exact mirrored_launched ctx isNoDataHidden n

end Screens

end PetApp
