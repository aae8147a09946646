import PetApp.Favorite.Store

/-!
Cells that are used again: `prepareForReuse` and `configData` of `FavoriteCell.swift`,
`FavoriteCollectionCell.swift` and `CategoriesCell.swift`.

A collection view hands out a cell that scrolled away again, after `prepareForReuse`.
`FavoriteCollectionCell` answers with an empty image. `FavoriteCell` and `CategoriesCell`
set the outlet itself to `nil`: the image view stays in the cell with the image it has,
and no later `configData` reaches it.

* `cleared_shows` — a cell that empties its image shows what it was configured with last.
* `foldl_dropsOutlet` — a cell that drops its outlet keeps the image it had then.
* `favoriteCell_shows_iff` — so a reused `FavoriteCell` shows its items exactly when they
  all have the image it showed before its first reuse.
* `favoriteCell_stuck` — reused for rows of the favourites, it goes on showing the first.
-/

namespace PetApp

/-- A cell with an image view: whether the outlet still refers to the image view, and
the image the image view displays. -/
structure ImageCell where
  isConnected : Bool
  shown : Option UIImage
deriving DecidableEq

/-- A call of one of the two methods; `source` is what the image is loaded from. -/
inductive CellCall (σ : Type) where
  | prepareForReuse
  | configData (source : σ)
deriving DecidableEq

namespace ImageCell

/-- `outlet?.image = image`. -/
def setImage (image : Option UIImage) (cell : ImageCell) : ImageCell :=
  if cell.isConnected then { cell with shown := image } else cell

/-- `outlet = nil`. -/
def dropsOutlet (cell : ImageCell) : ImageCell := { cell with isConnected := false }

/-- `outlet?.image = nil`. -/
def cleared (cell : ImageCell) : ImageCell := cell.setImage none

/-- One call, for a class with the given `prepareForReuse` and image loader. -/
def step {σ : Type} (prepareForReuse : ImageCell → ImageCell) (load : σ → Option UIImage)
    (cell : ImageCell) : CellCall σ → ImageCell
  | .prepareForReuse => prepareForReuse cell
  | .configData source => cell.setImage (load source)

end ImageCell

/-! ### The three classes -/

namespace FavoriteCell

/-- `FavoriteCell.prepareForReuse`. -/
def prepareForReuse : ImageCell → ImageCell := ImageCell.dropsOutlet

/-- A call on a `FavoriteCell`: `configData` loads with `UIImage(data:)`. -/
def step (codec : ImageCodec) : ImageCell → CellCall Data → ImageCell :=
  ImageCell.step prepareForReuse codec.decode

end FavoriteCell

namespace FavoriteCollectionCell

/-- `FavoriteCollectionCell.prepareForReuse`. -/
def prepareForReuse : ImageCell → ImageCell := ImageCell.cleared

/-- A call on a `FavoriteCollectionCell`: `configDataUI` loads with `UIImage(data:)`. -/
def step (codec : ImageCodec) : ImageCell → CellCall Data → ImageCell :=
  ImageCell.step prepareForReuse codec.decode

end FavoriteCollectionCell

namespace CategoriesCell

/-- `CategoriesCell.prepareForReuse`. The label it also drops is never configured. -/
def prepareForReuse : ImageCell → ImageCell := ImageCell.dropsOutlet

/-- A call on a `CategoriesCell`: `configData` loads with `UIImage(named:)`. -/
def step (named : String → Option UIImage) : ImageCell → CellCall String → ImageCell :=
  ImageCell.step prepareForReuse named

end CategoriesCell

/-! ### What a cell shows -/

namespace ImageCell

variable {σ : Type} {load : σ → Option UIImage}

/-- After each `configData` of the calls, the cell shows the image of its source. -/
def ShowsEach (step : ImageCell → CellCall σ → ImageCell) (load : σ → Option UIImage)
    (cell : ImageCell) (calls : List (CellCall σ)) : Prop :=
  ∀ before source after, calls = before ++ .configData source :: after →
    ((before ++ [.configData source]).foldl step cell).shown = load source

/-- The image of a connected cell when it is first reused: that of the last
`configData` before, or the one the cell came with. -/
def beforeReuse (load : σ → Option UIImage) (shown : Option UIImage) :
    List (CellCall σ) → Option UIImage
  | [] => shown
  | .prepareForReuse :: _ => shown
  | .configData source :: calls => beforeReuse load (load source) calls

/-- Once the outlet is dropped, no call changes what the cell shows. -/
theorem foldl_dropped (shown : Option UIImage) (calls : List (CellCall σ)) :
    calls.foldl (step dropsOutlet load) ⟨false, shown⟩ = ⟨false, shown⟩ := by
  induction calls with
  | nil => rfl
  | cons call calls ih =>
      cases call with
      | prepareForReuse => exact ih
      | configData source => exact ih

/-- What a cell that drops its outlet is after any calls: connected as long as it was
not reused, and with the image it had then. -/
theorem foldl_dropsOutlet (shown : Option UIImage) (calls : List (CellCall σ)) :
    calls.foldl (step dropsOutlet load) ⟨true, shown⟩ =
      ⟨!calls.any (fun call => call matches .prepareForReuse), beforeReuse load shown calls⟩ := by
  induction calls generalizing shown with
  | nil => rfl
  | cons call calls ih =>
      cases call with
      | prepareForReuse => exact foldl_dropped shown calls
      | configData source => exact ih (load source)

/-- A cell that drops its outlet shows its items exactly when each item it is given
after a reuse has the image it showed before its first reuse. -/
theorem showsEach_dropsOutlet_iff (shown : Option UIImage) (calls : List (CellCall σ)) :
    ShowsEach (step dropsOutlet load) load ⟨true, shown⟩ calls ↔
      ∀ before source after, calls = before ++ .configData source :: after →
        .prepareForReuse ∈ before → load source = beforeReuse load shown before := by
  apply forall₄_congr
  intro before source after _
  rw [List.foldl_append, foldl_dropsOutlet]
  by_cases reused : .prepareForReuse ∈ before
  · have dropped : (before.any fun call => call matches .prepareForReuse) = true :=
      List.any_eq_true.mpr ⟨_, reused, rfl⟩
    rw [dropped]
    constructor
    · intro shows _
      exact shows.symm
    · intro same
      exact (same reused).symm
  · have connected : (before.any fun call => call matches .prepareForReuse) = false := by
      rw [List.any_eq_false]
      intro call member
      cases call with
      | prepareForReuse => exact absurd member reused
      | configData source => simp
    rw [connected]
    constructor
    · intro _ inBefore
      exact absurd inBefore reused
    · intro _
      rfl

/-- A cell that empties its image stays connected. -/
theorem foldl_cleared_isConnected (load : σ → Option UIImage) (shown : Option UIImage)
    (calls : List (CellCall σ)) :
    (calls.foldl (step cleared load) ⟨true, shown⟩).isConnected = true := by
  induction calls generalizing shown with
  | nil => rfl
  | cons call calls ih =>
      cases call with
      | prepareForReuse => exact ih none
      | configData source => exact ih (load source)

/-- A cell that empties its image shows every item. -/
theorem cleared_shows (shown : Option UIImage) (calls : List (CellCall σ)) :
    ShowsEach (step cleared load) load ⟨true, shown⟩ calls := by
  intro before source after _
  have connected := foldl_cleared_isConnected load shown before
  rw [List.foldl_append, List.foldl_cons, List.foldl_nil, step, setImage, if_pos connected]

end ImageCell

/-! ### The cells of the two favourites lists -/

/-- **When a reused favourite cell shows its new item.** After each `configData` a
`FavoriteCell` whose outlets were connected to start with shows the image of the data,
exactly when each `configData` that follows a `prepareForReuse` is given data of the image
the cell showed at its first `prepareForReuse`. -/
theorem favoriteCell_shows_iff (codec : ImageCodec) (shown : Option UIImage)
    (calls : List (CellCall Data)) :
    ImageCell.ShowsEach (FavoriteCell.step codec) codec.decode ⟨true, shown⟩ calls ↔
      ∀ before data after, calls = before ++ .configData data :: after →
        .prepareForReuse ∈ before →
        codec.decode data = ImageCell.beforeReuse codec.decode shown before :=
  ImageCell.showsEach_dropsOutlet_iff shown calls

/-- A cell used again for another image keeps the first. -/
theorem favoriteCell_keeps_first :
    (∀ data ∈ [[1], [2]], (ImageCodec.raw.decode data).isSome = true) ∧
      ([.configData [1], .prepareForReuse, .configData [2]].foldl (FavoriteCell.step .raw)
        ⟨true, none⟩).shown = ImageCodec.raw.decode [1] ∧
      ¬ImageCell.ShowsEach (FavoriteCell.step .raw) ImageCodec.raw.decode ⟨true, none⟩
        [.configData [1], .prepareForReuse, .configData [2]] := by
  refine ⟨by simp [ImageCodec.raw], rfl, ?_⟩
  intro shows
  have last := shows [.configData [1], .prepareForReuse] [2] [] rfl
  cases last

/-- The sibling class of the home screen shows every item. -/
theorem favoriteCollectionCell_shows (codec : ImageCodec) (shown : Option UIImage)
    (calls : List (CellCall Data)) :
    ImageCell.ShowsEach (FavoriteCollectionCell.step codec) codec.decode ⟨true, shown⟩ calls :=
  ImageCell.cleared_shows shown calls

/-- The categories of the home screen have the same condition as the favourites. -/
theorem categoriesCell_shows_iff (named : String → Option UIImage) (shown : Option UIImage)
    (calls : List (CellCall String)) :
    ImageCell.ShowsEach (CategoriesCell.step named) named ⟨true, shown⟩ calls ↔
      ∀ before name after, calls = before ++ .configData name :: after →
        .prepareForReuse ∈ before → named name = ImageCell.beforeReuse named shown before :=
  ImageCell.showsEach_dropsOutlet_iff shown calls

/-- The calls on a cell that `cellForItemAt` of `FavoriteVC` dequeues for a row and then
again for others. -/
def FavoriteCell.dequeued (first : Favorite) (others : List Favorite) : List (CellCall Data) :=
  .configData (first.image.getD []) ::
    others.flatMap fun favorite => [.prepareForReuse, .configData (favorite.image.getD [])]

/-- However often it is dequeued again, a `FavoriteCell` goes on showing its first row. -/
theorem favoriteCell_stuck (codec : ImageCodec) (shown : Option UIImage) (first : Favorite)
    (others : List Favorite) :
    ((FavoriteCell.dequeued first others).foldl (FavoriteCell.step codec) ⟨true, shown⟩).shown =
      codec.decode (first.image.getD []) := by
  rw [FavoriteCell.step, FavoriteCell.prepareForReuse, ImageCell.foldl_dropsOutlet]
  cases others with
  | nil => rfl
  | cons favorite others => rfl

end PetApp
