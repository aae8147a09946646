import PetApp.Favorite.FavoriteVC
import PetApp.Layout.Geometry

/-!
What the removal of an item does to the layout of the favourites.

`unsaveFavoriteClousure` deletes an item of the collection view, whose layout object has its
cache already and keeps it. The next `FavoriteVC` opens with a new `PinterestLayout` for the
remaining items. The items are dealt to the columns in turn, so every item after the removed one
changes its column there.

* `layout_follows_unchanged_iff` — a layout object follows the data exactly while they are
  unchanged.
* `unsave_leaves_missing_item` — after an unsave it returns the index path of a missing item.
* `heightOf_eraseIdx` — the heights that remain, as the heights without that of one item.
* `columnHeight_eraseIdx_of_le`, `columnHeight_eraseIdx` — the columns of the remaining items.
* `removal_swaps_columns` — the items before the removed one stay where they are; those after it
  keep their sizes, go to the other column and move by one amount for each column.
-/

namespace PetApp

open Columns

/-! ### The layout object that stays -/

namespace PinterestLayout

section Kept

variable {R : Type} [NatCast R] [Add R] [Sub R] [Mul R] [Div R] [Max R] [LT R] [DecidableLT R]

/-- **When the layout follows the data.** For every sequence of data changes, each followed by
`prepare`, in any arithmetic: while the content width and the items with their heights are those
of the first `prepare` that found an item, the layout follows the data after every `prepare`. It
does not once the number of items has changed. In exact arithmetic, with room for the padding,
it follows the data throughout exactly when they are unchanged. -/
theorem layout_follows_unchanged_iff :
    (∀ views : List (CollectionView R), Unchanged views → FollowsThroughout views) ∧
      (∀ views : List (CollectionView R), FollowsThroughout views →
        ∀ pre view post first, views = pre ++ view :: post →
          pre.find? CollectionView.hasItems = some first →
            view.numberOfItems = first.numberOfItems) ∧
      ∀ views : List (CollectionView ℚ), (∀ view ∈ views, Roomy view) →
        (FollowsThroughout views ↔ Unchanged views) := by
  refine ⟨fun views => followsThroughout_of_unchanged, ?_, ?_⟩
  · intro views follows pre view post first split found
    exact numberOfItems_eq_of_fresh_eq
      (followsThroughout_iff.mp follows pre view post first split found)
  · intro views roomy
    refine ⟨?_, followsThroughout_of_unchanged⟩
    intro follows pre view post first split found
    have ofView : Roomy view := roomy view (by simp [split])
    have ofFirst : Roomy first := roomy first (by simp [split, List.mem_of_find?_eq_some found])
    exact sameData_of_fresh_eq ofView ofFirst (List.find?_some found)
      (followsThroughout_iff.mp follows pre view post first split found)

end Kept

end PinterestLayout

namespace FavoriteVC

/-- `collectionView(_:heightForCellAtIndexPath:)` for a favourite: the height of
its image, zero when the data are no image. -/
def heightForCell (codec : ImageCodec) (favorite : Favorite) : ℚ :=
  match codec.decode (favorite.image.getD []) with
  | none => 0
  | some image => image.height

/-- The collection view of the screen, with the insets `configUI` gives it. -/
def collectionView (codec : ImageCodec) (boundsWidth : ℚ) (vc : FavoriteVC) : CollectionView ℚ where
  boundsWidth := boundsWidth
  insetLeft := 5
  insetRight := 5
  heights := vc.favorites.map (heightForCell codec)

end FavoriteVC

namespace PinterestLayout

open FavoriteScreen

/-- The collection view of the two favourites, 110 wide. -/
def beforeUnsave : CollectionView ℚ := (FavoriteVC.opened twoFavorites).collectionView .raw 110

/-- The same after the second favourite has been unsaved. -/
def afterUnsave : CollectionView ℚ where
  boundsWidth := 110
  insetLeft := 5
  insetRight := 5
  heights := [1]

/-- After an unsave the layout still holds and returns the attributes of the
removed item. -/
theorem unsave_leaves_missing_item :
    (((FavoriteScreen.opened twoFavorites).unsave 1).map fun t => t.vc.collectionView .raw 110) =
        some afterUnsave ∧
      afterUnsave.numberOfItems = 1 ∧
      (((prepareAll [beforeUnsave, afterUnsave]).layoutAttributesForElements fun _ => true).map
        Attributes.item) = [0, 1] ∧
      ¬ FollowsThroughout [beforeUnsave, afterUnsave] := by
  refine ⟨rfl, rfl, by decide, fun follows => ?_⟩
  have items := (follows [beforeUnsave] afterUnsave [] rfl).items
  revert items
  decide

end PinterestLayout

/-! ### The layout of a new object -/

/-- The collection view when an item has been removed. -/
def CollectionView.without {R : Type} (item : Nat) (view : CollectionView R) : CollectionView R :=
  { view with heights := view.heights.eraseIdx item }

namespace PinterestLayout

/-- The left edge of the items of a column. -/
def columnX (contentWidth : ℚ) (column : Nat) : ℚ := column * contentWidth / 2 + 5

/-- How far the items that come to a column move down when `item` is removed: from the height
at which the other column stood after it to the height of this column before it. -/
def shift (heights : List ℚ) (item column : Nat) : ℚ :=
  columnHeight heights item column -
    columnHeight heights (item + 1) ((column + 1) % numberOfColumns)

section Facts

variable {heights : List ℚ} {item n : Nat}

theorem heightOf_eraseIdx (heights : List ℚ) (item j : Nat) :
    heightOf (heights.eraseIdx item) j = skip item (heightOf heights) j := by
  unfold heightOf skip
  rw [List.getD_eq_getElem?_getD, List.getElem?_eraseIdx]
  split <;> exact (List.getD_eq_getElem?_getD ..).symm

/-- The padded heights without that of one item. -/
theorem padded_eraseIdx (heights : List ℚ) (item : Nat) :
    (fun j => heightOf (heights.eraseIdx item) j + 10) =
      skip item fun j => heightOf heights j + 10 := by
  funext j
  rw [heightOf_eraseIdx]
  unfold skip
  split <;> rfl

theorem columnHeight_eraseIdx_of_le (le : n ≤ item) (column : Nat) :
    columnHeight (heights.eraseIdx item) n column = columnHeight heights n column := by
  unfold columnHeight
  rw [padded_eraseIdx]
  exact stacked_skip_of_le le column

/-- The height of a column of the remaining items, in terms of the other column before. -/
theorem columnHeight_eraseIdx (heights : List ℚ) (le : item ≤ n) {column : Nat}
    (inRange : column < numberOfColumns) :
    columnHeight (heights.eraseIdx item) n column =
      columnHeight heights (n + 1) ((column + 1) % numberOfColumns) + shift heights item column := by
  have dealt := stacked_skip_add (fun j => heightOf heights j + 10) inRange le
  unfold shift columnHeight
  rw [padded_eraseIdx]
  linarith

/-- The items before the removed one stay. -/
theorem frameOf_eraseIdx_of_lt (contentWidth : ℚ) {i : Nat} (earlier : i < item) :
    frameOf contentWidth (heights.eraseIdx item) i = frameOf contentWidth heights i := by
  unfold frameOf
  rw [columnHeight_eraseIdx_of_le earlier.le, heightOf_eraseIdx, skip_of_lt earlier]

/-- The items after the removed one change their column. -/
theorem frameOf_eraseIdx (contentWidth : ℚ) {i : Nat} (later : item ≤ i) :
    frameOf contentWidth (heights.eraseIdx item) i =
      { frameOf contentWidth heights (i + 1) with
        x := columnX contentWidth (i % numberOfColumns)
        y := (frameOf contentWidth heights (i + 1)).y +
          shift heights item (i % numberOfColumns) } := by
  have column : (i % numberOfColumns + 1) % numberOfColumns = (i + 1) % numberOfColumns :=
    Nat.mod_add_mod i numberOfColumns 1
  have height : heightOf (heights.eraseIdx item) i = heightOf heights (i + 1) := by
    rw [heightOf_eraseIdx, skip_of_le later]
  have y := columnHeight_eraseIdx heights later (Nat.mod_lt i (by decide))
  rw [column] at y
  unfold frameOf columnX
  rw [height, y, add_assoc]

end Facts

/-- **A removed item moves all later ones to the other column.** For a content width of at least
20 and heights that are not negative: when an item is removed, a new layout gives every item
before it the frame it had. Every item after it keeps its width and height, goes to the other
column, and moves down by an amount that depends on the column only. -/
theorem removal_swaps_columns (view : CollectionView ℚ) (wide : 20 ≤ contentWidth (some view))
    (nonneg : ∀ height ∈ view.heights, 0 ≤ height) (item : Nat)
    (inRange : item < view.numberOfItems) :
    (∀ i < item, (fresh (view.without item)).frameAt i = (fresh view).frameAt i) ∧
      ∀ i, item ≤ i → i + 1 < view.numberOfItems →
        ∃ before after, (fresh view).frameAt (i + 1) = some before ∧
          (fresh (view.without item)).frameAt i = some after ∧
          before.x = columnX (contentWidth (some view)) ((i + 1) % numberOfColumns) ∧
          after = { before with
            x := columnX (contentWidth (some view)) (i % numberOfColumns)
            y := before.y + shift view.heights item (i % numberOfColumns) } := by
  have before : Roomy view := ⟨wide, nonneg⟩
  have after : Roomy (view.without item) :=
    ⟨wide, fun height member => nonneg height (List.mem_of_mem_eraseIdx member)⟩
  have fewer : (view.without item).numberOfItems + 1 = view.numberOfItems := by
    have length := List.length_eraseIdx_add_one inRange
    exact length
  constructor
  · intro i earlier
    rw [frameAt_fresh after (by omega),
      frameAt_fresh before (by omega)]
    exact congrArg some (frameOf_eraseIdx_of_lt _ earlier)
  · intro i later inside
    refine ⟨_, _, frameAt_fresh before inside,
      frameAt_fresh after (by omega), rfl, ?_⟩
    exact frameOf_eraseIdx _ later

/-- Four favourites on a content 100 wide. -/
def fourFavorites : CollectionView ℚ := ⟨110, 5, 5, [30, 20, 0, 40]⟩

/-- When the second of them is removed, the third comes to its place in the right column. -/
theorem removal_swaps_columns_four :
    ∃ before after, (fresh fourFavorites).frameAt 2 = some before ∧
      (fresh (fourFavorites.without 1)).frameAt 1 = some after ∧
      before.x = 5 ∧ after.x = 55 ∧ after.y = before.y - 40 := by
  have wide : 20 ≤ contentWidth (some fourFavorites) := by
    simp only [contentWidth, fourFavorites]
    norm_num
  have nonneg : ∀ height ∈ fourFavorites.heights, 0 ≤ height := by
    simp [fourFavorites]
  obtain ⟨before, after, here, there, x, rfl⟩ :=
    (removal_swaps_columns fourFavorites wide nonneg 1 (by decide)).2 1 le_rfl (by decide)
  refine ⟨before, _, here, there, ?_, ?_, ?_⟩
  · rw [x]
    norm_num [columnX]
  · norm_num [columnX, contentWidth, fourFavorites]
  · norm_num [shift, columnHeight, stacked, Finset.sum_filter, Finset.sum_range_succ, heightOf,
      fourFavorites]
    ring

end PinterestLayout

end PetApp
