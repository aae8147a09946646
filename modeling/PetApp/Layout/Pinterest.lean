import Mathlib.Data.List.Range
import Mathlib.Logic.Function.Basic

/-!
The two-column layout of the favourites: `PinterestLayout.swift`.

`prepare` lays the items out column by column and fills the cache of attributes;
it does so only while the cache is empty ("Only calculate once"), and nothing
ever empties the cache. The arithmetic of `CGFloat` is a type with operations of
which no law is assumed, so the results hold for rounded arithmetic too.

* `fresh` — the layout a new object computes for a collection view.
* `map_item_fresh` — it has one attributes object per item, in item order.
* `prepareAll_eq` — after any sequence of data changes, each followed by
  `prepare`, the layout is the fresh layout of the first data with an item.
* `followsThroughout_iff` — so it follows the data exactly while their fresh layout is
  the one of these first data.
* `followsThroughout_of_unchanged` — it does while the data are unchanged.
-/

namespace PetApp

/-! ### Rectangles -/

/-- A `CGRect` other than the null rectangle. -/
structure CGRect (R : Type) where
  x : R
  y : R
  width : R
  height : R
deriving DecidableEq

namespace CGRect

variable {R : Type} [NatCast R] [Add R] [Sub R] [Mul R] [LT R] [DecidableLT R]

/-- `standardized`: the same rectangle with a width and height that are not
negative. -/
def standardized (rect : CGRect R) : CGRect R where
  x := if rect.width < (0 : Nat) then rect.x + rect.width else rect.x
  y := if rect.height < (0 : Nat) then rect.y + rect.height else rect.y
  width := if rect.width < (0 : Nat) then (0 : Nat) - rect.width else rect.width
  height := if rect.height < (0 : Nat) then (0 : Nat) - rect.height else rect.height

/-- `maxY`. -/
def maxY (rect : CGRect R) : R := rect.standardized.y + rect.standardized.height

/-- `insetBy(dx:dy:)`; `none` is the null rectangle. -/
def insetBy (dx dy : R) (rect : CGRect R) : Option (CGRect R) :=
  let standard := rect.standardized
  let width := standard.width - (2 : Nat) * dx
  let height := standard.height - (2 : Nat) * dy
  if width < (0 : Nat) ∨ height < (0 : Nat) then none
  else some ⟨standard.x + dx, standard.y + dy, width, height⟩

end CGRect

/-! ### The layout -/

/-- What the layout reads of its collection view: its width, the insets, and the
height its delegate gives each item of the section. -/
structure CollectionView (R : Type) where
  boundsWidth : R
  insetLeft : R
  insetRight : R
  heights : List R

namespace CollectionView

variable {R : Type}

def numberOfItems (collectionView : CollectionView R) : Nat := collectionView.heights.length

/-- The section has an item. -/
def hasItems (collectionView : CollectionView R) : Bool := !collectionView.heights.isEmpty

end CollectionView

/-- `UICollectionViewLayoutAttributes`: the item and its frame, `none` for the
null rectangle. -/
structure Attributes (R : Type) where
  item : Nat
  frame : Option (CGRect R)
deriving DecidableEq

/-- The stored state of a `PinterestLayout`. -/
structure PinterestLayout (R : Type) where
  cache : List (Attributes R)
  contentHeight : R
deriving DecidableEq

namespace PinterestLayout

abbrev numberOfColumns : Nat := 2

section Layout

variable {R : Type} [NatCast R] [Add R] [Sub R] [Mul R] [Div R] [Max R] [LT R] [DecidableLT R]

def cellPadding : R := (5 : Nat)

/-- A new layout object. -/
def empty : PinterestLayout R := ⟨[], (0 : Nat)⟩

/-- `contentWidth`. -/
def contentWidth (collectionView : Option (CollectionView R)) : R :=
  match collectionView with
  | none => (0 : Nat)
  | some view => view.boundsWidth - (view.insetLeft + view.insetRight)

/-- `collectionViewContentSize`, as width and height. -/
def collectionViewContentSize (collectionView : Option (CollectionView R))
    (layout : PinterestLayout R) : R × R :=
  (contentWidth collectionView, layout.contentHeight)

/-- The variables of the loop of `prepare`. -/
structure Pass (R : Type) where
  layout : PinterestLayout R
  column : Fin numberOfColumns
  yOffset : Fin numberOfColumns → R

/-- `column < (numberOfColumns - 1) ? (column + 1) : 0`. -/
def nextColumn (column : Fin numberOfColumns) : Fin numberOfColumns :=
  if h : column.val < numberOfColumns - 1 then ⟨column.val + 1, by omega⟩ else ⟨0, by decide⟩

/-- The body of the loop for one item, with the height the delegate gives it. -/
def place (columnWidth : R) (pass : Pass R) (photoHeight : R) (item : Nat) : Pass R :=
  let xOffset : Fin numberOfColumns → R := fun column => (column.val : Nat) * columnWidth
  let height := cellPadding * (2 : Nat) + photoHeight
  let frame : CGRect R := ⟨xOffset pass.column, pass.yOffset pass.column, columnWidth, height⟩
  let insetFrame := frame.insetBy cellPadding cellPadding
  { layout :=
      { cache := pass.layout.cache ++ [⟨item, insetFrame⟩]
        contentHeight := max pass.layout.contentHeight frame.maxY }
    column := nextColumn pass.column
    yOffset := Function.update pass.yOffset pass.column (pass.yOffset pass.column + height) }

/-- The loop of `prepare` over the items from `item` on. -/
def placeAll (columnWidth : R) : (item : Nat) → List R → Pass R → Pass R
  | _, [], pass => pass
  | item, photoHeight :: heights, pass =>
      placeAll columnWidth (item + 1) heights (place columnWidth pass photoHeight item)

/-- `prepare`. -/
def prepare (collectionView : Option (CollectionView R)) (layout : PinterestLayout R) :
    PinterestLayout R :=
  if layout.cache.isEmpty then
    match collectionView with
    | none => layout
    | some view =>
        let columnWidth := contentWidth (some view) / (numberOfColumns : Nat)
        (placeAll columnWidth 0 view.heights ⟨layout, ⟨0, by decide⟩, fun _ => (0 : Nat)⟩).layout
  else layout

/-- `layoutAttributesForElements(in:)`. `intersects` says which frames intersect
the rectangle. -/
def layoutAttributesForElements (intersects : Option (CGRect R) → Bool)
    (layout : PinterestLayout R) : List (Attributes R) :=
  layout.cache.filter fun attributes => intersects attributes.frame

/-- `layoutAttributesForItem(at:)`; `none` is an index out of range. -/
def layoutAttributesForItem (item : Nat) (layout : PinterestLayout R) : Option (Attributes R) :=
  layout.cache[item]?

/-- The layout a new object computes. -/
def fresh (view : CollectionView R) : PinterestLayout R := prepare (some view) empty

/-- The layout after a sequence of data changes, each followed by `prepare`. -/
def prepareAll (views : List (CollectionView R)) : PinterestLayout R :=
  views.foldl (fun layout view => layout.prepare (some view)) empty

/-- The content width is the same, and so are the items with their heights. -/
structure SameData (view first : CollectionView R) : Prop where
  width : contentWidth (some view) = contentWidth (some first)
  heights : view.heights = first.heights

/-- The data of a sequence are unchanged since the first that had an item. -/
def Unchanged (views : List (CollectionView R)) : Prop :=
  ∀ pre view post first, views = pre ++ view :: post →
    pre.find? CollectionView.hasItems = some first → SameData view first

/-- The layout follows the data: its cache and height are those of a fresh
layout, with one attributes object per item in item order, it never returns a
missing item, and every item is in range. -/
structure Follows (view : CollectionView R) (layout : PinterestLayout R) : Prop where
  cache : layout.cache = (fresh view).cache
  height : (collectionViewContentSize (some view) layout).2 = (fresh view).contentHeight
  items : layout.cache.map Attributes.item = List.range view.numberOfItems
  elements : ∀ intersects, ∀ attributes ∈ layout.layoutAttributesForElements intersects,
    attributes.item < view.numberOfItems
  inRange : ∀ item < view.numberOfItems, ∃ attributes,
    layout.layoutAttributesForItem item = some attributes ∧ attributes.item = item

/-- After every `prepare` of a sequence of data changes, the layout follows the data of
that moment. -/
def FollowsThroughout (views : List (CollectionView R)) : Prop :=
  ∀ pre view post, views = pre ++ view :: post → Follows view (prepareAll (pre ++ [view]))

/-! ### One pass -/

omit [Div R] in
theorem map_item_placeAll (columnWidth : R) (item : Nat) (heights : List R) (pass : Pass R) :
    (placeAll columnWidth item heights pass).layout.cache.map Attributes.item =
      pass.layout.cache.map Attributes.item ++ List.range' item heights.length := by
  induction heights generalizing item pass with
  | nil => simp [placeAll]
  | cons photoHeight heights ih =>
      rw [placeAll, ih, List.length_cons, List.range'_succ]
      simp [place]

/-- A fresh layout has one attributes object per item, in item order. -/
theorem map_item_fresh (view : CollectionView R) :
    (fresh view).cache.map Attributes.item = List.range view.numberOfItems := by
  simp only [fresh, prepare, empty, List.isEmpty_nil, if_true]
  rw [map_item_placeAll, List.map_nil, List.nil_append, List.range_eq_range']
  rfl

/-- A fresh layout of no items is a new layout object. -/
theorem fresh_of_not_hasItems {view : CollectionView R} (none : view.hasItems = false) :
    fresh view = empty := by
  have heights : view.heights = [] := by simpa [CollectionView.hasItems] using none
  simp [fresh, prepare, heights, placeAll, empty]

/-- A fresh layout of some items has a cache. -/
theorem cache_fresh_of_hasItems {view : CollectionView R} (present : view.hasItems = true) :
    (fresh view).cache.isEmpty = false := by
  cases empty : (fresh view).cache with
  | nil =>
      have items := map_item_fresh view
      rw [empty, List.map_nil, eq_comm, List.range_eq_nil] at items
      have heights := List.eq_nil_of_length_eq_zero items
      simp [CollectionView.hasItems, heights] at present
  | cons attributes rest => rfl

/-- Once filled, the cache is kept. -/
theorem prepare_of_cache {layout : PinterestLayout R} (filled : layout.cache.isEmpty = false)
    (collectionView : Option (CollectionView R)) : layout.prepare collectionView = layout := by
  simp [prepare, filled]

/-! ### Sequences of changes -/

theorem foldl_prepare_of_cache {layout : PinterestLayout R} (filled : layout.cache.isEmpty = false)
    (views : List (CollectionView R)) :
    views.foldl (fun layout view => layout.prepare (some view)) layout = layout := by
  induction views with
  | nil => rfl
  | cons view views ih => rw [List.foldl_cons, prepare_of_cache filled, ih]

/-- After any sequence of changes the layout is the fresh layout of the first
data with an item, and new when there were none. -/
theorem prepareAll_eq (views : List (CollectionView R)) :
    prepareAll views = (views.find? CollectionView.hasItems).elim empty fresh := by
  induction views with
  | nil => rfl
  | cons view views ih =>
      rw [prepareAll, List.foldl_cons]
      cases present : view.hasItems with
      | true =>
          rw [List.find?_cons_of_pos present]
          exact foldl_prepare_of_cache (cache_fresh_of_hasItems present) views
      | false =>
          rw [List.find?_cons_of_neg (by simp [present])]
          have new : prepare (some view) empty = empty := fresh_of_not_hasItems present
          rw [new]
          exact ih

/-- A layout follows the data exactly when it is their fresh layout. -/
theorem follows_iff {view : CollectionView R} {layout : PinterestLayout R} :
    Follows view layout ↔ layout = fresh view := by
  constructor
  · intro follows
    cases layout
    exact congrArg₂ PinterestLayout.mk follows.cache follows.height
  · rintro rfl
    have items := map_item_fresh view
    refine ⟨rfl, rfl, items, ?_, ?_⟩
    · intro intersects attributes member
      have present := List.mem_map_of_mem (f := Attributes.item) (List.mem_filter.mp member).1
      rw [items] at present
      exact List.mem_range.mp present
    · intro item inRange
      have length : (fresh view).cache.length = view.numberOfItems := by
        simpa using congrArg List.length items
      have found := List.getElem?_eq_getElem (length.symm ▸ inRange)
      have read := congrArg (fun items => items[item]?) items
      simp only [List.getElem?_map, found, List.getElem?_range inRange] at read
      exact ⟨_, found, by simpa using read⟩

/-- What the next `prepare` leaves: the fresh layout of the first data with an item, which
may be the current ones. -/
theorem prepareAll_concat (pre : List (CollectionView R)) (view : CollectionView R) :
    prepareAll (pre ++ [view]) = (pre.find? CollectionView.hasItems).elim (fresh view) fresh := by
  rw [prepareAll_eq, List.find?_append]
  cases pre.find? CollectionView.hasItems with
  | some first => rfl
  | none =>
      cases present : view.hasItems with
      | true =>
          rw [List.find?_cons_of_pos present]
          rfl
      | false =>
          rw [List.find?_cons_of_neg (by simp [present])]
          exact (fresh_of_not_hasItems present).symm

/-- The layout follows the data throughout exactly when each has the fresh layout of the
first data with an item. -/
theorem followsThroughout_iff {views : List (CollectionView R)} :
    FollowsThroughout views ↔ ∀ pre view post first, views = pre ++ view :: post →
      pre.find? CollectionView.hasItems = some first → fresh first = fresh view := by
  constructor
  · intro follows pre view post first split found
    have current := follows_iff.mp (follows pre view post split)
    rwa [prepareAll_concat, found] at current
  · intro same pre view post split
    rw [follows_iff, prepareAll_concat]
    cases found : pre.find? CollectionView.hasItems with
    | none => rfl
    | some first => exact same pre view post first split found

theorem fresh_eq_of_sameData {view first : CollectionView R} (same : SameData view first) :
    fresh first = fresh view := by
  unfold fresh prepare
  simp only [same.width, same.heights]

theorem numberOfItems_eq_of_fresh_eq {view first : CollectionView R}
    (same : fresh first = fresh view) : view.numberOfItems = first.numberOfItems := by
  have items := map_item_fresh view
  rw [← same, map_item_fresh] at items
  simpa using (congrArg List.length items).symm

/-- While the data are unchanged the layout follows them. -/
theorem followsThroughout_of_unchanged {views : List (CollectionView R)}
    (unchanged : Unchanged views) : FollowsThroughout views := by
  rw [followsThroughout_iff]
  intro pre view post first split found
  exact fresh_eq_of_sameData (unchanged pre view post first split found)

end Layout

end PinterestLayout

end PetApp
