import Mathlib.Algebra.Order.Field.Rat
import Mathlib.Data.Set.Basic
import Mathlib.Tactic.Linarith
import Mathlib.Tactic.NormNum
import Mathlib.Tactic.Ring
import PetApp.Lib.Columns
import PetApp.Layout.Pinterest

/-!
Where the frames of the two-column layout stand: `prepare` of
`PinterestLayout.swift` in exact arithmetic.

The loop of `prepare` deals the items out to two columns of half the content width.
Each item takes its own height and the padding above and below it, and stands
inside that by the padding.

* `Laid` — the invariant of the loop: the column counter, the two offsets, the
  height and the cache after the first `n` items.
* `laid_placeAll` — a pass over the items lays all of them.
* `two_column_geometry` — so the frames are where the column sums put them, apart
  from each other and inside the content.
* `sameData_of_fresh_eq` — and they determine the content width and the heights.
-/

namespace PetApp

open Columns

namespace CGRect

/-- The points strictly inside a rectangle whose width and height are not
negative. -/
def interior (rect : CGRect ℚ) : Set (ℚ × ℚ) :=
  { point | rect.x < point.1 ∧ point.1 < rect.x + rect.width ∧
    rect.y < point.2 ∧ point.2 < rect.y + rect.height }

variable {a b : CGRect ℚ}

/-- A rectangle that ends where the other begins is beside it. -/
theorem interior_inter_of_beside (beside : a.x + a.width ≤ b.x) :
    a.interior ∩ b.interior = ∅ := by
  apply Set.eq_empty_of_forall_notMem
  rintro point ⟨⟨-, before, -⟩, ⟨after, -⟩⟩
  linarith

theorem interior_inter_of_above (above : a.y + a.height ≤ b.y) :
    a.interior ∩ b.interior = ∅ := by
  apply Set.eq_empty_of_forall_notMem
  rintro point ⟨⟨-, -, -, before⟩, ⟨-, -, after, -⟩⟩
  linarith

end CGRect

namespace PinterestLayout

/-! ### Where an item stands -/

section Frames

variable (contentWidth : ℚ) (heights : List ℚ)

/-- The height the delegate gives an item. -/
def heightOf (item : Nat) : ℚ := heights.getD item 0

/-- The sum of the heights, with the padding above and below, of the items in a
column among the first `n`. -/
def columnHeight (n column : Nat) : ℚ :=
  stacked numberOfColumns (fun item => heightOf heights item + 10) n column

/-- The frame of an item: in its column, under the items before it there. -/
def frameOf (item : Nat) : CGRect ℚ where
  x := (item % numberOfColumns : Nat) * contentWidth / 2 + 5
  y := 5 + columnHeight heights item (item % numberOfColumns)
  width := contentWidth / 2 - 10
  height := heightOf heights item

/-- The attributes of an item. -/
def attributesOf (item : Nat) : Attributes ℚ := ⟨item, some (frameOf contentWidth heights item)⟩

/-- The variables of the loop of `prepare` after the first `n` items. -/
structure Laid (n : Nat) (pass : Pass ℚ) : Prop where
  column : pass.column.val = n % numberOfColumns
  yOffset : ∀ column, pass.yOffset column = columnHeight heights n column.val
  cache : pass.layout.cache = (List.range n).map (attributesOf contentWidth heights)
  contentHeight : pass.layout.contentHeight = max (columnHeight heights n 0)
    (columnHeight heights n 1)

end Frames

section Loop

variable {contentWidth : ℚ} {heights : List ℚ}

theorem nextColumn_val {column : Fin numberOfColumns} {n : Nat}
    (here : column.val = n % numberOfColumns) :
    (nextColumn column).val = (n + 1) % numberOfColumns := by
  change column.val = n % 2 at here
  change (nextColumn column).val = (n + 1) % 2
  by_cases first : column.val < numberOfColumns - 1
  · rw [nextColumn, dif_pos first]
    change column.val < 1 at first
    simp only
    omega
  · rw [nextColumn, dif_neg first]
    change ¬ column.val < 1 at first
    simp only
    omega

/-- With room for the padding, the inset frame of an item leaves it free on each
side. -/
theorem insetBy_cellPadding {x y width height : ℚ} (wide : 10 ≤ width) (high : 10 ≤ height) :
    (CGRect.mk x y width height).insetBy cellPadding cellPadding =
      some ⟨x + 5, y + 5, width - 10, height - 10⟩ := by
  have right : ¬ width < 0 := by linarith
  have down : ¬ height < 0 := by linarith
  have padding : (2 : ℚ) * 5 = 10 := by norm_num
  simp [CGRect.insetBy, CGRect.standardized, cellPadding, right, down, padding, wide, high]

theorem maxY_eq {x y width height : ℚ} (high : 0 ≤ height) :
    (CGRect.mk x y width height).maxY = y + height := by
  simp [CGRect.maxY, CGRect.standardized, not_lt.mpr high]

theorem columnHeight_succ_self (n : Nat) :
    columnHeight heights (n + 1) (n % numberOfColumns) =
      columnHeight heights n (n % numberOfColumns) + (heightOf heights n + 10) :=
  stacked_succ_self n

theorem columnHeight_succ_of_ne {n column : Nat} (other : n % numberOfColumns ≠ column) :
    columnHeight heights (n + 1) column = columnHeight heights n column :=
  stacked_succ_of_ne other

/-- The heights of the items are not negative. -/
theorem heightOf_nonneg (nonneg : ∀ height ∈ heights, 0 ≤ height) (item : Nat) :
    0 ≤ heightOf heights item := by
  unfold heightOf
  rw [List.getD_eq_getElem?_getD]
  cases found : heights[item]? with
  | none => exact le_refl 0
  | some height => exact nonneg height (List.mem_of_getElem? found)

/-- An item takes no less than the padding around it. -/
theorem padded_nonneg (nonneg : ∀ height ∈ heights, 0 ≤ height) (item : Nat) :
    0 ≤ heightOf heights item + 10 := by
  have high := heightOf_nonneg nonneg item
  linarith

/-- The larger column after the next item. -/
theorem max_columnHeight_succ (nonneg : ∀ height ∈ heights, 0 ≤ height) (n : Nat) :
    max (max (columnHeight heights n 0) (columnHeight heights n 1))
        (columnHeight heights (n + 1) (n % numberOfColumns)) =
      max (columnHeight heights (n + 1) 0) (columnHeight heights (n + 1) 1) := by
  have grows : columnHeight heights n (n % numberOfColumns) ≤
      columnHeight heights (n + 1) (n % numberOfColumns) :=
    stacked_mono (padded_nonneg nonneg) (Nat.le_succ n) _
  rcases Nat.mod_two_eq_zero_or_one n with left | right
  · have other : columnHeight heights (n + 1) 1 = columnHeight heights n 1 :=
      columnHeight_succ_of_ne (by rw [left]; exact Nat.zero_ne_one)
    rw [left] at grows ⊢
    rw [other, max_right_comm, max_eq_right grows]
  · have other : columnHeight heights (n + 1) 0 = columnHeight heights n 0 :=
      columnHeight_succ_of_ne (by rw [right]; exact Nat.one_ne_zero)
    rw [right] at grows ⊢
    rw [other, max_assoc, max_eq_right grows]

/-- **The loop invariant.** The body of the loop lays one more item. -/
theorem laid_place (wide : 20 ≤ contentWidth) (nonneg : ∀ height ∈ heights, 0 ≤ height) {n : Nat}
    {pass : Pass ℚ} (laid : Laid contentWidth heights n pass) :
    Laid contentWidth heights (n + 1)
      (place (contentWidth / 2) pass (heightOf heights n) n) := by
  have high := heightOf_nonneg nonneg n
  have column : pass.yOffset pass.column = columnHeight heights n (n % numberOfColumns) := by
    rw [laid.yOffset, laid.column]
  have padded : (cellPadding : ℚ) * (2 : Nat) + heightOf heights n = heightOf heights n + 10 := by
    simp only [cellPadding]
    push_cast
    ring
  refine ⟨nextColumn_val laid.column, fun other => ?_, ?_, ?_⟩
  · simp only [place, padded]
    by_cases same : other = pass.column
    · rw [same, Function.update_self, column, laid.column, columnHeight_succ_self]
    · have ne : n % numberOfColumns ≠ other.val := by
        rw [← laid.column]
        exact fun eq => same (Fin.ext eq.symm)
      rw [Function.update_of_ne same, laid.yOffset, columnHeight_succ_of_ne ne]
  · simp only [place, padded]
    rw [insetBy_cellPadding (by linarith) (by linarith), laid.cache, List.range_succ,
      List.map_append, List.map_singleton]
    have frame : CGRect.mk ((pass.column.val : Nat) * (contentWidth / 2) + 5)
        (pass.yOffset pass.column + 5) (contentWidth / 2 - 10)
        (heightOf heights n + 10 - 10) = frameOf contentWidth heights n := by
      rw [column, laid.column, frameOf, mul_div_assoc, add_comm (columnHeight _ _ _),
        add_sub_cancel_right]
    rw [frame]
    rfl
  · simp only [place, padded]
    rw [maxY_eq (by linarith), laid.contentHeight, column, ← columnHeight_succ_self]
    exact max_columnHeight_succ nonneg n

/-- The loop lays the items from `n` on. -/
theorem laid_placeAll (wide : 20 ≤ contentWidth) (nonneg : ∀ height ∈ heights, 0 ≤ height)
    {n : Nat} {rest : List ℚ} {pass : Pass ℚ} (left : heights.drop n = rest)
    (laid : Laid contentWidth heights n pass) :
    Laid contentWidth heights (n + rest.length) (placeAll (contentWidth / 2) n rest pass) := by
  induction rest generalizing n pass with
  | nil => exact laid
  | cons photoHeight rest ih =>
      have here : heightOf heights n = photoHeight := by
        have found : heights[n]? = some photoHeight := by
          rw [← List.head?_drop, left, List.head?_cons]
        rw [heightOf, List.getD_eq_getElem?_getD, found, Option.getD_some]
      have later : heights.drop (n + 1) = rest := by
        rw [← List.tail_drop, left, List.tail_cons]
      have next := laid_place wide nonneg laid
      rw [here] at next
      have all := ih later next
      rwa [Nat.add_right_comm] at all

/-- A fresh layout is what the loop leaves when all items are laid. -/
theorem exists_laid_fresh {view : CollectionView ℚ}
    (wide : 20 ≤ PinterestLayout.contentWidth (some view))
    (nonneg : ∀ height ∈ view.heights, 0 ≤ height) :
    ∃ pass, pass.layout = fresh view ∧
      Laid (PinterestLayout.contentWidth (some view)) view.heights view.numberOfItems pass := by
  let start : Pass ℚ := ⟨empty, ⟨0, by decide⟩, fun _ => (0 : Nat)⟩
  have begins : Laid (PinterestLayout.contentWidth (some view)) view.heights 0 start := by
    refine ⟨rfl, fun column => ?_, rfl, ?_⟩
    · simp [start, columnHeight]
    · simp [start, empty, columnHeight]
  have all := laid_placeAll wide nonneg (List.drop_zero) begins
  rw [Nat.zero_add] at all
  refine ⟨_, ?_, all⟩
  rw [fresh, prepare]
  rfl

end Loop

/-! ### The geometry -/

/-- The frame of an item in a layout. -/
def frameAt (layout : PinterestLayout ℚ) (item : Nat) : Option (CGRect ℚ) :=
  (layout.layoutAttributesForItem item).bind Attributes.frame

/-- The layout has its items in two columns of the content width. -/
structure TwoColumns (view : CollectionView ℚ) (layout : PinterestLayout ℚ) : Prop where
  length : layout.cache.length = view.numberOfItems
  /-- Each item has the frame its column gives it. -/
  attributes : ∀ item < view.numberOfItems, layout.layoutAttributesForItem item =
    some (attributesOf (contentWidth (some view)) view.heights item)
  /-- No two frames have a point inside both. -/
  disjoint : ∀ {i j : Nat} {a b : CGRect ℚ}, layout.frameAt i = some a → layout.frameAt j = some b →
    i ≠ j → a.interior ∩ b.interior = ∅
  /-- Two frames of one column have the padding of both between them. -/
  apart : ∀ {i j : Nat} {a b : CGRect ℚ}, layout.frameAt i = some a → layout.frameAt j = some b →
    i < j → i % numberOfColumns = j % numberOfColumns → a.y + a.height + 10 ≤ b.y
  /-- Every frame is inside the content. -/
  inside : ∀ {i : Nat} {a : CGRect ℚ}, layout.frameAt i = some a →
    0 ≤ a.x ∧ a.x + a.width ≤ (collectionViewContentSize (some view) layout).1 ∧
      0 ≤ a.y ∧ a.y + a.height ≤ (collectionViewContentSize (some view) layout).2
  /-- The content is as high as its higher column. -/
  contentHeight : layout.contentHeight = max (columnHeight view.heights view.numberOfItems 0)
    (columnHeight view.heights view.numberOfItems 1)
  empty : view.numberOfItems = 0 → layout.contentHeight = 0

section Geometry

variable {contentWidth : ℚ} {heights : List ℚ}

/-- Frames of one column have the padding between them. -/
theorem frameOf_apart (contentWidth : ℚ) (nonneg : ∀ height ∈ heights, 0 ≤ height) {i j : Nat}
    (before : i < j) (column : i % numberOfColumns = j % numberOfColumns) :
    (frameOf contentWidth heights i).y + (frameOf contentWidth heights i).height + 10 ≤
      (frameOf contentWidth heights j).y := by
  have ends : columnHeight heights i (i % numberOfColumns) + (heightOf heights i + 10) ≤
      columnHeight heights j (i % numberOfColumns) := stacked_add_le (padded_nonneg nonneg) before
  simp only [frameOf]
  rw [← column]
  linarith

/-- A frame of the left column ends before one of the right column begins. -/
theorem frameOf_beside {i j : Nat} (left : i % numberOfColumns = 0)
    (right : j % numberOfColumns = 1) :
    (frameOf contentWidth heights i).x + (frameOf contentWidth heights i).width ≤
      (frameOf contentWidth heights j).x := by
  simp only [frameOf, left, right]
  push_cast
  linarith

/-- Two frames have no point inside both. -/
theorem interior_inter_frameOf (nonneg : ∀ height ∈ heights, 0 ≤ height) {i j : Nat}
    (before : i < j) :
    (frameOf contentWidth heights i).interior ∩ (frameOf contentWidth heights j).interior = ∅ := by
  by_cases column : i % numberOfColumns = j % numberOfColumns
  · have apart := frameOf_apart contentWidth nonneg before column
    exact CGRect.interior_inter_of_above (by linarith)
  · rcases Nat.mod_two_eq_zero_or_one i with left | right
    · have other : j % 2 = 1 := by
        change i % 2 ≠ j % 2 at column
        omega
      exact CGRect.interior_inter_of_beside (frameOf_beside left other)
    · have other : j % 2 = 0 := by
        change i % 2 ≠ j % 2 at column
        omega
      rw [Set.inter_comm]
      exact CGRect.interior_inter_of_beside (frameOf_beside other right)

/-- A frame is inside the content width and inside its column. -/
theorem frameOf_inside (wide : 20 ≤ contentWidth) (nonneg : ∀ height ∈ heights, 0 ≤ height)
    {i n : Nat} (before : i < n) :
    0 ≤ (frameOf contentWidth heights i).x ∧
      (frameOf contentWidth heights i).x + (frameOf contentWidth heights i).width ≤ contentWidth ∧
      0 ≤ (frameOf contentWidth heights i).y ∧
      (frameOf contentWidth heights i).y + (frameOf contentWidth heights i).height ≤
        columnHeight heights n (i % numberOfColumns) := by
  have starts : 0 ≤ columnHeight heights i (i % numberOfColumns) :=
    stacked_nonneg (padded_nonneg nonneg) i _
  have ends : columnHeight heights i (i % numberOfColumns) + (heightOf heights i + 10) ≤
      columnHeight heights n (i % numberOfColumns) := stacked_add_le (padded_nonneg nonneg) before
  have column : 0 ≤ (frameOf contentWidth heights i).x ∧
      (frameOf contentWidth heights i).x + (frameOf contentWidth heights i).width ≤
        contentWidth := by
    simp only [frameOf]
    rcases Nat.mod_two_eq_zero_or_one i with left | right
    · simp only [numberOfColumns, left]
      push_cast
      constructor <;> linarith
    · simp only [numberOfColumns, right]
      push_cast
      constructor <;> linarith
  refine ⟨column.1, column.2, ?_, ?_⟩
  · simp only [frameOf]
    linarith
  · simp only [frameOf]
    linarith

/-- A column is no higher than the higher one. -/
theorem columnHeight_le_max (n i : Nat) :
    columnHeight heights n (i % numberOfColumns) ≤
      max (columnHeight heights n 0) (columnHeight heights n 1) := by
  rcases Nat.mod_two_eq_zero_or_one i with left | right
  · rw [left]
    exact le_max_left _ _
  · rw [right]
    exact le_max_right _ _

end Geometry

section Laid

variable {view : CollectionView ℚ} {pass : Pass ℚ}

/-- The attributes of the items, once all are laid. -/
theorem layoutAttributesForItem_of_laid
    (laid : Laid (contentWidth (some view)) view.heights view.numberOfItems pass) {item : Nat}
    (inRange : item < view.numberOfItems) :
    pass.layout.layoutAttributesForItem item =
      some (attributesOf (contentWidth (some view)) view.heights item) := by
  rw [layoutAttributesForItem, laid.cache, List.getElem?_map, List.getElem?_range inRange]
  rfl

/-- A frame of the layout is that of one of the items. -/
theorem frameAt_of_laid
    (laid : Laid (contentWidth (some view)) view.heights view.numberOfItems pass) {item : Nat}
    {frame : CGRect ℚ} (found : pass.layout.frameAt item = some frame) :
    item < view.numberOfItems ∧ frame = frameOf (contentWidth (some view)) view.heights item := by
  by_cases inRange : item < view.numberOfItems
  · rw [frameAt, layoutAttributesForItem_of_laid laid inRange] at found
    cases found
    exact ⟨inRange, rfl⟩
  · have none : pass.layout.layoutAttributesForItem item = none := by
      rw [layoutAttributesForItem, laid.cache, List.getElem?_eq_none_iff, List.length_map,
        List.length_range]
      exact Nat.le_of_not_lt inRange
    rw [frameAt, none] at found
    cases found

end Laid

/-- **The geometry of the layout.** For a content width of at least 20 and heights
that are not negative, a new layout object lays its items in two columns: each at
the padded sum of the items before it in its column, no two with a point inside both,
those of one column at least the padding apart, and all inside the content, which is
as high as its higher column. -/
theorem two_column_geometry (view : CollectionView ℚ) (wide : 20 ≤ contentWidth (some view))
    (nonneg : ∀ height ∈ view.heights, 0 ≤ height) : TwoColumns view (fresh view) := by
  obtain ⟨pass, same, laid⟩ := exists_laid_fresh wide nonneg
  rw [← same]
  refine ⟨?_, fun item inRange => layoutAttributesForItem_of_laid laid inRange, ?_, ?_, ?_,
    laid.contentHeight, fun none => ?_⟩
  · rw [laid.cache, List.length_map, List.length_range]
  · intro i j a b atI atJ ne
    obtain ⟨-, rfl⟩ := frameAt_of_laid laid atI
    obtain ⟨-, rfl⟩ := frameAt_of_laid laid atJ
    rcases Nat.lt_or_gt_of_ne ne with before | after
    · exact interior_inter_frameOf nonneg before
    · rw [Set.inter_comm]
      exact interior_inter_frameOf nonneg after
  · intro i j a b atI atJ before column
    obtain ⟨-, rfl⟩ := frameAt_of_laid laid atI
    obtain ⟨-, rfl⟩ := frameAt_of_laid laid atJ
    exact frameOf_apart _ nonneg before column
  · intro i a atI
    obtain ⟨inRange, rfl⟩ := frameAt_of_laid laid atI
    obtain ⟨left, right, top, bottom⟩ := frameOf_inside wide nonneg inRange
    refine ⟨left, right, top, bottom.trans ?_⟩
    change _ ≤ pass.layout.contentHeight
    rw [laid.contentHeight]
    exact columnHeight_le_max _ i
  · rw [laid.contentHeight, none]
    simp [columnHeight]

/-- Three items on a content 100 wide. -/
theorem two_column_geometry_three :
    20 ≤ contentWidth (some (⟨110, 5, 5, [30, 20, 0]⟩ : CollectionView ℚ)) ∧
      (∀ height ∈ ([30, 20, 0] : List ℚ), 0 ≤ height) ∧
      TwoColumns ⟨110, 5, 5, [30, 20, 0]⟩ (fresh ⟨110, 5, 5, [30, 20, 0]⟩) := by
  have wide : 20 ≤ contentWidth (some (⟨110, 5, 5, [30, 20, 0]⟩ : CollectionView ℚ)) := by
    simp only [contentWidth]
    norm_num
  have nonneg : ∀ height ∈ ([30, 20, 0] : List ℚ), 0 ≤ height := by
    simp
  exact ⟨wide, nonneg, two_column_geometry ⟨110, 5, 5, [30, 20, 0]⟩ wide nonneg⟩

/-! ### What the frames determine -/

/-- A view with room for the padding, whose items have no negative height. -/
structure Roomy (view : CollectionView ℚ) : Prop where
  wide : 20 ≤ contentWidth (some view)
  nonneg : ∀ height ∈ view.heights, 0 ≤ height

/-- The frame of an item in the layout of a new object. -/
theorem frameAt_fresh {view : CollectionView ℚ} (roomy : Roomy view) {item : Nat}
    (inRange : item < view.numberOfItems) :
    (fresh view).frameAt item = some (frameOf (contentWidth (some view)) view.heights item) := by
  obtain ⟨pass, same, laid⟩ := exists_laid_fresh roomy.wide roomy.nonneg
  rw [← same, frameAt, layoutAttributesForItem_of_laid laid inRange]
  rfl

/-- Views with one fresh layout that have an item have the same data: the frames are as wide
as half the content less the padding, and as high as the items. -/
theorem sameData_of_fresh_eq {view first : CollectionView ℚ} (roomy : Roomy view)
    (firstRoomy : Roomy first) (present : first.hasItems = true)
    (same : fresh first = fresh view) : SameData view first := by
  have count := numberOfItems_eq_of_fresh_eq same
  have frames : ∀ item < first.numberOfItems,
      frameOf (contentWidth (some view)) view.heights item =
        frameOf (contentWidth (some first)) first.heights item := by
    intro item inRange
    have atView := frameAt_fresh roomy (count.symm ▸ inRange)
    rw [← same, frameAt_fresh firstRoomy inRange] at atView
    exact (Option.some.inj atView).symm
  constructor
  case width =>
    have nonempty : 0 < first.numberOfItems := by
      rw [CollectionView.numberOfItems, List.length_pos_iff]
      simpa [CollectionView.hasItems] using present
    have widths := congrArg CGRect.width (frames 0 nonempty)
    simp only [frameOf] at widths
    linarith
  case heights =>
    refine List.ext_getElem count ?_
    intro item inView inFirst
    have high := congrArg CGRect.height (frames item inFirst)
    simpa [frameOf, heightOf, inView, inFirst] using high

end PinterestLayout

end PetApp
