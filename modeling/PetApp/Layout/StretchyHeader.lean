import Mathlib.Order.Interval.Set.Basic
import Mathlib.Tactic.Linarith
import Mathlib.Tactic.Ring
import Mathlib.Algebra.Order.Ring.Rat

/-!
The stretchy header of a table: `StretchyTableHeaderView.swift`, in exact arithmetic.

The header has a container as high as itself and an image in it. Four constraints fix
their heights and the bottom of the image in the container; `scrollViewDidScroll` changes
three constants. The first constraint on the container has no constant, the second gets the
top inset of the table. No constraint ties the container to the top or the bottom of the
header, so where it stands is left to UIKit.

Places are measured from the top of the header, downwards. The header begins where the
content of the table does, so it is on the screen from `contentOffset.y` on.

* `satisfiable_iff` — the constraints can be met exactly when the table has no top inset,
  and then with the container in any place.
* `drawn_eq` — then the image is drawn down to the end of the container.
* `visible_image`, `containerTop_of_visible` — the part of the image that is on the screen is
  the part of the header that is, exactly when the container stands at the top of the header.
* `header_fills_iff` — all of it together.
-/

namespace PetApp

/-- What the header reads of a scroll view. -/
structure ScrollView where
  contentOffset : ℚ
  contentInsetTop : ℚ

/-- `StretchyTableHeaderView`: the constants of its constraints, and whether the container
clips. -/
structure StretchyTableHeaderView where
  imageViewHeight : ℚ := 0
  imageViewBottom : ℚ := 0
  containerViewHeight : ℚ := 0
  clipsToBounds : Bool := false

/-- The height of the header, and the places and heights of the container and the image. -/
structure HeaderLayout where
  height : ℚ
  containerTop : ℚ
  containerHeight : ℚ
  imageTop : ℚ
  imageHeight : ℚ

namespace StretchyTableHeaderView

/-- `scrollViewDidScroll`. -/
def scrollViewDidScroll (scrollView : ScrollView) (_ : StretchyTableHeaderView) :
    StretchyTableHeaderView :=
  let offsetY := -(scrollView.contentOffset + scrollView.contentInsetTop)
  { containerViewHeight := scrollView.contentInsetTop
    clipsToBounds := decide (offsetY ≤ 0)
    imageViewBottom := if 0 ≤ offsetY then 0 else -offsetY / 2
    imageViewHeight := max (offsetY + scrollView.contentInsetTop) scrollView.contentInsetTop }

/-- The constraints of `setViewConstraints` on heights and places, for a header with the given
frame. -/
structure Satisfies (header : StretchyTableHeaderView) (frameHeight : ℚ) (layout : HeaderLayout) :
    Prop where
  frame : layout.height = frameHeight
  equalHeights : layout.height = layout.containerHeight
  containerViewHeight : layout.containerHeight = layout.height + header.containerViewHeight
  imageViewBottom : layout.imageTop + layout.imageHeight =
    layout.containerTop + layout.containerHeight + header.imageViewBottom
  imageViewHeight : layout.imageHeight = layout.containerHeight + header.imageViewHeight

/-- The part of the image that is drawn. -/
def drawn (header : StretchyTableHeaderView) (layout : HeaderLayout) : Set ℚ :=
  Set.Icc layout.imageTop (layout.imageTop + layout.imageHeight) ∩
    if header.clipsToBounds then
      Set.Icc layout.containerTop (layout.containerTop + layout.containerHeight)
    else Set.univ

section Facts

variable {header : StretchyTableHeaderView} {scrollView : ScrollView} {frameHeight : ℚ}
  {layout : HeaderLayout}

/-- The constraints can be met exactly when the container gets no constant, wherever it
stands. -/
theorem satisfiable_iff (place : ℚ) :
    (∃ layout, header.Satisfies frameHeight layout ∧ layout.containerTop = place) ↔
      header.containerViewHeight = 0 := by
  constructor
  · rintro ⟨layout, ⟨-, equalHeights, containerViewHeight, -, -⟩, -⟩
    linarith
  · intro noInset
    refine ⟨⟨frameHeight, place, frameHeight,
      place + header.imageViewBottom - header.imageViewHeight,
      frameHeight + header.imageViewHeight⟩, ⟨rfl, rfl, ?_, ?_, rfl⟩, rfl⟩
    · simp only [noInset, add_zero]
    · simp only
      ring

/-- Without a top inset the image is stretched upwards when the table is pulled down, and
moves at half the speed when it is scrolled up. -/
theorem image_place (noInset : scrollView.contentInsetTop = 0)
    (meets : (header.scrollViewDidScroll scrollView).Satisfies frameHeight layout) :
    (scrollView.contentOffset ≤ 0 →
      layout.imageTop = layout.containerTop + scrollView.contentOffset ∧
        layout.imageTop + layout.imageHeight = layout.containerTop + frameHeight) ∧
    (0 < scrollView.contentOffset →
      layout.imageTop = layout.containerTop + scrollView.contentOffset / 2 ∧
        layout.imageTop + layout.imageHeight =
          layout.containerTop + frameHeight + scrollView.contentOffset / 2) := by
  obtain ⟨frame, equalHeights, -, bottom, height⟩ := meets
  simp only [scrollViewDidScroll, noInset, add_zero] at bottom height
  constructor
  · intro pulled
    rw [if_pos (by linarith), add_zero] at bottom
    rw [max_eq_left (by linarith)] at height
    constructor <;> linarith
  · intro scrolled
    rw [if_neg (by linarith)] at bottom
    rw [max_eq_right (by linarith)] at height
    constructor <;> linarith

/-- Where the drawn image begins: as far above the container as the table is pulled down, or
half as far below its top as the table is scrolled up. -/
def drawnTop (scrollView : ScrollView) : ℚ :=
  if scrollView.contentOffset ≤ 0 then scrollView.contentOffset else scrollView.contentOffset / 2

/-- Without a top inset the image is drawn down to the end of the container. -/
theorem drawn_eq (noInset : scrollView.contentInsetTop = 0)
    (meets : (header.scrollViewDidScroll scrollView).Satisfies frameHeight layout) :
    (header.scrollViewDidScroll scrollView).drawn layout =
      Set.Icc (layout.containerTop + drawnTop scrollView) (layout.containerTop + frameHeight) := by
  obtain ⟨pulled, scrolled⟩ := image_place noInset meets
  have container : layout.containerHeight = frameHeight := by
    rw [← meets.equalHeights, meets.frame]
  have clips : (header.scrollViewDidScroll scrollView).clipsToBounds =
      decide (0 ≤ scrollView.contentOffset) := by
    simp only [scrollViewDidScroll, noInset, add_zero, decide_eq_decide]
    constructor <;> intro _ <;> linarith
  ext place
  simp only [drawn, clips, container, drawnTop, decide_eq_true_eq, Set.mem_inter_iff, Set.mem_Icc]
  rcases lt_trichotomy scrollView.contentOffset 0 with below | zero | above
  · obtain ⟨top, bottom⟩ := pulled below.le
    rw [if_neg (not_le.mpr below), if_pos below.le, bottom, top]
    simp only [Set.mem_univ, and_true]
  · obtain ⟨top, bottom⟩ := pulled zero.le
    rw [if_pos zero.ge, if_pos zero.le, bottom, top, zero, add_zero, Set.mem_Icc]
    exact and_self_iff
  · obtain ⟨top, bottom⟩ := scrolled above
    rw [if_pos above.le, if_neg (not_le.mpr above), bottom, top, Set.mem_Icc]
    constructor
    · rintro ⟨⟨high, -⟩, -, low⟩
      exact ⟨high, low⟩
    · rintro ⟨high, low⟩
      refine ⟨⟨high, ?_⟩, ?_, low⟩ <;> linarith

theorem drawnTop_le (scrollView : ScrollView) :
    drawnTop scrollView ≤ scrollView.contentOffset := by
  unfold drawnTop
  split
  · exact le_rfl
  · linarith

/-- At the top of the header, the container shows on the screen what the header does. -/
theorem visible_image (noInset : scrollView.contentInsetTop = 0)
    (meets : (header.scrollViewDidScroll scrollView).Satisfies frameHeight layout)
    (atTop : layout.containerTop = 0) :
    (header.scrollViewDidScroll scrollView).drawn layout ∩ Set.Ici scrollView.contentOffset =
      Set.Icc scrollView.contentOffset frameHeight := by
  rw [drawn_eq noInset meets, atTop, zero_add, zero_add]
  ext place
  constructor
  · rintro ⟨⟨-, low⟩, high⟩
    exact ⟨high, low⟩
  · rintro ⟨high, low⟩
    exact ⟨⟨(drawnTop_le scrollView).trans high, low⟩, high⟩

/-- Only there, while the header is on the screen: the image ends with the container. -/
theorem containerTop_of_visible (noInset : scrollView.contentInsetTop = 0)
    (meets : (header.scrollViewDidScroll scrollView).Satisfies frameHeight layout)
    (onScreen : scrollView.contentOffset ≤ frameHeight)
    (fills : (header.scrollViewDidScroll scrollView).drawn layout ∩
      Set.Ici scrollView.contentOffset = Set.Icc scrollView.contentOffset frameHeight) :
    layout.containerTop = 0 := by
  rw [drawn_eq noInset meets] at fills
  have reaches : frameHeight ∈ Set.Icc scrollView.contentOffset frameHeight := ⟨onScreen, le_rfl⟩
  rw [← fills] at reaches
  have notAbove : 0 ≤ layout.containerTop := by linarith [reaches.1.2]
  have top := (drawnTop_le scrollView).trans onScreen
  have within : scrollView.contentOffset ≤ layout.containerTop + frameHeight := by linarith
  have ends : layout.containerTop + frameHeight ∈
      Set.Icc scrollView.contentOffset frameHeight := by
    rw [← fills]
    exact ⟨⟨by linarith, le_rfl⟩, within⟩
  linarith [ends.2]

end Facts

-- `AccountViewController` sets a top inset of -20
example (header : StretchyTableHeaderView) (contentOffset place : ℚ) :
    ¬ ∃ layout, (header.scrollViewDidScroll ⟨contentOffset, -20⟩).Satisfies 300 layout ∧
      layout.containerTop = place := by
  rw [satisfiable_iff]
  intro noInset
  simp [scrollViewDidScroll] at noInset

end StretchyTableHeaderView

end PetApp
