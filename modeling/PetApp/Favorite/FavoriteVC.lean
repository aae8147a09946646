import Mathlib.Data.List.Indexes
import Mathlib.Data.List.InsertIdx
import PetApp.Lib.Runs
import PetApp.Lib.Lists
import PetApp.Favorite.Store

/-!
The favourites screen: `FavoriteVC.swift`.

`cellForItemAt` gives a cell the image of one favourite and an unsave closure
that captures the index path of that moment. The closure deletes the favourite
at the captured index, fetches again and removes the collection view's item at
the captured index; the cells behind move up and keep the index they captured.

* `inSync_unsave` — a tap on a cell that still has its own position removes the
  row the cell displays, and displaces exactly the cells behind it.
* `unsavesShown_iff` — a tap on a displaced cell removes another row or indexes
  the favourites out of range.
* `unsave_taps_shown_iff` — so a run of taps removes what the tapped cells
  display exactly when every tap is in front of all earlier ones.
-/

namespace PetApp

open Runs

/-- A cell of the collection: the favourite whose image it displays, and the
index path its unsave closure captured. -/
structure FavoriteCell where
  displayed : Favorite
  indexPath : Nat
deriving DecidableEq

/-- The state of a `FavoriteVC`: its array and the cells in display order. -/
structure FavoriteVC where
  favorites : List Favorite
  cells : List FavoriteCell

namespace FavoriteVC

/-- `collectionView(_:cellForItemAt:)`. `none` is an index out of range. -/
def cellForItemAt (favorites : List Favorite) (indexPath : Nat) : Option FavoriteCell :=
  favorites[indexPath]?.map fun favorite => ⟨favorite, indexPath⟩

/-- The screen after `viewDidLoad`, with every cell configured. -/
def opened (ctx : Context) : FavoriteVC :=
  let favorites := getFavoriteOfCurrentUser ctx
  ⟨favorites, (List.range favorites.length).filterMap (cellForItemAt favorites)⟩

/-- `unsaveFavoriteClousure` of the cell that captured `indexPath`. `none` is the
trap of an index out of range. -/
def unsaveFavoriteClousure (indexPath : Nat) (saves : Bool) (ctx : Context) (vc : FavoriteVC) :
    Option (Context × FavoriteVC) :=
  vc.favorites[indexPath]?.map fun favorite =>
    let after := (deleteFavorite favorite saves ctx).2
    -- `initData`, then `deleteItems` at the captured position
    (after, ⟨getFavoriteOfCurrentUser after, vc.cells.eraseIdx indexPath⟩)

theorem opened_cells (ctx : Context) :
    (opened ctx).cells = ctx.objects.mapIdx fun i favorite => ⟨favorite, i⟩ := by
  show (List.range ctx.objects.length).filterMap (cellForItemAt ctx.objects) = _
  have configured : ∀ i ∈ List.range ctx.objects.length, cellForItemAt ctx.objects i =
      (ctx.objects.mapIdx fun i favorite => (⟨favorite, i⟩ : FavoriteCell))[i]? := by
    intro i _
    simp [cellForItemAt]
  have all := Lists.filterMap_getElem?_range
    (ctx.objects.mapIdx fun i favorite => (⟨favorite, i⟩ : FavoriteCell))
  rw [List.length_mapIdx] at all
  rw [List.filterMap_congr configured, all]

end FavoriteVC

/-! ### Taps on unsave buttons -/

/-- The favourites screen and the store. -/
structure FavoriteScreen where
  context : Context
  vc : FavoriteVC

namespace FavoriteScreen

/-- The screen just opened on the store. -/
def opened (ctx : Context) : FavoriteScreen := ⟨ctx, FavoriteVC.opened ctx⟩

/-- A tap on the unsave button of the cell displayed at `position`; the save
succeeds. `none` when no cell is displayed there or when the closure traps. -/
def unsave (s : FavoriteScreen) (position : Nat) : Option FavoriteScreen :=
  s.vc.cells[position]?.bind fun cell =>
    (s.vc.unsaveFavoriteClousure cell.indexPath true s.context).map fun after =>
      ⟨after.1, after.2⟩

/-- A cell is displayed at the tapped position. -/
def Displayed (s : FavoriteScreen) (position : Nat) : Prop := position < s.vc.cells.length

instance (s : FavoriteScreen) (position : Nat) : Decidable (s.Displayed position) :=
  inferInstanceAs (Decidable (_ < _))

/-- What is asked of a tap: it does not trap, and it removes from the store
exactly the row the tapped cell displays. -/
def UnsavesShown (s : FavoriteScreen) (position : Nat) : Prop :=
  ∀ cell, s.vc.cells[position]? = some cell →
    cell.displayed ∈ s.context.objects ∧
      ∃ t, s.unsave position = some t ∧
        t.context.objects = s.context.objects.filter (· ≠ cell.displayed)

/-- The array is the store, the cells display the array in order, and exactly the
cells in front of `bound` have the position they captured; those behind have
moved up. -/
structure InSync (bound : Nat) (s : FavoriteScreen) : Prop where
  data : s.vc.favorites = s.context.objects
  shown : s.vc.cells.map FavoriteCell.displayed = s.vc.favorites
  captured : ∀ position cell, s.vc.cells[position]? = some cell →
    position ≤ cell.indexPath ∧ (cell.indexPath = position ↔ position < bound)

theorem inSync_opened (ctx : Context) : InSync ctx.objects.length (opened ctx) where
  data := rfl
  shown := by
    show (FavoriteVC.opened ctx).cells.map _ = ctx.objects
    rw [FavoriteVC.opened_cells]
    apply List.ext_getElem? fun i => ?_
    simp [Function.comp_def]
  captured := by
    intro position cell found
    replace found : (FavoriteVC.opened ctx).cells[position]? = some cell := found
    rw [FavoriteVC.opened_cells, List.getElem?_mapIdx, Option.map_eq_some_iff] at found
    obtain ⟨favorite, member, rfl⟩ := found
    obtain ⟨inRange, -⟩ := List.getElem?_eq_some_iff.mp member
    simp [inRange]

section Facts

variable {bound : Nat} {s : FavoriteScreen}

/-- Deleting by object id removes the row from the objects of the context. -/
theorem filter_objectID {ctx : Context} {favorite : Favorite} (member : favorite ∈ ctx.objects) :
    (ctx.objects.filter fun o => o.objectID ≠ favorite.objectID) =
      ctx.objects.filter (· ≠ favorite) := by
  apply List.filter_congr
  intro o mem
  have same : o.objectID = favorite.objectID ↔ o = favorite :=
    ⟨ctx.eq_of_objectID_eq mem member, fun h => h ▸ rfl⟩
  simp [same]

/-- The cell at a position displays the array's favourite at that position. -/
theorem InSync.displayed (sync : InSync bound s) {position : Nat} {cell : FavoriteCell}
    (found : s.vc.cells[position]? = some cell) :
    s.context.objects[position]? = some cell.displayed := by
  rw [← sync.data, ← sync.shown, List.getElem?_map, found]
  rfl

/-- A tap on a cell that captured `indexPath` deletes the row at that index. -/
theorem unsave_eq_some (sync : InSync bound s) {position : Nat} {cell : FavoriteCell}
    (found : s.vc.cells[position]? = some cell) {t : FavoriteScreen} :
    s.unsave position = some t ↔ ∃ favorite, s.context.objects[cell.indexPath]? = some favorite ∧
      t = ⟨(deleteFavorite favorite true s.context).2,
        (deleteFavorite favorite true s.context).2.objects,
        s.vc.cells.eraseIdx cell.indexPath⟩ := by
  simp only [unsave, found, Option.bind_some, FavoriteVC.unsaveFavoriteClousure, Option.map_map,
    Option.map_eq_some_iff, sync.data]
  constructor
  · rintro ⟨favorite, member, rfl⟩
    exact ⟨favorite, member, rfl⟩
  · rintro ⟨favorite, member, rfl⟩
    exact ⟨favorite, member, rfl⟩

/-- A tap is as asked exactly on the cells that have the position they captured. -/
theorem unsavesShown_iff (sync : InSync bound s) {position : Nat} (displayed : s.Displayed position) :
    s.UnsavesShown position ↔ position < bound := by
  obtain ⟨cell, found⟩ : ∃ cell, s.vc.cells[position]? = some cell :=
    ⟨_, List.getElem?_eq_getElem displayed⟩
  have shown := sync.displayed found
  have member : cell.displayed ∈ s.context.objects := List.mem_of_getElem? shown
  rw [← (sync.captured position cell found).2]
  constructor
  · intro asked
    obtain ⟨-, t, tapped, removed⟩ := asked cell found
    obtain ⟨favorite, atIndex, rfl⟩ := (unsave_eq_some sync found).mp tapped
    have stored : favorite ∈ s.context.objects := List.mem_of_getElem? atIndex
    rw [objects_deleteFavorite, filter_objectID stored] at removed
    -- the row the closure deletes is the one the cell displays
    have same : favorite = cell.displayed := by
      by_contra other
      have kept : favorite ∈ s.context.objects.filter (· ≠ cell.displayed) := by
        simp [stored, other]
      rw [← removed] at kept
      simp at kept
    obtain ⟨inRange, -⟩ := List.getElem?_eq_some_iff.mp atIndex
    exact (List.getElem?_inj inRange s.context.nodup_objects).mp (by rw [atIndex, shown, same])
  · intro inPlace cell' found'
    cases found.symm.trans found'
    refine ⟨member, _, (unsave_eq_some sync found).mpr
      ⟨cell.displayed, by rw [inPlace]; exact shown, rfl⟩, ?_⟩
    rw [objects_deleteFavorite, filter_objectID member]

/-- A tap on a cell that has the position it captured keeps array, store and
cells in step and displaces the cells behind it. -/
theorem inSync_unsave (sync : InSync bound s) {position : Nat} (displayed : s.Displayed position)
    (inFront : position < bound) : ∃ t, s.unsave position = some t ∧ InSync position t := by
  obtain ⟨cell, found⟩ : ∃ cell, s.vc.cells[position]? = some cell :=
    ⟨_, List.getElem?_eq_getElem displayed⟩
  have inPlace := (sync.captured position cell found).2.mpr inFront
  have shown := sync.displayed found
  have member : cell.displayed ∈ s.context.objects := List.mem_of_getElem? shown
  let after := (deleteFavorite cell.displayed true s.context).2
  have objects : after.objects = s.context.objects.eraseIdx position := by
    obtain ⟨inRange, get⟩ := List.getElem?_eq_some_iff.mp shown
    rw [objects_deleteFavorite, filter_objectID member, ← get,
      ← s.context.nodup_objects.erase_getElem position inRange,
      s.context.nodup_objects.erase_eq_filter]
    simp only [ne_eq, decide_not]
    rfl
  refine ⟨⟨after, after.objects, s.vc.cells.eraseIdx position⟩,
    (unsave_eq_some sync found).mpr ⟨cell.displayed, by rw [inPlace]; exact shown,
      by rw [inPlace]⟩, rfl, ?_, ?_⟩
  · rw [← List.eraseIdx_map, sync.shown, sync.data, objects]
  · intro other cell' found'
    rw [List.getElem?_eraseIdx] at found'
    split at found'
    · rename_i before
      have captured := sync.captured other cell' found'
      exact ⟨captured.1, captured.2.trans ⟨fun _ => before, fun h => h.trans inFront⟩⟩
    · rename_i behind
      have captured := (sync.captured (other + 1) cell' found').1
      exact ⟨by omega, by omega⟩

/-- From a screen in step, the taps of a run are as asked exactly when each of
them is in front of the bound and of all earlier ones. -/
theorem meets_unsavesShown_iff (sync : InSync bound s) {positions : List Nat}
    (displayed : Meets unsave Displayed s positions) :
    Meets unsave UnsavesShown s positions ↔
      (∀ position ∈ positions, position < bound) ∧ positions.Pairwise (· > ·) := by
  induction positions generalizing s bound with
  | nil => simp [Meets]
  | cons position positions ih =>
      obtain ⟨here, later⟩ := displayed
      constructor
      · rintro ⟨asked, tail⟩
        have inFront := (unsavesShown_iff sync here).mp asked
        obtain ⟨t, tapped, next⟩ := inSync_unsave sync here inFront
        obtain ⟨below, sorted⟩ := (ih next (later t tapped)).mp (tail t tapped)
        refine ⟨?_, List.pairwise_cons.mpr ⟨below, sorted⟩⟩
        intro p member
        rcases List.mem_cons.mp member with rfl | member
        · exact inFront
        · exact (below p member).trans inFront
      · rintro ⟨below, sorted⟩
        have inFront := below position List.mem_cons_self
        obtain ⟨t, tapped, next⟩ := inSync_unsave sync here inFront
        obtain ⟨first, rest⟩ := List.pairwise_cons.mp sorted
        refine ⟨(unsavesShown_iff sync here).mpr inFront, fun t' tapped' => ?_⟩
        cases tapped.symm.trans tapped'
        exact (ih next (later t tapped)).mpr ⟨first, rest⟩

end Facts

/-- **Unsaving deletes the favourite that is shown exactly for taps from the back
to the front.** For every store and every run of taps on displayed cells, each
tap removes the row its cell displays, and none indexes out of range, exactly
when every tap is in front of all earlier ones. -/
theorem unsave_taps_shown_iff (ctx : Context) (positions : List Nat)
    (displayed : Meets unsave Displayed (opened ctx) positions) :
    Meets unsave UnsavesShown (opened ctx) positions ↔ positions.Pairwise (· > ·) := by
  rw [meets_unsavesShown_iff (inSync_opened ctx) displayed]
  refine ⟨And.right, fun sorted => ⟨?_, sorted⟩⟩
  cases positions with
  | nil => simp
  | cons first rest =>
      have bound : first < ctx.objects.length := by
        have here : first < (FavoriteVC.opened ctx).cells.length := displayed.1
        rwa [FavoriteVC.opened_cells, List.length_mapIdx] at here
      intro p member
      rcases List.mem_cons.mp member with rfl | member
      · exact bound
      · exact (List.rel_of_pairwise_cons sorted member).trans bound

/-- A store with two favourites. -/
def twoFavorites : Context :=
  (insertFavorite .raw .corgi "alice" true (insertFavorite .raw .husky "alice" true .empty).2).2

/-- Unsaving the second of two favourites and then the first removes both as shown. -/
theorem unsave_taps_shown_back_to_front :
    Meets unsave Displayed (opened twoFavorites) [1, 0] ∧
      Meets unsave UnsavesShown (opened twoFavorites) [1, 0] :=
  ⟨by decide, (unsave_taps_shown_iff twoFavorites [1, 0] (by decide)).mpr (by decide)⟩

/-- Unsaving the first of two favourites and then the one left indexes the
favourites out of range. -/
theorem unsave_first_then_left_traps :
    Meets unsave Displayed (opened twoFavorites) [0, 0] ∧
      ¬ Meets unsave UnsavesShown (opened twoFavorites) [0, 0] := by
  refine ⟨by decide, ?_⟩
  rintro ⟨-, later⟩
  obtain ⟨-, t, tapped, -⟩ := (later _ rfl).1 _ rfl
  cases tapped

end FavoriteScreen

end PetApp
