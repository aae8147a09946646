import PetApp.Lib.Runs
import PetApp.Favorite.Store

/-!
What a save that throws leaves behind: `Favorite+CoreDataClass.swift`,
`AppDelegate.saveContext` and `SceneDelegate.sceneDidEnterBackground`.

Neither `insertFavorite` nor `deleteFavorite` rolls the context back when the
save throws, so the change stays pending: every later fetch sees it, and the
save on entering the background persists it.

* `objects_later` — fetches and background saves never change the objects.
* `failed_insert_stays` — after a failed insert every later fetch returns the new
  row and the next background save persists it.
* `failed_save_iff` — an insert leaves the favourites as they were only if its
  save does not throw; the answer of a delete is true to the store exactly when
  its save does not throw or the row was never persisted.
-/

namespace PetApp

open Runs

/-- `context.hasChanges`. -/
def Context.hasChanges (ctx : Context) : Bool := ctx.objects ≠ ctx.persisted

/-- `AppDelegate.saveContext`; `none` is its `fatalError`. -/
def saveContext (saves : Bool) (ctx : Context) : Option Context :=
  if ctx.hasChanges then ctx.save saves else some ctx

/-- What may happen to the favourites without a tap. -/
inductive StoreEvent where
  | fetch
  /-- `sceneDidEnterBackground`. -/
  | enterBackground (saves : Bool)
deriving DecidableEq, Repr

namespace Context

/-- One event; `none` is a crash. -/
def step (ctx : Context) : StoreEvent → Option Context
  | .fetch => some ctx
  | .enterBackground saves => saveContext saves ctx

/-- What is asked of an insert whose save throws: it answers `nil`, and every
later fetch and every later successful save has the rows from before the call. -/
def InsertUndone (codec : ImageCodec) (animal : Animal) (uid : String) (saves : Bool)
    (ctx : Context) : Prop :=
  saves = false →
    (insertFavorite codec animal uid saves ctx).1 = none ∧
    ∀ later t, run step (insertFavorite codec animal uid saves ctx).2 later = some t →
      getFavoriteOfCurrentUser t = getFavoriteOfCurrentUser ctx ∧
      ∀ t', saveContext true t = some t' → t'.persisted = getFavoriteOfCurrentUser ctx

/-- What is asked of the answer of a delete: `true` only when the persistent
store no longer has the row, else every later fetch still returns it. -/
def DeleteTruthful (favorite : Favorite) (saves : Bool) (ctx : Context) : Prop :=
  ((deleteFavorite favorite saves ctx).1 = true →
    ∀ o ∈ (deleteFavorite favorite saves ctx).2.persisted, o.objectID ≠ favorite.objectID) ∧
  ((deleteFavorite favorite saves ctx).1 = false →
    ∀ later t, run step (deleteFavorite favorite saves ctx).2 later = some t →
      favorite ∈ getFavoriteOfCurrentUser t)

section Facts

variable {ctx t : Context}

theorem objects_saveContext {saves : Bool} (saved : saveContext saves ctx = some t) :
    t.objects = ctx.objects := by
  unfold saveContext Context.save at saved
  split at saved
  · split at saved
    · cases saved
      rfl
    · cases saved
  · cases saved
    rfl

/-- A background save that succeeds persists the objects. -/
theorem persisted_saveContext (saved : saveContext true ctx = some t) :
    t.persisted = ctx.objects := by
  unfold saveContext at saved
  split at saved
  · cases saved
    rfl
  · rename_i unchanged
    cases saved
    have same : ctx.objects = ctx.persisted := by simpa [hasChanges] using unchanged
    exact same.symm

/-- Without a tap the objects stay as they are. -/
theorem objects_later {later : List StoreEvent} (reached : run step ctx later = some t) :
    t.objects = ctx.objects := by
  induction later generalizing ctx with
  | nil =>
      cases reached
      rfl
  | cons event later ih =>
      obtain ⟨m, stepped, tail⟩ := run_cons_eq_some.mp reached
      rw [ih tail]
      cases event with
      | fetch =>
          cases stepped
          rfl
      | enterBackground saves => exact objects_saveContext stepped

/-- After an insert whose save throws, every later fetch returns the new row and
every later successful save persists it. -/
theorem failed_insert_stays (codec : ImageCodec) (animal : Animal) (uid : String)
    {later : List StoreEvent}
    (reached : run step (insertFavorite codec animal uid false ctx).2 later = some t) :
    getFavoriteOfCurrentUser t = ctx.objects ++ [favoriteOf codec animal uid ctx.nextID] ∧
      ∀ t', saveContext true t = some t' →
        t'.persisted = ctx.objects ++ [favoriteOf codec animal uid ctx.nextID] := by
  have objects := (objects_later reached).trans (objects_insertFavorite codec animal uid false ctx)
  refine ⟨objects, fun t' saved => ?_⟩
  rw [persisted_saveContext saved, objects]

theorem insertUndone_iff (codec : ImageCodec) (animal : Animal) (uid : String) (saves : Bool)
    (ctx : Context) : InsertUndone codec animal uid saves ctx ↔ saves = true := by
  cases saves with
  | true => simp [InsertUndone]
  | false =>
      refine iff_of_false ?_ Bool.false_ne_true
      intro undone
      obtain ⟨fetched, -⟩ := (undone rfl).2 [] _ rfl
      have here : run step (insertFavorite codec animal uid false ctx).2 [] =
          some (insertFavorite codec animal uid false ctx).2 := rfl
      rw [(failed_insert_stays codec animal uid here).1] at fetched
      simp at fetched

theorem deleteTruthful_iff (favorite : Favorite) (saves : Bool) (ctx : Context) :
    DeleteTruthful favorite saves ctx ↔
      saves = true ∨ ∀ o ∈ ctx.persisted, o.objectID ≠ favorite.objectID := by
  -- the answer is always `true`, so only the first half asks something
  have answer : (deleteFavorite favorite saves ctx).1 = true := by cases saves <;> rfl
  have asked : DeleteTruthful favorite saves ctx ↔
      ∀ o ∈ (deleteFavorite favorite saves ctx).2.persisted, o.objectID ≠ favorite.objectID := by
    simp [DeleteTruthful, answer]
  rw [asked, persisted_deleteFavorite]
  cases saves <;> simp

end Facts

/-- **When a failed save leaves the favourites as they were.** For every context,
animal, uid and row: a failed insert never does, and the answer of a delete is
true to the persistent store exactly when the save does not throw or the row was
never persisted. -/
theorem failed_save_iff (codec : ImageCodec) (animal : Animal) (uid : String)
    (favorite : Favorite) (insertSaves deleteSaves : Bool) (ctx : Context) :
    (InsertUndone codec animal uid insertSaves ctx ↔ insertSaves = true) ∧
      (DeleteTruthful favorite deleteSaves ctx ↔
        deleteSaves = true ∨ ∀ o ∈ ctx.persisted, o.objectID ≠ favorite.objectID) :=
  ⟨insertUndone_iff codec animal uid insertSaves ctx, deleteTruthful_iff favorite deleteSaves ctx⟩

/-- A store with one saved row, of the husky. -/
def oneHusky : Context := (insertFavorite .raw .husky "alice" true .empty).2

/-- A failed insert of the corgi next to the husky is persisted when the app
enters the background, and a failed delete of the husky answers `true` while the
row is still persisted. -/
theorem failed_save_leaves_corgi :
    (∃ t, run step (insertFavorite .raw .corgi "alice" false oneHusky).2 [.enterBackground true] =
        some t ∧ t.persisted.length = 2) ∧
      (insertFavorite .raw .corgi "alice" false oneHusky).1 = none ∧
      ¬ InsertUndone .raw .corgi "alice" false oneHusky ∧
      (deleteFavorite (favoriteOf .raw .husky "alice" 0) false oneHusky).1 = true ∧
      favoriteOf .raw .husky "alice" 0 ∈ oneHusky.objects ∧
      ¬ DeleteTruthful (favoriteOf .raw .husky "alice" 0) false oneHusky := by
  refine ⟨⟨_, rfl, rfl⟩, rfl, ?_, rfl, by decide, ?_⟩
  · rw [insertUndone_iff]
    decide
  · rw [deleteTruthful_iff]
    decide

end Context

end PetApp
