import Mathlib.Data.List.Nodup
import PetApp.Platform.Foundation

/-!
The favourites store: `Favorite+CoreDataClass.swift` over a managed object context.

A `Favorite` is a managed object: an object id and the eleven attributes of the
entity. A `Context` holds the objects the next fetch returns, pending changes
included, and the rows the persistent store holds. Saving makes the second equal
to the first; a save that throws leaves both as they are, so the changes stay
pending. Object ids are never used twice and the context carries the proof.

* `insertFavorite`, `getFavoriteOfCurrentUser`, `deleteFavorite` follow the
  source; `saves` says whether `context.save()` succeeds.
* `objects_insertFavorite`, `objects_deleteFavorite` say what each does to the
  objects of the context, whatever the outcome of the save.
-/

namespace PetApp

/-- `Animal` of `Animals.swift`. -/
structure Animal where
  height : String
  weight : String
  age : String
  origin : String
  type : String
  species : String
  information : String
  history : String
  image : UIImage
  animal : String
deriving DecidableEq

/-- A managed object of the entity `Favorite`: its id and its attributes. -/
structure Favorite where
  objectID : Nat
  image : Option Data
  age : Option String
  animal : Option String
  history : Option String
  origin : Option String
  information : Option String
  species : Option String
  type : Option String
  weight : Option String
  uid : Option String
  height : Option String
deriving DecidableEq

/-- The managed object context of the app and the store behind it. -/
structure Context where
  objects : List Favorite
  persisted : List Favorite
  nextID : Nat
  registered : ∀ o ∈ objects, o.objectID < nextID
  distinct : (objects.map Favorite.objectID).Nodup

namespace Context

/-- The context of a freshly installed app. -/
def empty : Context where
  objects := []
  persisted := []
  nextID := 0
  registered := by simp
  distinct := by simp

/-- `context.fetch(Favorite.fetchRequest())`: every object, in store order.
`none` would be a fetch that throws. -/
def fetch (ctx : Context) : Option (List Favorite) := some ctx.objects

/-- `context.save()`: `none` when it throws. -/
def save (saves : Bool) (ctx : Context) : Option Context :=
  if saves then some { ctx with persisted := ctx.objects } else none

/-- Register a new object whose attributes are those of `favorite`. -/
def insert (favorite : Favorite) (ctx : Context) : Context where
  objects := ctx.objects ++ [{ favorite with objectID := ctx.nextID }]
  persisted := ctx.persisted
  nextID := ctx.nextID + 1
  registered := by
    intro o member
    rcases List.mem_append.mp member with old | new
    · exact Nat.lt_succ_of_lt (ctx.registered o old)
    · cases List.mem_singleton.mp new
      exact Nat.lt_succ_self _
  distinct := by
    rw [List.map_append, List.nodup_append]
    refine ⟨ctx.distinct, by simp, ?_⟩
    intro i hi j hj
    obtain ⟨o, member, rfl⟩ := List.mem_map.mp hi
    simp only [List.map_cons, List.map_nil, List.mem_singleton] at hj
    have := ctx.registered o member
    omega

/-- `context.delete(favorite)`. -/
def delete (favorite : Favorite) (ctx : Context) : Context where
  objects := ctx.objects.filter fun o => o.objectID ≠ favorite.objectID
  persisted := ctx.persisted
  nextID := ctx.nextID
  registered := fun o member => ctx.registered o (List.mem_filter.mp member).1
  distinct := ctx.distinct.sublist (List.filter_sublist.map _)

/-- Whether a managed object is still one of the context's objects. -/
def isStored (ctx : Context) (favorite : Favorite) : Bool :=
  ctx.objects.any fun o => o.objectID == favorite.objectID

theorem isStored_iff {ctx : Context} {favorite : Favorite} :
    ctx.isStored favorite = true ↔ ∃ o ∈ ctx.objects, o.objectID = favorite.objectID := by
  simp [isStored]

theorem isStored_of_mem {ctx : Context} {favorite : Favorite} (member : favorite ∈ ctx.objects) :
    ctx.isStored favorite = true :=
  isStored_iff.mpr ⟨favorite, member, rfl⟩

/-- Two objects of the context with one id are one object. -/
theorem eq_of_objectID_eq {ctx : Context} {o o' : Favorite} (member : o ∈ ctx.objects)
    (member' : o' ∈ ctx.objects) (same : o.objectID = o'.objectID) : o = o' :=
  List.inj_on_of_nodup_map ctx.distinct member member' same

theorem nodup_objects (ctx : Context) : ctx.objects.Nodup := ctx.distinct.of_map _

end Context

/-! ### The three operations -/

/-- The attributes `insertFavorite` gives the object it registers under `objectID`. -/
def favoriteOf (codec : ImageCodec) (animal : Animal) (uid : String) (objectID : Nat) : Favorite where
  objectID := objectID
  animal := some animal.animal
  image := codec.pngData animal.image
  uid := some uid
  age := some animal.age
  history := some animal.history
  information := some animal.information
  origin := some animal.origin
  species := some animal.species
  weight := some animal.weight
  height := some animal.height
  type := some animal.type

/-- `Favorite.insertFavorite`: the new object, or `nil` when the save throws. -/
def insertFavorite (codec : ImageCodec) (animal : Animal) (uid : String) (saves : Bool)
    (ctx : Context) : Option Favorite × Context :=
  let favorite := favoriteOf codec animal uid ctx.nextID
  let inserted := ctx.insert favorite
  match inserted.save saves with
  | none => (none, inserted)
  | some saved => (some favorite, saved)

/-- `Favorite.getFavoriteOfCurrentUser`. The request has no predicate: it names
no user. -/
def getFavoriteOfCurrentUser (ctx : Context) : List Favorite :=
  ctx.fetch.getD []

/-- `Favorite.deleteFavorite`. It answers `true` whether or not the save throws. -/
def deleteFavorite (favorite : Favorite) (saves : Bool) (ctx : Context) : Bool × Context :=
  let deleted := ctx.delete favorite
  match deleted.save saves with
  | none => (true, deleted)
  | some saved => (true, saved)

@[simp] theorem getFavoriteOfCurrentUser_eq (ctx : Context) :
    getFavoriteOfCurrentUser ctx = ctx.objects := rfl

/-- Whatever the outcome of the save, the objects are the old ones followed by
the new row. -/
@[simp] theorem objects_insertFavorite (codec : ImageCodec) (animal : Animal) (uid : String)
    (saves : Bool) (ctx : Context) :
    (insertFavorite codec animal uid saves ctx).2.objects =
      ctx.objects ++ [favoriteOf codec animal uid ctx.nextID] := by
  cases saves <;> rfl

/-- Whatever the outcome of the save, the objects are the old ones without the
deleted row. -/
@[simp] theorem objects_deleteFavorite (favorite : Favorite) (saves : Bool) (ctx : Context) :
    (deleteFavorite favorite saves ctx).2.objects =
      ctx.objects.filter fun o => o.objectID ≠ favorite.objectID := by
  cases saves <;> rfl

/-- A save that succeeds persists the objects; one that throws persists nothing. -/
@[simp] theorem persisted_insertFavorite (codec : ImageCodec) (animal : Animal) (uid : String)
    (saves : Bool) (ctx : Context) :
    (insertFavorite codec animal uid saves ctx).2.persisted =
      if saves then ctx.objects ++ [favoriteOf codec animal uid ctx.nextID] else ctx.persisted := by
  cases saves <;> rfl

@[simp] theorem persisted_deleteFavorite (favorite : Favorite) (saves : Bool) (ctx : Context) :
    (deleteFavorite favorite saves ctx).2.persisted =
      if saves then ctx.objects.filter (fun o => o.objectID ≠ favorite.objectID)
      else ctx.persisted := by
  cases saves <;> rfl

/-- Deleting one of the objects erases it and nothing else. -/
theorem Context.filter_objectID_eq_erase {ctx : Context} {favorite : Favorite}
    (member : favorite ∈ ctx.objects) :
    ctx.objects.filter (fun o => o.objectID ≠ favorite.objectID) = ctx.objects.erase favorite := by
  rw [ctx.nodup_objects.erase_eq_filter]
  apply List.filter_congr
  intro o stored
  by_cases same : o.objectID = favorite.objectID
  · simp [ctx.eq_of_objectID_eq stored member same]
  · have ne : o ≠ favorite := fun h => same (congrArg Favorite.objectID h)
    simp [same, ne]

/-! ### Values for concrete runs -/

/-- An animal of the pet library. -/
def Animal.husky : Animal where
  height := "60"
  weight := "25"
  age := "12"
  origin := "Siberia"
  type := "large"
  species := "Husky"
  information := ""
  history := ""
  image := ⟨1, 1, [1]⟩
  animal := "dog"

/-- Another one. -/
def Animal.corgi : Animal := { Animal.husky with species := "Corgi", origin := "Wales" }

end PetApp
