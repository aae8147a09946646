import PetApp.Favorite.Navigation

/-!
A saved favourite reopens: `insertFavorite` writes the eleven attributes of a row, and
`didSelectItemAt` of `FavoriteVC.swift` builds an animal from them again.

The two are separate mappings by attribute name. Each attribute that is missing, or not
of the type asked for, is read as the empty text, so that a key that differed on the two
sides would go unnoticed.

* `animalWith_favoriteOf` — reading the attributes of a new row gives the animal.
* `didSelectItemAt_favoriteOf` — so does selecting the row, in every store that holds it
  and wherever the screen shows it.
* `favorite_reopens` — the detail screen opens on the saved animal, and saving that
  animal again writes the same attributes.
-/

namespace PetApp

open FavoriteStack

/-- Two rows with equal attributes; only their object ids may differ. -/
def Favorite.SameAttributes (favorite other : Favorite) : Prop :=
  favorite = { other with objectID := favorite.objectID }

/-! ### Writing and reading the attributes -/

section Attributes

variable {codec : ImageCodec} {animal : Animal} {uid : String} {favorite : Favorite}
  {ctx : Context}

/-- Reading the attributes of a new row gives the animal, but for the image. -/
theorem animalWith_favoriteOf (image : UIImage) (objectID : Nat) :
    (favoriteOf codec animal uid objectID).animalWith image = { animal with image := image } := rfl

/-- The attributes of a new row do not depend on the store it is inserted into. -/
theorem sameAttributes_favoriteOf (objectID other : Nat) :
    (favoriteOf codec animal uid objectID).SameAttributes (favoriteOf codec animal uid other) := rfl

/-- An insertion that succeeds answers the row it added to the store. -/
theorem eq_favoriteOf_of_inserted {saves : Bool} {saved : Context}
    (inserted : insertFavorite codec animal uid saves ctx = (some favorite, saved)) :
    favorite = favoriteOf codec animal uid ctx.nextID ∧ favorite ∈ saved.objects := by
  have objects := objects_insertFavorite codec animal uid saves ctx
  rw [inserted] at objects
  have same : favorite = favoriteOf codec animal uid ctx.nextID := by
    cases saves with
    | false => cases inserted
    | true =>
        cases inserted
        rfl
  refine ⟨same, ?_⟩
  rw [objects, same]
  exact List.mem_append_right _ (List.mem_singleton_self _)

/-- A store answers the attributes of the rows it holds as they were written. -/
theorem values_of_mem (deleted : Favorite → Favorite) (stored : favorite ∈ ctx.objects) :
    ctx.values deleted favorite = favorite := by
  rw [Context.values, if_pos (Context.isStored_of_mem stored)]

/-- Selecting a row of a saved animal gives the animal, in every store that holds the
row and wherever the screen shows it. -/
theorem didSelectItemAt_favoriteOf (deleted : Favorite → Favorite) {data : Data} {vc : FavoriteVC}
    {item objectID : Nat} (encodes : codec.pngData animal.image = some data)
    (decodes : codec.decode data = some animal.image)
    (stored : favoriteOf codec animal uid objectID ∈ ctx.objects)
    (shown : vc.favorites[item]? = some (favoriteOf codec animal uid objectID)) :
    vc.didSelectItemAt codec deleted ctx item =
      some (favoriteOf codec animal uid objectID, some animal) := by
  have image : (favoriteOf codec animal uid objectID).image = some data := encodes
  rw [FavoriteVC.didSelectItemAt, shown, Option.map_some]
  simp only [values_of_mem deleted stored, image, Option.getD_some, decodes, Option.map_some,
    animalWith_favoriteOf]

end Attributes

/-! ### Opening the detail screen -/

/-- **A favourite reopens as the animal that was saved.** Let the insertion of an animal
whose image has a PNG encoding succeed. The favourites screen opened on the store shows
the new row. Wherever a favourites screen shows it over a store that holds it, whatever
the other rows, selecting it pushes a detail screen with the animal that was saved, and
inserting the animal of that screen with the same uid into any store gives a row with the
same attributes. -/
theorem favorite_reopens (codec : ImageCodec) (deleted : Favorite → Favorite)
    (ctx saved : Context) (animal : Animal) (uid : String) (saves : Bool) (data : Data)
    (favorite : Favorite) (encodes : codec.pngData animal.image = some data)
    (roundTrip : ∀ encoded, codec.pngData animal.image = some encoded →
      codec.decode encoded = some animal.image)
    (inserted : insertFavorite codec animal uid saves ctx = (some favorite, saved)) :
    (∃ item : Nat, (FavoriteVC.opened saved).favorites[item]? = some favorite) ∧
      ∀ (s : FavoriteStack) (vc : FavoriteVC) (item : Nat), s.vc = some vc → s.pushed = none →
        favorite ∈ s.context.objects → vc.favorites[item]? = some favorite →
        ∃ t pushed, step codec deleted s (.select item) = some t ∧ t.pushed = some pushed ∧
          pushed.animal = animal ∧
          ∀ other : Context, ∃ again,
            (insertFavorite codec pushed.animal uid true other).1 = some again ∧
              again.SameAttributes favorite := by
  obtain ⟨rfl, added⟩ := eq_favoriteOf_of_inserted inserted
  constructor
  · -- the screen shows every row of the store
    exact List.mem_iff_getElem?.mp added
  · intro s vc item isOpen onTop stored shown
    have decodes := roundTrip data encodes
    have selected := didSelectItemAt_favoriteOf deleted encodes decodes stored shown
    simp only [step, isOpen, onTop, selected, Option.map_some, Option.some.injEq]
    refine ⟨_, _, rfl, rfl, rfl, ?_⟩
    intro other
    exact ⟨favoriteOf codec animal uid other.nextID, rfl, sameAttributes_favoriteOf _ _⟩

/-- A husky saved behind a corgi and selected. -/
theorem favorite_reopens_husky :
    ∃ saved, insertFavorite .raw .husky "an" true (insertFavorite .raw .corgi "an" true .empty).2 =
        (some (favoriteOf .raw .husky "an" 1), saved) ∧
      ∃ t pushed, step .raw id ⟨saved, some (.opened saved), none⟩ (.select 1) = some t ∧
        t.pushed = some pushed ∧ pushed.animal = .husky := by
  let others := (insertFavorite .raw .corgi "an" true .empty).2
  let saved := (insertFavorite .raw .husky "an" true others).2
  refine ⟨saved, rfl, ?_⟩
  have reopens := (favorite_reopens .raw id others saved .husky "an" true [1]
    (favoriteOf .raw .husky "an" 1) rfl
    (by
      intro encoded same
      cases same
      rfl) rfl).2
  obtain ⟨t, pushed, stepped, isPushed, same, -⟩ := reopens ⟨saved, some (.opened saved), none⟩
    (.opened saved) 1 rfl rfl (List.mem_cons_of_mem _ (List.mem_singleton_self _)) rfl
  exact ⟨t, pushed, stepped, isPushed, same⟩

end PetApp
