import PetApp.Lib.Lists
import PetApp.Platform.Firestore
import PetApp.Favorite.Store

/-!
The screen of the pet library: `ListViewController.swift`.

The controller keeps the loaded animals and a filtered list, and shows the
filtered one when `isSelectype` is set. A category tap and the search handler
each compute the filtered list anew; `setData` replaces the loaded animals and
leaves the filtered list alone.
-/

namespace PetApp

/-- The name of a category. Those of `CategoriesTableCell.swift` are cat, bird,
dog and fish; none is empty. -/
abbrev Category := { name : String // name ≠ "" }

/-- The animal `setData` makes of a document. `image` is the picture behind a
link, resized for the list. -/
def Animal.ofDocument (image : String → UIImage) (document : Document) : Animal where
  height := (document.string "height").getD ""
  weight := (document.string "weight").getD ""
  age := (document.string "age").getD ""
  origin := (document.string "origin").getD ""
  type := (document.string "type").getD ""
  species := (document.string "species").getD ""
  information := (document.string "information").getD ""
  history := (document.string "history").getD ""
  image := image ((document.string "image").getD "")
  animal := (document.string "animal").getD ""

/-- The fields of the controller. -/
structure ListViewController where
  animals : List Animal := []
  filterAnimals : List Animal := []
  isSelectype : Bool := false
  animalType : String := ""
deriving DecidableEq

namespace ListViewController

section Controller

variable (foundation : Foundation)

/-- `animal.animal.lowercased() == type.lowercased()`. -/
def hasType (type : String) (animal : Animal) : Bool :=
  foundation.lowercased animal.animal == foundation.lowercased type

/-- `filter`. -/
def filter (type : String) (s : ListViewController) : ListViewController :=
  { s with filterAnimals := s.animals.filter (hasType foundation type) }

/-- `tapCategoriesCellClousure`. -/
def tapCategories (type : String) (s : ListViewController) : ListViewController :=
  { s with animalType := type, isSelectype := true }.filter foundation type

/-- `deleteSearchValueClousure`. -/
def deleteSearchValue (s : ListViewController) : ListViewController :=
  { s with isSelectype := if s.animalType.isEmpty = false then true else false }.filter
    foundation s.animalType

/-- The test of `didStartSearchClousure`. -/
def searches (type searchText : String) (animal : Animal) : Bool :=
  hasType foundation type animal &&
    foundation.contains (foundation.lowercased animal.species) (foundation.lowercased searchText)

/-- `didStartSearchClousure`. -/
def didStartSearch (searchText : String) (s : ListViewController) : ListViewController :=
  { s with
    isSelectype := true
    filterAnimals := s.animals.filter (searches foundation s.animalType searchText) }

/-- The list `setData` builds. -/
def arrAnimal (image : String → UIImage) (documents : List Document) : List Animal :=
  documents.map (Animal.ofDocument image)

/-- The block `setData` queues. -/
def setData (arrAnimal : List Animal) (s : ListViewController) : ListViewController :=
  { s with animals := arrAnimal }

end Controller

/-- `animalData` of `initAnimalsCell`. -/
def animalData (s : ListViewController) : List Animal :=
  if s.isSelectype then s.filterAnimals else s.animals

end ListViewController

end PetApp
