import Mathlib.Tactic.Ring
import PetApp.Lib.Scale
import PetApp.Library.ListView

/-!
Loading the pet library: `setData` and `resizeImage` of `ListViewController.swift`.

The picture of a document passes four fallbacks: no link or a bad one, a download that
fails, data that are no image, and at last `UIImage()`, which is empty. `resizeImage`
divides by the size of whatever came out and unwraps the image of a graphics context,
which is `nil` for a context without a positive size. Sizes are computed without
rounding.

* `resizeImage_of_pos` — a picture of positive size is scaled by the largest factor that
  fits it into the target.
* `resizeImage_of_zero` — on a picture without width or height the unwrapping traps.
* `loadAnimals_eq_arrAnimal` — a load that does not trap gives the animals of
  `ListViewController.arrAnimal`.
* `library_loads_iff` — a load goes through exactly when the link of every document
  leads to a picture of positive size.
-/

namespace PetApp

/-- Where links lead: `URL(string:)`, `URL(fileURLWithPath: "")` and
`try? Data(contentsOf:)`. -/
structure Links (URL : Type) where
  url : String → Option URL
  fileURL : URL
  contents : URL → Option Data

/-- A `CGSize`. -/
structure CGSize where
  width : Extended
  height : Extended
deriving DecidableEq

/-- `image.draw(in:)` into a context of the size and
`UIGraphicsGetImageFromCurrentImageContext()`. Without a positive size the answer is `nil`;
`draw` gives the pixels. -/
def imageFromCurrentContext (draw : UIImage → ℚ → ℚ → Data) (image : UIImage) (size : CGSize) :
    Option UIImage :=
  match size.width, size.height with
  | .finite width, .finite height =>
      if 0 < width ∧ 0 < height then some ⟨width, height, draw image width height⟩ else none
  | _, _ => none

namespace ListViewController

section Load

variable {URL : Type} (links : Links URL) (codec : ImageCodec) (draw : UIImage → ℚ → ℚ → Data)

/-- `newSize` of `resizeImage`. -/
def newSize (image : UIImage) (targetSize : CGSize) : CGSize :=
  let widthRatio := targetSize.width / .finite image.width
  let heightRatio := targetSize.height / .finite image.height
  if heightRatio.lt widthRatio then
    ⟨.finite image.width * heightRatio, .finite image.height * heightRatio⟩
  else ⟨.finite image.width * widthRatio, .finite image.height * widthRatio⟩

/-- `resizeImage`. `none` is the trap of `newImage!`. -/
def resizeImage (image : UIImage) (targetSize : CGSize) : Option UIImage :=
  imageFromCurrentContext draw image (newSize image targetSize)

/-- `imageLink`, of the field `image`. -/
def imageLink (image : String) : URL := (links.url image).getD links.fileURL

/-- `imageAnimal`: the picture behind the link, or `UIImage()`. -/
def imageAnimal (image : String) : UIImage :=
  (codec.decode ((links.contents (imageLink links image)).getD [])).getD .empty

/-- The picture behind a link as `loadData` resizes it. -/
def listImage (image : String) : Option UIImage :=
  resizeImage draw (imageAnimal links codec image) ⟨.finite 400, .finite 300⟩

/-- `loadData`: the animal of a document. -/
def loadData (document : Document) : Option Animal :=
  (listImage links codec draw ((document.string "image").getD "")).map fun image =>
    Animal.ofDocument (fun _ => image) document

/-- The list `setData` builds. `none` when one of the documents traps. -/
def loadAnimals (documents : List Document) : Option (List Animal) :=
  documents.mapM (loadData links codec draw)

end Load

/-! ### Resizing -/

section Resizing

variable {draw : UIImage → ℚ → ℚ → Data} {image : UIImage} {boxWidth boxHeight : ℚ}

/-- The new size of a picture of positive size is its size times the largest factor that
fits it into the target. -/
theorem newSize_of_pos (width_pos : 0 < image.width) (height_pos : 0 < image.height) :
    newSize image ⟨.finite boxWidth, .finite boxHeight⟩ =
      ⟨.finite (image.width * Scale.ratio boxWidth boxHeight image.width image.height),
        .finite (image.height * Scale.ratio boxWidth boxHeight image.width image.height)⟩ := by
  rw [newSize, Extended.finite_div_finite width_pos.ne', Extended.finite_div_finite height_pos.ne',
    Scale.ratio]
  by_cases wide : boxHeight / image.height < boxWidth / image.width
  · simp [wide, min_eq_right wide.le]
  · simp [wide, min_eq_left (not_lt.mp wide)]

theorem resizeImage_of_pos (boxWidth_pos : 0 < boxWidth) (boxHeight_pos : 0 < boxHeight)
    (width_pos : 0 < image.width) (height_pos : 0 < image.height) :
    resizeImage draw image ⟨.finite boxWidth, .finite boxHeight⟩ =
      let factor := Scale.ratio boxWidth boxHeight image.width image.height
      some ⟨image.width * factor, image.height * factor,
        draw image (image.width * factor) (image.height * factor)⟩ := by
  have factor_pos := Scale.ratio_pos boxWidth_pos boxHeight_pos width_pos height_pos
  rw [resizeImage, newSize_of_pos width_pos height_pos]
  exact if_pos ⟨mul_pos width_pos factor_pos, mul_pos height_pos factor_pos⟩

/-- Without width the quotient of the widths is infinite, and without height that of the
heights: one side of the new size is zero or no number, and the unwrapping traps. -/
theorem resizeImage_of_zero (boxWidth_pos : 0 < boxWidth) (boxHeight_pos : 0 < boxHeight)
    (zero : image.width = 0 ∨ image.height = 0) :
    resizeImage draw image ⟨.finite boxWidth, .finite boxHeight⟩ = none := by
  rw [resizeImage, newSize]
  by_cases width_zero : image.width = 0
  · by_cases height_zero : image.height = 0
    · simp [width_zero, height_zero, Extended.finite_div_zero boxWidth_pos,
        Extended.finite_div_zero boxHeight_pos, imageFromCurrentContext]
    · simp [width_zero, Extended.finite_div_zero boxWidth_pos,
        Extended.finite_div_finite height_zero, imageFromCurrentContext]
  · have height_zero := zero.resolve_left width_zero
    simp [height_zero, Extended.finite_div_zero boxHeight_pos,
      Extended.finite_div_finite width_zero, imageFromCurrentContext]

end Resizing

/-! ### The picture of a document -/

/-- A size for the list: the aspect ratio is kept, both bounds are respected and one of
them is met. -/
def FitsList (image resized : UIImage) : Prop :=
  resized.width * image.height = resized.height * image.width ∧
    resized.width ≤ 400 ∧ resized.height ≤ 300 ∧ (resized.width = 400 ∨ resized.height = 300)

/-- The link leads to the data of a picture of positive size. -/
def HasPicture {URL : Type} (links : Links URL) (codec : ImageCodec) (image : String) : Prop :=
  ∃ data picture, links.contents (imageLink links image) = some data ∧
    codec.decode data = some picture ∧ 0 < picture.width ∧ 0 < picture.height

/-- What `UIImage(data:)` promises: no image without data, and none of negative size. -/
structure Decodes (codec : ImageCodec) : Prop where
  noData : codec.decode [] = none
  nonneg : ∀ data picture, codec.decode data = some picture →
    0 ≤ picture.width ∧ 0 ≤ picture.height

section Picture

variable {URL : Type} {links : Links URL} {codec : ImageCodec} {draw : UIImage → ℚ → ℚ → Data}
  {image : String}

/-- A picture of positive size is resized to fit the list. -/
theorem resizeImage_fitsList (draw : UIImage → ℚ → ℚ → Data) {picture : UIImage}
    (width_pos : 0 < picture.width) (height_pos : 0 < picture.height) :
    ∃ resized, resizeImage draw picture ⟨.finite 400, .finite 300⟩ = some resized ∧
      FitsList picture resized := by
  refine ⟨_, resizeImage_of_pos (by norm_num) (by norm_num) width_pos height_pos, ?_⟩
  obtain ⟨width_le, height_le⟩ := (Scale.le_ratio_iff width_pos height_pos).mp le_rfl
  refine ⟨?_, width_le, height_le, Scale.ratio_meets width_pos.ne' height_pos.ne'⟩
  show picture.width * _ * picture.height = picture.height * _ * picture.width
  ring

/-- The fallbacks end in no picture of negative size. -/
theorem imageAnimal_nonneg (decodes : Decodes codec) (links : Links URL) (image : String) :
    0 ≤ (imageAnimal links codec image).width ∧ 0 ≤ (imageAnimal links codec image).height := by
  unfold imageAnimal
  cases decoded : codec.decode ((links.contents (imageLink links image)).getD []) with
  | none => exact ⟨le_rfl, le_rfl⟩
  | some picture => exact decodes.nonneg _ picture decoded

/-- They end in a picture of positive size exactly when the link leads to one. -/
theorem hasPicture_iff (decodes : Decodes codec) :
    HasPicture links codec image ↔
      0 < (imageAnimal links codec image).width ∧ 0 < (imageAnimal links codec image).height := by
  unfold HasPicture imageAnimal
  cases contents : links.contents (imageLink links image) with
  | none => simp [decodes.noData, UIImage.empty]
  | some data =>
      cases decoded : codec.decode data with
      | none => simp [decoded, UIImage.empty]
      | some picture => simp [decoded]

/-- A picture behind the link is resized to fit the list. -/
theorem listImage_of_hasPicture (decodes : Decodes codec) (draw : UIImage → ℚ → ℚ → Data)
    (has : HasPicture links codec image) :
    ∃ resized, listImage links codec draw image = some resized ∧
      FitsList (imageAnimal links codec image) resized := by
  obtain ⟨width_pos, height_pos⟩ := (hasPicture_iff decodes).mp has
  exact resizeImage_fitsList draw width_pos height_pos

/-- Without a picture behind the link the unwrapping traps. -/
theorem hasPicture_of_listImage (decodes : Decodes codec) {resized : UIImage}
    (isResized : listImage links codec draw image = some resized) :
    HasPicture links codec image := by
  obtain ⟨width_nonneg, height_nonneg⟩ := imageAnimal_nonneg decodes links image
  rw [hasPicture_iff decodes, width_nonneg.lt_iff_ne', height_nonneg.lt_iff_ne', ← not_or]
  intro zero
  rw [listImage, resizeImage_of_zero (by norm_num) (by norm_num) zero] at isResized
  cases isResized

end Picture

/-! ### Loading -/

/-- What is asked of a load: no size it divides by is zero, and it goes through with an
animal for each document in order, with the strings of the document and a picture that
fits the list. -/
structure Loads {URL : Type} (links : Links URL) (codec : ImageCodec)
    (draw : UIImage → ℚ → ℚ → Data) (documents : List Document) : Prop where
  divides : ∀ document ∈ documents,
    (imageAnimal links codec ((document.string "image").getD "")).width ≠ 0 ∧
      (imageAnimal links codec ((document.string "image").getD "")).height ≠ 0
  yields : ∃ animals, loadAnimals links codec draw documents = some animals ∧
    List.Forall₂ (fun document animal =>
      animal = Animal.ofDocument (fun _ => animal.image) document ∧
        FitsList (imageAnimal links codec ((document.string "image").getD "")) animal.image)
      documents animals

section Loading

variable {URL : Type} {links : Links URL} {codec : ImageCodec} {draw : UIImage → ℚ → ℚ → Data}
  {documents : List Document}

/-- With a picture behind every link, a load gives the animals of the total model. -/
theorem loadAnimals_eq_arrAnimal (decodes : Decodes codec)
    (pictures : ∀ document ∈ documents,
      HasPicture links codec ((document.string "image").getD "")) :
    loadAnimals links codec draw documents =
      some (arrAnimal (fun image => (listImage links codec draw image).getD .empty) documents) := by
  apply Lists.mapM_eq_some_map
  intro document member
  obtain ⟨resized, isResized, -⟩ := listImage_of_hasPicture decodes draw (pictures document member)
  rw [loadData, Animal.ofDocument, isResized]
  rfl

/-- A load that goes through has a picture behind every link. -/
theorem hasPicture_of_loadAnimals (decodes : Decodes codec) {animals : List Animal}
    (loaded : loadAnimals links codec draw documents = some animals) {document : Document}
    (member : document ∈ documents) :
    HasPicture links codec ((document.string "image").getD "") := by
  obtain ⟨animal, isLoaded⟩ := Lists.exists_of_mapM_eq_some loaded member
  obtain ⟨resized, isResized, -⟩ := Option.map_eq_some_iff.mp isLoaded
  exact hasPicture_of_listImage decodes isResized

end Loading

/-- **When the pet library loads.** A picture of positive size is always resized to a size
of the same aspect ratio that fits in 400 × 300 and meets one of the bounds. A snapshot
loads, without a division by zero and without unwrapping `nil`, exactly when the link of
each of its documents leads to the data of a picture of positive size. -/
theorem library_loads_iff {URL : Type} (links : Links URL) (codec : ImageCodec)
    (decodes : Decodes codec) (draw : UIImage → ℚ → ℚ → Data) :
    (∀ picture : UIImage, 0 < picture.width → 0 < picture.height →
      ∃ resized, resizeImage draw picture ⟨.finite 400, .finite 300⟩ = some resized ∧
        FitsList picture resized) ∧
      ∀ documents : List Document, Loads links codec draw documents ↔
        ∀ document ∈ documents, HasPicture links codec ((document.string "image").getD "") := by
  refine ⟨fun picture => resizeImage_fitsList draw, ?_⟩
  intro documents
  constructor
  · intro loads document member
    obtain ⟨animals, loaded, -⟩ := loads.yields
    exact hasPicture_of_loadAnimals decodes loaded member
  · intro pictures
    constructor
    case divides =>
      intro document member
      obtain ⟨width_pos, height_pos⟩ := (hasPicture_iff decodes).mp (pictures document member)
      exact ⟨width_pos.ne', height_pos.ne'⟩
    case yields =>
      refine ⟨_, loadAnimals_eq_arrAnimal decodes pictures, ?_⟩
      rw [arrAnimal, List.forall₂_map_right_iff, List.forall₂_same]
      intro document member
      refine ⟨rfl, ?_⟩
      obtain ⟨resized, isResized, fits⟩ :=
        listImage_of_hasPicture decodes draw (pictures document member)
      have image : (Animal.ofDocument (fun image => (listImage links codec draw image).getD .empty)
          document).image = resized := by
        rw [Animal.ofDocument, isResized, Option.getD_some]
      rw [image]
      exact fits

/-- A network on which every link but the empty one leads to a picture. -/
def onePicture : Links String where
  url link := if link.isEmpty then none else some link
  fileURL := ""
  contents url := if url.isEmpty then none else some [1]

theorem decodes_raw : Decodes .raw where
  noData := rfl
  nonneg := by
    intro data picture decoded
    cases data with
    | nil => cases decoded
    | cons byte data =>
        cases decoded
        exact ⟨zero_le_one, zero_le_one⟩

/-- A library of one animal with a picture. -/
theorem library_loads_one :
    Decodes .raw ∧
      Loads onePicture .raw (fun picture _ _ => picture.pixels)
        [.ofFields "1" [("species", .string "Husky"), ("image", .string "husky.png")]] := by
  refine ⟨decodes_raw, ?_⟩
  apply ((library_loads_iff onePicture .raw decodes_raw fun picture _ _ => picture.pixels).2 _).mpr
  intro document member
  obtain rfl := List.mem_singleton.mp member
  exact ⟨[1], ⟨1, 1, [1]⟩, rfl, rfl, zero_lt_one, zero_lt_one⟩

/-- One animal without a picture, and the whole library traps. -/
theorem library_traps_without_image :
    loadAnimals onePicture .raw (fun picture _ _ => picture.pixels)
        [.ofFields "1" [("species", .string "Husky"), ("image", .string "husky.png")],
          .ofFields "2" [("species", .string "Corgi")]] = none ∧
      ¬Loads onePicture .raw (fun picture _ _ => picture.pixels)
        [.ofFields "1" [("species", .string "Husky"), ("image", .string "husky.png")],
          .ofFields "2" [("species", .string "Corgi")]] := by
  have traps : loadAnimals onePicture .raw (fun picture _ _ => picture.pixels)
      [.ofFields "1" [("species", .string "Husky"), ("image", .string "husky.png")],
        .ofFields "2" [("species", .string "Corgi")]] = none := by
    rw [Option.eq_none_iff_forall_ne_some]
    intro animals loaded
    obtain ⟨data, -, noContents, -⟩ := hasPicture_of_loadAnimals decodes_raw loaded
      (List.mem_cons_of_mem _ (List.mem_singleton_self _))
    cases noContents
  refine ⟨traps, ?_⟩
  intro loads
  obtain ⟨animals, loaded, -⟩ := loads.yields
  rw [traps] at loaded
  cases loaded

end ListViewController

end PetApp
