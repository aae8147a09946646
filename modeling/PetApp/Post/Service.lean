import PetApp.Lib.Lists
import PetApp.Platform.Firestore
import PetApp.Post.Screen

/-!
How the handbook reaches its screen: `FireBaseService.swift`,
`HandBookUseCase.swift` and `HandBookViewModel.swift`.

The service fetches a collection and decodes each document, the use case passes
the request on, and the view model keeps the list of a successful request. The
collection the service fetches is `FireBaseName.training`.

* `getHandBook_ok` — what the view model keeps when the fetch succeeds.
* `reads_iff`, `same_handBooks_iff` — the decoded list is that of other documents
  exactly when both have the same four fields in the same order.
* `handBooks_of_handbook_iff` — so the list is that of the handbook exactly when
  the training collection holds the same fields, and two databases with one
  handbook give one list exactly when their training collections do.
-/

namespace PetApp

/-- The names of the collections: `FireBaseName.swift`. -/
def FireBaseName.handbook : String := "handbook"

def FireBaseName.training : String := "training"

namespace FireBaseService

/-- `handBooks`, the collection `getHandBook` fetches. -/
def handBooks (firestore : Database) : Collection := firestore FireBaseName.training

/-- The object made of a document; it is the `object`-th one made. -/
def handBook (object : Nat) (document : Document) : HandBook where
  object := object
  animal := document.string "animal"
  description := document.string "description"
  title := (document.string "title").getD ""
  image := some ((document.string "image").getD "")

/-- The decoded snapshot. Nothing in the closure throws, so no document is left
out. -/
def decode (documents : List Document) : List HandBook := documents.mapIdx handBook

/-- `getHandBook`, as the result handed to its completion. -/
def getHandBook (firestore : Database) (error : Option String) : Except String (List HandBook) :=
  match (handBooks firestore).getDocuments error with
  | .error error => .error error
  | .ok documents => .ok (decode documents)

theorem nodup_decode (documents : List Document) : (decode documents).Nodup := by
  have numbered : ∀ object document, (handBook object document).object = object :=
    fun _ _ => rfl
  exact Lists.nodup_mapIdx numbered documents

end FireBaseService

/-- `HandBookUseCase.getHandBook`. -/
def HandBookUseCase.getHandBook (firestore : Database) (error : Option String) :
    Except String (List HandBook) :=
  FireBaseService.getHandBook firestore error

/-- `HandBookViewModel`. -/
structure HandBookViewModel where
  handBookAnimals : List HandBook := []

namespace HandBookViewModel

/-- `getHandBook`: the view model afterwards, and whether it calls the completion. -/
def getHandBook (firestore : Database) (error : Option String) (viewModel : HandBookViewModel) :
    HandBookViewModel × Bool :=
  match HandBookUseCase.getHandBook firestore error with
  | .ok data => ({ viewModel with handBookAnimals := data }, true)
  | .error _ => (viewModel, false)

/-- `handBooks`. -/
def handBooks (viewModel : HandBookViewModel) : List HandBook := viewModel.handBookAnimals

/-- The list of the screen after a load that succeeds. -/
def loadedHandBooks (firestore : Database) (viewModel : HandBookViewModel) : List HandBook :=
  (getHandBook firestore none viewModel).1.handBooks

/-- A load that succeeds keeps the decoded documents of the service's collection. -/
theorem getHandBook_ok (firestore : Database) (viewModel : HandBookViewModel) :
    viewModel.loadedHandBooks firestore =
      FireBaseService.decode (FireBaseService.handBooks firestore).documents := rfl

end HandBookViewModel

/-! ### What the screen reads of a document -/

/-- The fields of a post of the handbook. -/
structure PostFields where
  animal : Option String
  description : Option String
  title : String
  image : String
deriving DecidableEq

/-- The fields as a document gives them, title and image defaulting to empty. -/
def Document.postFields (document : Document) : PostFields where
  animal := document.string "animal"
  description := document.string "description"
  title := (document.string "title").getD ""
  image := (document.string "image").getD ""

/-- One post per document, in order, with the fields of the document. -/
def ReadsDocuments (documents : List Document) (handBooks : List HandBook) : Prop :=
  List.Forall₂ (fun document handBook =>
    handBook.animal = document.string "animal" ∧
    handBook.description = document.string "description" ∧
    handBook.title = (document.string "title").getD "" ∧
    handBook.image = some ((document.string "image").getD "")) documents handBooks

namespace FireBaseService

/-- Two snapshots decode to one list exactly when they have the same fields. -/
theorem same_handBooks_iff (documents documents' : List Document) :
    decode documents = decode documents' ↔
      documents.map Document.postFields = documents'.map Document.postFields := by
  apply Lists.mapIdx_eq_mapIdx_iff_map
  intro object document document'
  simp [handBook, Document.postFields]

/-- A snapshot decodes to the posts of other documents exactly when both have the
same fields. -/
theorem reads_iff (documents documents' : List Document) :
    ReadsDocuments documents' (decode documents) ↔
      documents.map Document.postFields = documents'.map Document.postFields := by
  apply Lists.forall₂_mapIdx_iff_map
  intro object document document'
  simp [handBook, Document.postFields]

end FireBaseService

namespace HandBookViewModel

/-- **Where the handbook screen reads from.** For every database, the list has
one entry per handbook document, in order, with the document's fields, exactly
when the training collection holds posts with the same fields; and for every two
databases with the same handbook, the lists are the same exactly when their
training collections hold posts with the same fields. -/
theorem handBooks_of_handbook_iff (viewModel : HandBookViewModel) (firestore firestore' : Database) :
    (ReadsDocuments (firestore FireBaseName.handbook).documents
        (viewModel.loadedHandBooks firestore) ↔
      (firestore FireBaseName.training).documents.map Document.postFields =
        (firestore FireBaseName.handbook).documents.map Document.postFields) ∧
    ((firestore FireBaseName.handbook = firestore' FireBaseName.handbook →
        viewModel.loadedHandBooks firestore = viewModel.loadedHandBooks firestore') ↔
      (firestore FireBaseName.handbook = firestore' FireBaseName.handbook →
        (firestore FireBaseName.training).documents.map Document.postFields =
          (firestore' FireBaseName.training).documents.map Document.postFields)) := by
  simp only [getHandBook_ok]
  refine ⟨FireBaseService.reads_iff _ _, ?_⟩
  apply imp_congr_right
  intro _
  exact FireBaseService.same_handBooks_iff _ _

/-- A database with one post in the training collection and none elsewhere. -/
def oneTraining (title : String) : Database := fun name =>
  if name = FireBaseName.training then
    ⟨[.ofFields "t" [("title", .string title)]], List.nodup_singleton _⟩
  else ⟨[], List.nodup_nil⟩

/-- Without a handbook the screen shows the training post, and it changes with
it. -/
theorem handbook_shows_training :
    oneTraining "Sit" FireBaseName.handbook = oneTraining "Stay" FireBaseName.handbook ∧
      ({} : HandBookViewModel).loadedHandBooks (oneTraining "Sit") ≠
        ({} : HandBookViewModel).loadedHandBooks (oneTraining "Stay") ∧
      ¬ ReadsDocuments (oneTraining "Sit" FireBaseName.handbook).documents
        (({} : HandBookViewModel).loadedHandBooks (oneTraining "Sit")) := by
  refine ⟨rfl, by decide, ?_⟩
  rintro ⟨⟩

end HandBookViewModel

end PetApp
