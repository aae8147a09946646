import PetApp.Library.Load
import PetApp.Pet.Records
import PetApp.Post.Table

/-!
The loading overlay of the five screens that fetch a collection.

Each screen presents a `LoadingView` and fetches; the fetch callback changes the
screen at once or queues blocks on the main queue, and some of these dismiss the
overlay. A `FetchCallback` is what one outcome of the fetch does; the queued blocks
have deadlines of their own, so they are run in any order. Of a screen only the
loaded list is kept here; what a reload makes of it is a matter of the tables.

The list, the health book and the list of pets dismiss the overlay on both paths,
but the list builds its animals first, and `loadAnimals` traps on a document without
a picture. The completion of the handbook is called on success only, and the training
screen only prints the error.

* `releases_of_now`, `releases_of_queued` — a callback releases the overlay when
  it, or one of the blocks it queues, dismisses it.
* `not_releases_of_idle` — a callback that changes nothing does not.
* `releases_list_iff` — the list releases it unless its animals trap.
* `overlay_released_iff` — so a load releases its overlay exactly when it is neither a
  failed load of the handbook or of the training screen, nor a load of the list with a
  document without a picture.
-/

namespace PetApp

/-- A screen, and whether its `LoadingView` is presented. -/
structure Overlaid (σ : Type) where
  screen : σ
  loadingView : Bool

namespace Overlaid

variable {σ : Type}

/-- `loadingView.didDismissView()`. -/
def didDismissView (s : Overlaid σ) : Overlaid σ := { s with loadingView := false }

/-- A change of the screen. -/
def modify (change : σ → σ) (s : Overlaid σ) : Overlaid σ := { s with screen := change s.screen }

end Overlaid

/-- A fetch callback on one outcome: what it does at once, and the blocks it
queues. -/
structure FetchCallback (σ : Type) where
  now : Overlaid σ → Overlaid σ
  queued : List (Overlaid σ → Overlaid σ)

namespace FetchCallback

variable {σ : Type}

/-- After the callback and every queued block, in any order, the overlay that was
presented is dismissed. -/
def Releases (callback : FetchCallback σ) : Prop :=
  ∀ (screen : σ) (order : List (Overlaid σ → Overlaid σ)), order.Perm callback.queued →
    (order.foldl (fun s block => block s) (callback.now ⟨screen, true⟩)).loadingView = false

/-- The callback that only prints. -/
def idle : FetchCallback σ := ⟨id, []⟩

/-- No block presents the overlay again. -/
def KeepsDismissed (callback : FetchCallback σ) : Prop :=
  ∀ block ∈ callback.queued, ∀ s : Overlaid σ, s.loadingView = false → (block s).loadingView = false

theorem foldl_dismissed {blocks : List (Overlaid σ → Overlaid σ)}
    (keeps : ∀ block ∈ blocks, ∀ s : Overlaid σ, s.loadingView = false →
      (block s).loadingView = false)
    {s : Overlaid σ} (dismissed : s.loadingView = false) :
    (blocks.foldl (fun s block => block s) s).loadingView = false := by
  induction blocks generalizing s with
  | nil => exact dismissed
  | cons block blocks ih =>
      refine ih (fun b member => keeps b (List.mem_cons_of_mem _ member)) ?_
      exact keeps block List.mem_cons_self s dismissed

/-- The overlay that the callback dismisses at once stays dismissed. -/
theorem releases_of_now {callback : FetchCallback σ} (keeps : callback.KeepsDismissed)
    (dismisses : ∀ s, (callback.now s).loadingView = false) : callback.Releases := by
  intro screen order perm
  apply foldl_dismissed
  · intro block member
    exact keeps block (perm.subset member)
  · exact dismisses _

/-- A queued block that dismisses the overlay is run at some point. -/
theorem releases_of_queued {callback : FetchCallback σ} (keeps : callback.KeepsDismissed)
    {block : Overlaid σ → Overlaid σ} (queued : block ∈ callback.queued)
    (dismisses : ∀ s, (block s).loadingView = false) : callback.Releases := by
  intro screen order perm
  obtain ⟨before, after, rfl⟩ := List.append_of_mem (perm.symm.subset queued)
  rw [List.foldl_append, List.foldl_cons]
  apply foldl_dismissed
  · intro later member
    exact keeps later (perm.subset (List.mem_append_right _ (List.mem_cons_of_mem _ member)))
  · exact dismisses _

/-- A single queued block that dismisses the overlay releases it. -/
theorem releases_of_only {now block : Overlaid σ → Overlaid σ}
    (dismisses : ∀ s, (block s).loadingView = false) :
    (⟨now, [block]⟩ : FetchCallback σ).Releases := by
  refine releases_of_queued ?_ List.mem_cons_self dismisses
  intro other queued s _
  cases List.mem_singleton.mp queued
  exact dismisses s

theorem not_releases_of_idle [Nonempty σ] : ¬ (idle : FetchCallback σ).Releases := by
  intro releases
  obtain ⟨screen⟩ := ‹Nonempty σ›
  have dismissed := releases screen [] List.Perm.nil
  cases dismissed

/-- A load that only prints its error, and dismisses the overlay in a block it queues on
success, releases it on success alone. -/
theorem releases_iff_of_success [Nonempty σ] (load : Option String → FetchCallback σ)
    {now block : Overlaid σ → Overlaid σ} (failed : ∀ message, load (some message) = idle)
    (loaded : load none = ⟨now, [block]⟩) (dismisses : ∀ s, (block s).loadingView = false)
    (error : Option String) : (load error).Releases ↔ error = none := by
  cases error with
  | some message =>
      rw [failed]
      exact iff_of_false not_releases_of_idle (by simp)
  | none =>
      rw [loaded]
      exact iff_of_true (releases_of_only dismisses) rfl

end FetchCallback

/-! ### The five loads -/

section Loads

variable (firestore : Database) (error : Option String) {URL : Type} (links : Links URL)
  (codec : ImageCodec) (draw : UIImage → ℚ → ℚ → Data)

/-- `ListViewController.initData`: the callback dismisses the overlay last, on
both paths. `none` when `setData` traps before that. -/
def ListViewController.initData : Option (FetchCallback ListViewController) :=
  match (firestore "petLibrary").getDocuments error with
  | .error _ => some ⟨Overlaid.didDismissView, []⟩
  | .ok documents =>
      (loadAnimals links codec draw documents).map fun arrAnimal =>
        ⟨Overlaid.didDismissView, [Overlaid.modify (setData arrAnimal)]⟩

/-- `HandBookViewController.didLoadHandBook`, with its view model: only the
completion dismisses the overlay, and only a success calls it. -/
def HandBookViewController.didLoadHandBook (viewModel : HandBookViewModel) :
    FetchCallback (List HandBook) :=
  match viewModel.getHandBook firestore error with
  | (_, false) => .idle
  | (loaded, true) => ⟨Overlaid.modify fun _ => loaded.handBooks, [Overlaid.didDismissView]⟩

/-- `TrainingViewController.didLoadTraining` and `setData`: the error is only
printed. The pictures pass the fallbacks of the list, but are not resized. -/
def TrainingViewController.didLoadTraining : FetchCallback (List Training) :=
  match (firestore "training").getDocuments error with
  | .error _ => .idle
  | .ok documents =>
      ⟨id, [fun s => s.didDismissView.modify fun _ =>
        Training.setData (ListViewController.imageAnimal links codec) documents]⟩

/-- `PetHealthBookViewController.initData` and `setData`. -/
def PetHealthBookViewController.initData (uid : Option String) : FetchCallback (List HeathBook) :=
  match (firestore "heathBook").getDocuments error with
  | .error _ => ⟨Overlaid.didDismissView, []⟩
  | .ok documents =>
      ⟨id, [Overlaid.modify fun _ => setData uid documents, Overlaid.didDismissView]⟩

/-- `ListPetViewController.initPetData` and `setPetData`. -/
def ListPetViewController.initPetData (uid : Option String) : FetchCallback (List PetInformation) :=
  { now := id
    queued :=
      (match (firestore "myPet").getDocuments error with
        | .error _ => []
        | .ok documents => [Overlaid.modify fun _ => setPetData uid documents]) ++
      [Overlaid.didDismissView] }

end Loads

/-- The screens with an overlay. -/
inductive LoadingScreen where
  | list
  | handBook
  | training
  | petHealthBook
  | listPet
deriving DecidableEq, Repr

/-- The load of the screen goes through and releases its overlay. -/
def LoadingScreen.Releases {URL : Type} (links : Links URL) (codec : ImageCodec)
    (draw : UIImage → ℚ → ℚ → Data) (uid : Option String) (viewModel : HandBookViewModel)
    (firestore : Database) (error : Option String) : LoadingScreen → Prop
  | .list => ∃ callback, ListViewController.initData firestore error links codec draw =
      some callback ∧ callback.Releases
  | .handBook => (HandBookViewController.didLoadHandBook firestore error viewModel).Releases
  | .training => (TrainingViewController.didLoadTraining firestore error links codec).Releases
  | .petHealthBook => (PetHealthBookViewController.initData firestore error uid).Releases
  | .listPet => (ListPetViewController.initPetData firestore error uid).Releases

section Facts

variable {URL : Type} {links : Links URL} {codec : ImageCodec} {draw : UIImage → ℚ → ℚ → Data}
  {uid : Option String} {viewModel : HandBookViewModel} {firestore : Database}

theorem keepsDismissed_modify {σ : Type} (change : σ → σ) (s : Overlaid σ)
    (dismissed : s.loadingView = false) : (s.modify change).loadingView = false := dismissed

/-- The list dismisses the overlay on both paths, once its animals are built. -/
theorem releases_list_iff (decodes : ListViewController.Decodes codec) (error : Option String) :
    (∃ callback, ListViewController.initData firestore error links codec draw = some callback ∧
      callback.Releases) ↔
      (error = none → ∀ document ∈ (firestore "petLibrary").documents,
        ListViewController.HasPicture links codec ((document.string "image").getD "")) := by
  cases error with
  | some message =>
      refine iff_of_true ⟨⟨Overlaid.didDismissView, []⟩, rfl, ?_⟩ (by simp)
      refine FetchCallback.releases_of_now ?_ fun _ => rfl
      rintro block ⟨⟩
  | none =>
      constructor
      · rintro ⟨callback, goesThrough, -⟩ - document member
        obtain ⟨animals, loaded, -⟩ := Option.map_eq_some_iff.mp goesThrough
        exact ListViewController.hasPicture_of_loadAnimals decodes loaded member
      · intro pictures
        have loaded : ListViewController.loadAnimals links codec draw
            (firestore "petLibrary").documents = some _ :=
          ListViewController.loadAnimals_eq_arrAnimal decodes (pictures rfl)
        refine ⟨_, congrArg (Option.map _) loaded, ?_⟩
        refine FetchCallback.releases_of_now ?_ fun _ => rfl
        intro block queued
        cases List.mem_singleton.mp queued
        exact keepsDismissed_modify _

/-- The two screens that dismiss the overlay on both paths. -/
theorem releases_petHealthBook (error : Option String) :
    (PetHealthBookViewController.initData firestore error uid).Releases := by
  cases error with
  | some message =>
      refine FetchCallback.releases_of_now ?_ fun _ => rfl
      rintro block ⟨⟩
  | none =>
      refine FetchCallback.releases_of_queued ?_ (.tail _ (.head _)) fun _ => rfl
      rintro block (_ | ⟨_, _ | ⟨_, ⟨⟩⟩⟩)
      · exact keepsDismissed_modify _
      · exact fun _ _ => rfl

theorem releases_listPet (error : Option String) :
    (ListPetViewController.initPetData firestore error uid).Releases := by
  refine FetchCallback.releases_of_queued ?_
    (List.mem_append_right _ List.mem_cons_self) fun _ => rfl
  intro block queued
  rcases List.mem_append.mp queued with first | last
  · cases error with
    | some message => cases first
    | none =>
        cases List.mem_singleton.mp first
        exact keepsDismissed_modify _
  · cases List.mem_singleton.mp last
    exact fun _ _ => rfl

/-- The two screens that dismiss it on success only. -/
theorem releases_handBook_iff (error : Option String) :
    (HandBookViewController.didLoadHandBook firestore error viewModel).Releases ↔
      error = none := by
  apply FetchCallback.releases_iff_of_success
    fun error => HandBookViewController.didLoadHandBook firestore error viewModel
  · intro message
    rfl
  · rfl
  · intro s
    rfl

theorem releases_training_iff (error : Option String) :
    (TrainingViewController.didLoadTraining firestore error links codec).Releases ↔
      error = none := by
  apply FetchCallback.releases_iff_of_success
    fun error => TrainingViewController.didLoadTraining firestore error links codec
  · intro message
    rfl
  · rfl
  · intro s
    rfl

end Facts

/-- **When a load releases its overlay.** For each of the five screens, every
database and every outcome of the fetch: the callback goes through, and after it and
every block it queued the overlay is dismissed, exactly when the load is not a failed
one of the handbook or of the training screen, and not one of the list with a document
whose link leads to no picture. -/
theorem overlay_released_iff {URL : Type} (links : Links URL) (codec : ImageCodec)
    (decodes : ListViewController.Decodes codec) (draw : UIImage → ℚ → ℚ → Data)
    (uid : Option String) (viewModel : HandBookViewModel) (firestore : Database)
    (error : Option String) (screen : LoadingScreen) :
    screen.Releases links codec draw uid viewModel firestore error ↔
      (screen = .handBook ∨ screen = .training → error = none) ∧
        (screen = .list → error = none → ∀ document ∈ (firestore "petLibrary").documents,
          ListViewController.HasPicture links codec ((document.string "image").getD "")) := by
  cases screen with
  | list => simpa [LoadingScreen.Releases] using releases_list_iff decodes error
  | handBook => simpa [LoadingScreen.Releases] using releases_handBook_iff error
  | training => simpa [LoadingScreen.Releases] using releases_training_iff error
  | petHealthBook => exact iff_of_true (releases_petHealthBook error) (by simp)
  | listPet => exact iff_of_true (releases_listPet error) (by simp)

/-- A database whose collections all hold one animal, with a picture behind the link. -/
def oneHusky : Database := fun _ =>
  ⟨[.ofFields "1" [("species", .string "Husky"), ("image", .string "husky.png")]],
    List.nodup_singleton _⟩

/-- With a picture for every animal and no error, all five screens release their overlays. -/
theorem overlay_released_online :
    ListViewController.Decodes .raw ∧
      ∀ screen : LoadingScreen, screen.Releases ListViewController.onePicture .raw
        (fun picture _ _ => picture.pixels) (some "an") {} oneHusky none := by
  refine ⟨ListViewController.decodes_raw, ?_⟩
  intro screen
  rw [overlay_released_iff _ _ ListViewController.decodes_raw]
  refine ⟨fun _ => rfl, ?_⟩
  intro _ _ document member
  obtain rfl := List.mem_singleton.mp member
  exact ⟨[1], ⟨1, 1, [1]⟩, rfl, rfl, zero_lt_one, zero_lt_one⟩

/-- A database whose collections all hold one animal without a picture. -/
def oneCorgi : Database := fun _ =>
  ⟨[.ofFields "2" [("species", .string "Corgi")]], List.nodup_singleton _⟩

/-- Offline, the overlays of the handbook and of the training screen stay. Online, that of
the list stays over a library with an animal without a picture. -/
theorem overlay_stays_offline :
    ¬ LoadingScreen.Releases ListViewController.onePicture .raw
        (fun picture _ _ => picture.pixels) none {} oneCorgi (some "offline") .handBook ∧
      ¬ LoadingScreen.Releases ListViewController.onePicture .raw
        (fun picture _ _ => picture.pixels) none {} oneCorgi (some "offline") .training ∧
      ¬ LoadingScreen.Releases ListViewController.onePicture .raw
        (fun picture _ _ => picture.pixels) none {} oneCorgi none .list := by
  refine ⟨?_, ?_, ?_⟩
  · exact FetchCallback.not_releases_of_idle
  · exact FetchCallback.not_releases_of_idle
  · intro released
    obtain ⟨data, -, noContents, -⟩ :=
      (releases_list_iff ListViewController.decodes_raw none).mp released rfl _
        List.mem_cons_self
    cases noContents

end PetApp
