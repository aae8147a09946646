import PetApp.Loading.Overlay

/-!
The two list screens with the forms they push: `ListPetViewController.swift` with
`AddPetViewController.swift`, and `PetHealthBookViewController.swift` with
`NewPetHeathVC.swift`.

A form pops when its document is stored, and the list appears again. The list of
pets fetches in `viewDidAppear`, so each time it appears; the health book fetches
in `viewDidLoad`, and its `viewDidAppear` is empty. Both cover themselves with the
loading overlay until the callback of the fetch has run, so a form is pushed only
when no fetch is outstanding.

`ListController` is a list screen with its form; what tells the two apart is which
lifecycle callback loads.

* `step_cases` — what one event can do.
* `showsOwn_step_iff` — a save breaks the list exactly when the list had been
  answered and does not load on appearing.
* `own_records_shown_iff` — so over whole runs the list of pets always shows the
  user's documents, and the health book does exactly when no record is saved over
  a list that has its answer.
-/

namespace PetApp

open Runs

/-- How the latest fetch of a list screen stands. -/
inductive Fetching where
  | inFlight
  | answered
  | failed
deriving DecidableEq, Repr

/-- A list screen: its records under the overlay, and its latest fetch if it has
started one. -/
structure ListScreen (ρ : Type) where
  shown : Overlaid (List ρ)
  fetching : Option Fetching

/-- Run the callback and then the blocks it queued, in the order of their
deadlines. -/
def FetchCallback.completed {σ : Type} (callback : FetchCallback σ) (s : Overlaid σ) : Overlaid σ :=
  callback.queued.foldl (fun s block => block s) (callback.now s)

namespace ListScreen

variable {ρ : Type}

/-- A screen before `viewDidLoad`. -/
def created : ListScreen ρ := ⟨⟨[], false⟩, none⟩

/-- Present the overlay and start a fetch. -/
def load (screen : ListScreen ρ) : ListScreen ρ :=
  ⟨{ screen.shown with loadingView := true }, some .inFlight⟩

end ListScreen

namespace PetHealthBookViewController

/-- `viewDidLoad`: `setupUI` presents the overlay and calls `initData`. -/
def viewDidLoad (screen : ListScreen HeathBook) : ListScreen HeathBook := screen.load

/-- `viewDidAppear`, whose body is empty. -/
def viewDidAppear (screen : ListScreen HeathBook) : ListScreen HeathBook := screen

end PetHealthBookViewController

namespace ListPetViewController

/-- `viewDidLoad`: `setupUI` loads nothing. -/
def viewDidLoad (screen : ListScreen PetInformation) : ListScreen PetInformation := screen

/-- `viewDidAppear`: presents the overlay and calls `initPetData`. -/
def viewDidAppear (screen : ListScreen PetInformation) : ListScreen PetInformation := screen.load

end ListPetViewController

/-- A list screen with the form that writes its collection. -/
structure ListController (χ ρ : Type) where
  format : RecordFormat χ ρ
  viewDidLoad : ListScreen ρ → ListScreen ρ
  viewDidAppear : ListScreen ρ → ListScreen ρ
  /-- The callback of the fetch, on the collection and the outcome. -/
  fetch : Collection → (error : Option String) → (uid : Option String) → FetchCallback (List ρ)
  /-- The screen loads each time it appears. -/
  reloads : Bool
  opened : ∀ screen, viewDidAppear (viewDidLoad screen) = screen.load
  appears : ∀ screen, viewDidAppear screen = if reloads then screen.load else screen
  answered : ∀ c uid shown, (fetch c none uid).completed shown =
    ⟨(c.documents.map format.read).filter fun record => format.uId record == uid, false⟩

/-- The health book with `NewPetHeathVC`. -/
def PetHealthBookViewController.controller : ListController NewPetHeath HeathBook where
  format := NewPetHeath.format
  viewDidLoad := viewDidLoad
  viewDidAppear := viewDidAppear
  fetch c error uid := initData (fun _ => c) error uid
  reloads := false
  opened _ := rfl
  appears _ := rfl
  answered _ _ _ := rfl

/-- The list of pets with `AddPetViewController`. -/
def ListPetViewController.controller : ListController AddPet PetInformation where
  format := AddPet.format
  viewDidLoad := viewDidLoad
  viewDidAppear := viewDidAppear
  fetch c error uid := initPetData (fun _ => c) error uid
  reloads := true
  opened _ := rfl
  appears _ := rfl
  answered _ _ _ := rfl

/-! ### Opening, saving and going back -/

/-- The collection, the list screen if it is open, and whether the form is on top
of it. -/
structure PetScreens (ρ : Type) where
  collection : Collection
  list : Option (ListScreen ρ)
  form : Bool

inductive PetScreenEvent (χ : Type) where
  | opens
  /-- The callback of the fetch and the blocks it queued. -/
  | completes (error : Option String)
  | pushesForm
  /-- The button of the form, with a write that succeeds under a generated id. -/
  | saves (request : χ) (id : String) (position : Nat)
  | back

namespace ListController

variable {χ ρ : Type} (controller : ListController χ ρ) (u : String)

/-- The collection after a save of the user on the form; `none` when the id is in
use. -/
def stored (c : Collection) (data : List (String × Value)) (id : String) (position : Nat) :
    Option Collection :=
  if fresh : (Document.ofFields id data).id ∉ c.documents.map Document.id then
    some (c.add position (.ofFields id data) fresh)
  else none

/-- One event, with the user `u` signed in. `none` when the screen of the event is
not on top, when the overlay covers it, or when the request is not the user's. -/
def step (s : PetScreens ρ) : PetScreenEvent χ → Option (PetScreens ρ)
  | .opens =>
      match s.list with
      | some _ => none
      | none =>
          some { s with list := some (controller.viewDidAppear (controller.viewDidLoad .created)) }
  | .completes error =>
      match s.list with
      | some ⟨shown, some .inFlight⟩ =>
          let completed := (controller.fetch s.collection error (some u)).completed shown
          let fetching : Fetching := if error.isNone then .answered else .failed
          some { s with list := some ⟨completed, some fetching⟩ }
      | _ => none
  | .pushesForm =>
      match s.list, s.form with
      | some ⟨⟨_, false⟩, _⟩, false => some { s with form := true }
      | _, _ => none
  | .saves request id position =>
      if s.form = true ∧ controller.format.uid request = some u then
        match controller.format.fields request with
        -- the form drops a request with a missing text and stays
        | none => some s
        | some data => (stored s.collection data id position).map fun c =>
            ⟨c, s.list.map controller.viewDidAppear, false⟩
      else none
  | .back =>
      match s.list, s.form with
      | some screen, true => some { s with list := some (controller.viewDidAppear screen), form := false }
      | some ⟨⟨_, false⟩, _⟩, false => some { s with list := none }
      | _, _ => none

/-- The records of the documents with the user's `uId`. -/
def own (c : Collection) : List ρ :=
  (c.documents.filter fun document => document.string "uId" == some u).map controller.format.read

/-- What is asked of a state: when the list screen shows and its fetch has been
answered, it shows the user's documents. -/
def ShowsOwn (s : PetScreens ρ) : Prop :=
  s.form = false → ∀ screen ∈ s.list, screen.fetching = some .answered →
    screen.shown.screen = controller.own u s.collection

/-- A record is stored only over a list that loads on appearing or has no
answer. -/
def SavesUnseen (s : PetScreens ρ) : PetScreenEvent χ → Prop
  | .saves request id position =>
      s.form = true → controller.format.uid request = some u →
        ∀ data ∈ controller.format.fields request, (stored s.collection data id position).isSome →
          controller.reloads = true ∨ ∀ screen ∈ s.list, screen.fetching ≠ some .answered
  | _ => True

/-- Under the form, a list that has been answered still has the user's
documents. -/
def KeepsOwn (s : PetScreens ρ) : Prop :=
  s.form = true → ∀ screen ∈ s.list, screen.fetching = some .answered →
    screen.shown.screen = controller.own u s.collection

section Facts

variable {controller : ListController χ ρ} {u : String} {s t : PetScreens ρ}

/-- What one event can do. -/
theorem step_cases {event : PetScreenEvent χ} (stepped : controller.step u s event = some t) :
    (event = .opens ∧ t = { s with list := some ListScreen.created.load }) ∨
    (∃ error shown, event = .completes error ∧ s.list = some ⟨shown, some .inFlight⟩ ∧
      t = ⟨s.collection, some ⟨(controller.fetch s.collection error (some u)).completed shown,
        some (if error.isNone then .answered else .failed)⟩, s.form⟩) ∨
    (event = .pushesForm ∧ s.form = false ∧ t = { s with form := true }) ∨
    (∃ request id position, event = .saves request id position ∧ s.form = true ∧
      controller.format.fields request = none ∧ t = s) ∨
    (∃ request id position data c, event = .saves request id position ∧ s.form = true ∧
      controller.format.uid request = some u ∧ controller.format.fields request = some data ∧
      stored s.collection data id position = some c ∧
      t = ⟨c, s.list.map controller.viewDidAppear, false⟩) ∨
    (event = .back ∧ s.form = true ∧
      t = ⟨s.collection, s.list.map controller.viewDidAppear, false⟩) ∨
    (event = .back ∧ t = { s with list := none }) := by
  cases event with
  | opens =>
      simp only [step, controller.opened] at stepped
      split at stepped
      · cases stepped
      · cases stepped
        exact .inl ⟨rfl, rfl⟩
  | completes error =>
      simp only [step] at stepped
      split at stepped
      · rename_i shown inFlight
        cases stepped
        exact .inr (.inl ⟨error, shown, rfl, inFlight, rfl⟩)
      · cases stepped
  | pushesForm =>
      simp only [step] at stepped
      split at stepped
      · rename_i top
        cases stepped
        exact .inr (.inr (.inl ⟨rfl, top, rfl⟩))
      · cases stepped
  | saves request id position =>
      simp only [step] at stepped
      split at stepped
      · rename_i own
        split at stepped
        · rename_i dropped
          cases stepped
          exact .inr (.inr (.inr (.inl ⟨request, id, position, rfl, own.1, dropped, rfl⟩)))
        · rename_i data wrote
          obtain ⟨c, added, rfl⟩ := Option.map_eq_some_iff.mp stepped
          exact .inr (.inr (.inr (.inr (.inl ⟨request, id, position, data, c, rfl, own.1, own.2,
            wrote, added, rfl⟩))))
      · cases stepped
  | back =>
      simp only [step] at stepped
      split at stepped
      · rename_i screen listed top
        cases stepped
        exact .inr (.inr (.inr (.inr (.inr (.inl ⟨rfl, top, by rw [listed]; rfl⟩)))))
      · cases stepped
        exact .inr (.inr (.inr (.inr (.inr (.inr ⟨rfl, rfl⟩)))))
      · cases stepped

/-- A stored request is one more document of the user. -/
theorem length_own_of_stored {request : χ} {data : List (String × Value)} {id : String}
    {position : Nat} {c c' : Collection} (owner : controller.format.uid request = some u)
    (wrote : controller.format.fields request = some data)
    (added : stored c data id position = some c') :
    (controller.own u c').length = (controller.own u c).length + 1 := by
  unfold stored at added
  split at added
  · cases added
    have perm : (c.add position (.ofFields id data) ‹_›).documents.Perm
        (Document.ofFields id data :: c.documents) :=
      Lists.perm_take_cons_drop position (Document.ofFields id data) c.documents
    have uId := (controller.format.roundTrip request data id wrote).1
    rw [owner, Option.getD_some] at uId
    simp only [own, List.length_map]
    rw [(perm.filter _).length_eq, List.filter_cons_of_pos (by simp [uId]), List.length_cons]
  · cases added

/-- The answer of a fetch gives the screen the user's documents. -/
theorem shown_completed (named : u ≠ "") (c : Collection) (shown : Overlaid (List ρ)) :
    ((controller.fetch c none (some u)).completed shown).screen = controller.own u c := by
  rw [controller.answered]
  exact RecordFormat.filter_read controller.format named c.documents

/-- A list that has completed its fetch with an answer shows the user's
documents. -/
theorem shown_of_answered (named : u ≠ "") {c : Collection} {error : Option String}
    {shown : Overlaid (List ρ)}
    (answered : (some (if error.isNone then .answered else .failed) : Option Fetching) =
      some .answered) :
    ((controller.fetch c error (some u)).completed shown).screen = controller.own u c := by
  cases error with
  | none => exact shown_completed named c shown
  | some message => cases answered

/-- Appearing again keeps what is known of a list. -/
theorem shown_of_appeared {list : Option (ListScreen ρ)} {c : Collection}
    (shows : ∀ screen ∈ list, screen.fetching = some .answered →
      screen.shown.screen = controller.own u c) :
    ∀ screen ∈ list.map controller.viewDidAppear, screen.fetching = some .answered →
      screen.shown.screen = controller.own u c := by
  intro screen member answered
  obtain ⟨before, listed, rfl⟩ := Option.map_eq_some_iff.mp member
  rw [controller.appears] at answered ⊢
  split at answered
  · cases answered
  · rename_i keeps
    rw [if_neg keeps]
    exact shows before listed answered

/-- Every event keeps the list under the form. -/
theorem keepsOwn_step (named : u ≠ "") (keeps : controller.KeepsOwn u s)
    (shows : controller.ShowsOwn u s) {event : PetScreenEvent χ}
    (stepped : controller.step u s event = some t) : controller.KeepsOwn u t := by
  rcases step_cases stepped with ⟨-, rfl⟩ | ⟨error, shown, -, -, rfl⟩ | ⟨-, top, rfl⟩ |
    ⟨request, id, position, -, -, -, rfl⟩ | ⟨request, id, position, data, c, -, -, -, -, -, rfl⟩ |
    ⟨-, -, rfl⟩ | ⟨-, rfl⟩
  · rintro - screen ⟨⟩ answered
    cases answered
  · rintro - screen ⟨⟩ answered
    exact shown_of_answered named answered
  · intro _
    exact shows top
  · exact keeps
  · intro onTop
    cases onTop
  · intro onTop
    cases onTop
  · rintro - screen ⟨⟩

/-- A step keeps the list showing the user's documents exactly when it stores no
record over an answered list that does not load on appearing. -/
theorem showsOwn_step_iff (named : u ≠ "") (keeps : controller.KeepsOwn u s)
    (shows : controller.ShowsOwn u s) {event : PetScreenEvent χ}
    (stepped : controller.step u s event = some t) :
    controller.ShowsOwn u t ↔ controller.SavesUnseen u s event := by
  rcases step_cases stepped with ⟨rfl, rfl⟩ | ⟨error, shown, rfl, -, rfl⟩ | ⟨rfl, -, rfl⟩ |
    ⟨request, id, position, rfl, -, dropped, rfl⟩ |
    ⟨request, id, position, data, c, rfl, top, owner, wrote, added, rfl⟩ |
    ⟨rfl, top, rfl⟩ | ⟨rfl, rfl⟩
  · refine iff_of_true ?_ trivial
    rintro - screen ⟨⟩ answered
    cases answered
  · refine iff_of_true ?_ trivial
    rintro - screen ⟨⟩ answered
    exact shown_of_answered named answered
  · refine iff_of_true ?_ trivial
    intro covered
    cases covered
  · refine iff_of_true shows ?_
    intro _ _ data written
    rw [dropped] at written
    cases written
  · constructor
    · intro now _ _ data' written _
      cases wrote.symm.trans written
      by_cases reloads : controller.reloads = true
      · exact .inl reloads
      · refine .inr fun screen listed answered => ?_
        -- the list still shows the documents from before the save
        have before := keeps top screen listed answered
        have after : screen.shown.screen = controller.own u c := by
          refine now rfl screen ?_ answered
          rw [listed, Option.map_some, controller.appears, if_neg reloads]
          rfl
        have longer := length_own_of_stored owner wrote added
        rw [← before, ← after] at longer
        omega
    · intro unseen _ screen member answered
      obtain ⟨before, listed, rfl⟩ := Option.map_eq_some_iff.mp member
      rw [controller.appears] at answered
      rcases unseen top owner data wrote (by rw [added]; rfl) with reloads | unanswered
      · rw [if_pos reloads] at answered
        cases answered
      · split at answered
        · cases answered
        · exact absurd answered (unanswered before listed)
  · refine iff_of_true ?_ trivial
    intro _
    exact shown_of_appeared (keeps top)
  · refine iff_of_true ?_ trivial
    rintro - screen ⟨⟩

/-- Over whole runs the list shows the user's documents exactly when no record is
stored over an answered list that does not load on appearing. -/
theorem always_showsOwn_iff (named : u ≠ "") (c : Collection) (events : List (PetScreenEvent χ)) :
    Always (controller.step u) (controller.ShowsOwn u) ⟨c, none, false⟩ events ↔
      Meets (controller.step u) (controller.SavesUnseen u) ⟨c, none, false⟩ events := by
  apply always_iff_meets (controller.KeepsOwn u)
  · intro s event t keeps shows stepped
    exact keepsOwn_step named keeps shows stepped
  · intro s event t keeps shows stepped
    exact showsOwn_step_iff named keeps shows stepped
  · intro s event refused
    cases event with
    | opens | completes | pushesForm | back => trivial
    | saves request id position =>
        intro top owner data written present
        -- a save that is stored is not refused
        obtain ⟨c, added⟩ := Option.isSome_iff_exists.mp present
        have wrote : controller.format.fields request = some data := written
        simp [step, top, owner, wrote, added] at refused
  · intro onTop
    cases onTop
  · rintro - screen ⟨⟩

end Facts

end ListController

open ListController

/-- **When a list shows what was saved.** For every collection, every signed-in
user and every run of opening a list screen, completing its fetches, pushing the
form, saving and going back: the list of pets, whenever it shows and its fetch has
been answered, shows exactly the user's documents; the health book does exactly
when no record is stored over a list that has its answer. -/
theorem own_records_shown_iff (u : String) (named : u ≠ "") (c : Collection) :
    (∀ events, Always (ListPetViewController.controller.step u)
      (ListPetViewController.controller.ShowsOwn u) ⟨c, none, false⟩ events) ∧
    ∀ events, Always (PetHealthBookViewController.controller.step u)
        (PetHealthBookViewController.controller.ShowsOwn u) ⟨c, none, false⟩ events ↔
      Meets (PetHealthBookViewController.controller.step u)
        (PetHealthBookViewController.controller.SavesUnseen u) ⟨c, none, false⟩ events := by
  constructor
  · intro events
    apply (always_showsOwn_iff named c events).mpr
    apply meets_of_forall
    intro s event _
    cases event with
    | opens | completes | pushesForm | back => trivial
    | saves request id position =>
        intro _ _ _ _ _
        exact .inl rfl
  · intro events
    exact always_showsOwn_iff named c events

/-- A collection without documents. -/
def noRecords : Collection := ⟨[], List.nodup_nil⟩

/-- Opening a list, saving a record over its answer and coming back. -/
def saveAndReturn {χ : Type} (request : χ) : List (PetScreenEvent χ) :=
  [.opens, .completes none, .pushesForm, .saves request "new" 0]

/-- A pet saved from the list of pets is shown once the fetch of the return has
been answered. -/
theorem own_records_shown_rex :
    ("alice" : String) ≠ "" ∧
      ∃ t screen, run (ListPetViewController.controller.step "alice") ⟨noRecords, none, false⟩
          (saveAndReturn ⟨some "alice", some "Rex", none, none, none, none⟩ ++ [.completes none]) =
          some t ∧ t.list = some screen ∧
        screen.shown.screen =
          [⟨some "", some "", some "Rex", some "", some "", some "alice"⟩] := by
  refine ⟨by decide, _, _, rfl, rfl, ?_⟩
  exact ((own_records_shown_iff "alice" (by decide) noRecords).1
    (saveAndReturn ⟨some "alice", some "Rex", none, none, none, none⟩ ++ [.completes none])).last
    rfl rfl _ rfl rfl

/-- A health record. -/
def checkUp : NewPetHeath where
  uid := some "alice"
  cell := some ⟨some "Rex", none, some "Hanoi", none, none, none, none, none, none⟩

/-- A health record saved from an answered health book is missing when the book
shows again. -/
theorem health_book_misses_check_up :
    ∃ t screen, run (PetHealthBookViewController.controller.step "alice") ⟨noRecords, none, false⟩
        (saveAndReturn checkUp) = some t ∧
      t.form = false ∧ t.list = some screen ∧ screen.fetching = some .answered ∧
      screen.shown.screen = [] ∧
      PetHealthBookViewController.controller.own "alice" t.collection = [checkUp.saved] ∧
      ¬ Always (PetHealthBookViewController.controller.step "alice")
        (PetHealthBookViewController.controller.ShowsOwn "alice") ⟨noRecords, none, false⟩
        (saveAndReturn checkUp) := by
  refine ⟨_, _, rfl, rfl, rfl, rfl, rfl, rfl, fun always => ?_⟩
  have shown := (always.last rfl) rfl _ rfl rfl
  cases shown

end PetApp
