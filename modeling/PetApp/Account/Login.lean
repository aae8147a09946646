import PetApp.Lib.Runs
import PetApp.Account.Profile

/-!
The login screen: `LoginViewController.swift` and `LoadingView.swift`.

A login presents the loading overlay and asks Firebase to sign in. A successful
sign-in starts a profile fetch: a query of the `users` collection, then the
download of an avatar for each complete document of the user, then a block on
the main queue that stores the user and dismisses the overlay. The download
callback itself presents the tab bar, while the overlay still takes the one
presentation slot of the screen.

* `deliver_cases` — what the delivery of an outstanding callback can do.
* `presented_of_download` — once a download is started, the overlay is gone when
  all callbacks have run.
* `single_download` — when only one is started, the tab bar is never presented.
* `login_ends_usable_iff` — a login ends in a usable screen exactly when the
  query succeeds and returns several documents of the user, the first complete.
-/

namespace PetApp

open Runs

/-- What takes the presentation slot of the login screen. -/
inductive Presented where
  | loadingView
  | tabbarController
  | alert (message : String)
deriving DecidableEq

/-- The errors `signIn` tells apart. -/
inductive SignInError where
  | wrongPassword
  | other (localizedDescription : String)

/-- A callback or main-queue block that has still to run. -/
inductive Task where
  | signIn
  | getDocuments (id : Option String)
  | getData (profile : Profile)
  | setUserInfo (user : User)
  | presentAlert (message : String)

/-- A task with the number of sign-ins made before it, or before the fetch it
belongs to, was started. -/
structure Callback where
  signIns : Nat
  task : Task

/-- What the outside world answers when a callback is delivered. -/
inductive Outcome where
  | signIn (result : Except SignInError String)
  | documents (result : Option (List Document))
  | data (result : Option Data)
  | main

/-- The login screen with `Auth.currentUser`, `UserManager.shared.user`, the
number of sign-ins so far and whether a fetch started since the last of them has
run to its end. -/
structure LoginScreen where
  currentUser : Option String
  user : User
  presented : Option Presented
  validationPasswordLabel : Option String
  callbacks : List Callback
  signIns : Nat
  fetched : Bool

inductive LoginEvent where
  | viewDidAppear
  | didTapLogin
  | signOut
  | callback (position : Nat) (outcome : Outcome)

/-- The event delivers a callback. -/
def LoginEvent.isCallback : LoginEvent → Bool
  | .callback _ _ => true
  | _ => false

namespace LoginScreen

/-- The screen of a just started app in which Firebase still knows a user, or none. -/
def launched (currentUser : Option String) : LoginScreen where
  currentUser := currentUser
  user := {}
  presented := none
  validationPasswordLabel := none
  callbacks := []
  signIns := 0
  fetched := false

/-- `present`: ignored while another controller is presented. -/
def present (controller : Presented) (s : LoginScreen) : LoginScreen :=
  { s with presented := s.presented.or (some controller) }

/-- `loadingView.didDismissView()`: frees the slot if the overlay takes it. -/
def didDismissView (s : LoginScreen) : LoginScreen :=
  { s with presented := if s.presented = some .loadingView then none else s.presented }

/-- Enqueue a task that belongs to the fetch started after `signIns` sign-ins. -/
def enqueue (signIns : Nat) (tasks : List Task) (s : LoginScreen) : LoginScreen :=
  { s with callbacks := s.callbacks ++ tasks.map (Callback.mk signIns) }

/-- `onCheckUserIsLogin`. -/
def onCheckUserIsLogin (s : LoginScreen) : LoginScreen :=
  match s.currentUser with
  | none => s
  | some uid => s.enqueue s.signIns [.getDocuments (some uid)]

/-- `login`, up to the callback of `signIn`. -/
def login (s : LoginScreen) : LoginScreen :=
  (s.present .loadingView).enqueue s.signIns [.signIn]

/-- The callback of `signIn`. -/
def signedIn (result : Except SignInError String) (s : LoginScreen) : LoginScreen :=
  match result with
  | .error .wrongPassword =>
      { s with validationPasswordLabel := some "Password không chính xác" }.didDismissView
  | .error (.other message) => (s.enqueue s.signIns [.presentAlert message]).didDismissView
  | .ok uid =>
      { s with currentUser := some uid, signIns := s.signIns + 1, fetched := false }.onCheckUserIsLogin

/-- The callback of `getDocuments`; an error is only printed. -/
def gotDocuments (signIns : Nat) (id : Option String) (result : Option (List Document))
    (s : LoginScreen) : LoginScreen :=
  match result with
  | none => s
  | some documents => s.enqueue signIns ((profiles id documents).map Task.getData)

/-- The user built by the callback of `getData`. -/
def downloaded (codec : ImageCodec) (profile : Profile) (data : Option Data) : User :=
  profile.user (if data = none then none else codec.decode (data.getD []))

/-- The callback of `getData`: the block is enqueued, then the tab bar presented. -/
def gotData (codec : ImageCodec) (signIns : Nat) (profile : Profile) (data : Option Data)
    (s : LoginScreen) : LoginScreen :=
  (s.enqueue signIns [.setUserInfo (downloaded codec profile data)]).present .tabbarController

/-- The main-queue block of a fetch. -/
def setUserInfo (signIns : Nat) (user : User) (s : LoginScreen) : LoginScreen :=
  { s with user := user, fetched := s.fetched || signIns == s.signIns }.didDismissView

/-- Run a callback that has been taken from the list, on an outcome of its kind. -/
def deliver (codec : ImageCodec) (callback : Callback) (outcome : Outcome) (s : LoginScreen) :
    Option LoginScreen :=
  match callback.task, outcome with
  | .signIn, .signIn result => some (s.signedIn result)
  | .getDocuments id, .documents result => some (s.gotDocuments callback.signIns id result)
  | .getData profile, .data result => some (s.gotData codec callback.signIns profile result)
  | .setUserInfo user, .main => some (s.setUserInfo callback.signIns user)
  | .presentAlert message, .main => some (s.present (.alert message))
  | _, _ => none

/-- One event. A delivered callback leaves the list, so it runs exactly once. -/
def step (codec : ImageCodec) (s : LoginScreen) : LoginEvent → Option LoginScreen
  | .viewDidAppear => some s.onCheckUserIsLogin
  | .didTapLogin => some s.login
  | .signOut => some { s with currentUser := none }
  | .callback position outcome => do
      let callback ← s.callbacks[position]?
      deliver codec callback outcome { s with callbacks := s.callbacks.eraseIdx position }

@[simp] theorem callbacks_present (controller : Presented) (s : LoginScreen) :
    (s.present controller).callbacks = s.callbacks := rfl

@[simp] theorem callbacks_enqueue (signIns : Nat) (tasks : List Task) (s : LoginScreen) :
    (s.enqueue signIns tasks).callbacks = s.callbacks ++ tasks.map (Callback.mk signIns) := rfl

@[simp] theorem callbacks_didDismissView (s : LoginScreen) :
    s.didDismissView.callbacks = s.callbacks := rfl

@[simp] theorem presented_enqueue (signIns : Nat) (tasks : List Task) (s : LoginScreen) :
    (s.enqueue signIns tasks).presented = s.presented := rfl

theorem presented_didDismissView (s : LoginScreen) :
    s.didDismissView.presented ≠ some .loadingView := by
  simp only [didDismissView]
  split
  · simp
  · assumption

section Facts

variable {codec : ImageCodec} {s t : LoginScreen}

/-- The state the delivered callback runs in. -/
theorem step_callback_eq_some {position : Nat} {outcome : Outcome} :
    step codec s (.callback position outcome) = some t ↔
      ∃ callback, s.callbacks[position]? = some callback ∧
        deliver codec callback outcome { s with callbacks := s.callbacks.eraseIdx position } =
          some t := by
  simp [step, Option.bind_eq_some_iff]

/-- An event that delivers a callback takes one from the list. -/
theorem exists_delivered {event : LoginEvent} (callback : event.isCallback = true)
    (stepped : step codec s event = some t) :
    ∃ position callback outcome, s.callbacks[position]? = some callback ∧
      deliver codec callback outcome { s with callbacks := s.callbacks.eraseIdx position } =
        some t := by
  cases event with
  | viewDidAppear | didTapLogin | signOut => cases callback
  | callback position outcome =>
      obtain ⟨callback, found, delivered⟩ := step_callback_eq_some.mp stepped
      exact ⟨position, callback, outcome, found, delivered⟩

/-- What the delivery of a callback can do: each kind of task runs on an outcome
of its kind. -/
theorem deliver_cases {callback : Callback} {outcome : Outcome}
    (delivered : deliver codec callback outcome s = some t) :
    (callback.task = .signIn ∧ ∃ result, outcome = .signIn result ∧ t = s.signedIn result) ∨
      (∃ id result, callback.task = .getDocuments id ∧ outcome = .documents result ∧
        t = s.gotDocuments callback.signIns id result) ∨
      (∃ profile data, callback.task = .getData profile ∧ outcome = .data data ∧
        t = s.gotData codec callback.signIns profile data) ∨
      (∃ user, callback.task = .setUserInfo user ∧ outcome = .main ∧
        t = s.setUserInfo callback.signIns user) ∨
      (∃ message, callback.task = .presentAlert message ∧ outcome = .main ∧
        t = s.present (.alert message)) := by
  obtain ⟨signIns, task⟩ := callback
  cases task <;> cases outcome <;> simp_all [deliver]

end Facts

/-! ### The end of a login -/

/-- The overlay is gone; and if the user has exactly one document and it is
complete, the app knows the user of that document and shows the tab bar. -/
def Usable (uid : String) (documents : List Document) (t : LoginScreen) : Prop :=
  t.presented ≠ some .loadingView ∧
    ∀ document profile, documents.filter (Document.hasUid (some uid)) = [document] →
      document.profile = some profile →
      (∃ image, t.user = profile.user image) ∧ t.presented = some .tabbarController

/-- A login that Firebase accepts, up to the answer of the `users` query. -/
def signInAs (uid : String) (result : Option (List Document)) : List LoginEvent :=
  [.didTapLogin, .callback 0 (.signIn (.ok uid)), .callback 0 (.documents result)]

section Downloads

variable {codec : ImageCodec} {s t : LoginScreen} {event : LoginEvent} {events : List LoginEvent}

/-- The task is one of the last two of a fetch. -/
def Downloading : Task → Prop
  | .getData _ | .setUserInfo _ => True
  | _ => False

/-- Only downloads are outstanding, and the overlay is gone when there are none. -/
def OverlayLeaves (s : LoginScreen) : Prop :=
  (∀ callback ∈ s.callbacks, Downloading callback.task) ∧
    (s.callbacks = [] → s.presented ≠ some .loadingView)

theorem overlayLeaves_step (leaves : OverlayLeaves s)
    (callback : event.isCallback = true) (stepped : step codec s event = some t) :
    OverlayLeaves t := by
  obtain ⟨position, callback, outcome, found, delivered⟩ := exists_delivered callback stepped
  have downloading := leaves.1 callback (List.mem_of_getElem? found)
  have others : ∀ other ∈ s.callbacks.eraseIdx position, Downloading other.task :=
    fun other member => leaves.1 other (List.mem_of_mem_eraseIdx member)
  rcases deliver_cases delivered with ⟨task, -⟩ | ⟨id, result, task, -⟩ |
    ⟨profile, data, task, -, rfl⟩ | ⟨user, task, -, rfl⟩ | ⟨message, task, -⟩
  · simp [task, Downloading] at downloading
  · simp [task, Downloading] at downloading
  · refine ⟨?_, by simp [gotData]⟩
    intro other member
    simp only [gotData, callbacks_present, callbacks_enqueue, List.mem_append, List.map_cons,
      List.map_nil, List.mem_singleton] at member
    rcases member with member | rfl
    · exact others other member
    · trivial
  · exact ⟨others, fun _ => presented_didDismissView _⟩
  · simp [task, Downloading] at downloading

/-- Once a download is started, the overlay is gone when all callbacks have run. -/
theorem presented_of_download (leaves : OverlayLeaves s)
    (callbacks : ∀ event ∈ events, event.isCallback = true)
    (reached : run (step codec) s events = some t) (done : t.callbacks = []) :
    t.presented ≠ some .loadingView := by
  have always : Always (step codec) OverlayLeaves s events := by
    apply always_of_steps
    · intro s event member t before stepped
      exact overlayLeaves_step before (callbacks event member) stepped
    · exact leaves
  exact (always.last reached).2 done

/-- The three states of a login with one download, started after `signIns` sign-ins. -/
def OneDownload (profile : Profile) (signIns : Nat) (s : LoginScreen) : Prop :=
  (s.callbacks = [⟨signIns, .getData profile⟩] ∧ s.presented = some .loadingView) ∨
    (∃ image, s.callbacks = [⟨signIns, .setUserInfo (profile.user image)⟩] ∧
      s.presented = some .loadingView) ∨
    (s.callbacks = [] ∧ s.presented = none ∧ ∃ image, s.user = profile.user image)

theorem oneDownload_step {profile : Profile} {signIns : Nat} (one : OneDownload profile signIns s)
    (callback : event.isCallback = true)
    (stepped : step codec s event = some t) : OneDownload profile signIns t := by
  obtain ⟨position, callback, outcome, found, delivered⟩ := exists_delivered callback stepped
  rcases one with ⟨callbacks, overlay⟩ | ⟨image, callbacks, overlay⟩ | ⟨callbacks, -⟩
  · obtain ⟨rfl, rfl⟩ : position = 0 ∧ callback = ⟨signIns, .getData profile⟩ := by
      cases position <;> simp_all
    cases outcome with
    | signIn _ | documents _ | main => cases delivered
    | data result =>
        cases delivered
        refine .inr (.inl ⟨if result = none then none else codec.decode (result.getD []), ?_, ?_⟩)
        · simp [gotData, callbacks, downloaded]
        · simp [gotData, present, overlay]
  · obtain ⟨rfl, rfl⟩ : position = 0 ∧ callback = ⟨signIns, .setUserInfo (profile.user image)⟩ := by
      cases position <;> simp_all
    cases outcome with
    | signIn _ | documents _ | data _ => cases delivered
    | main =>
        cases delivered
        refine .inr (.inr ⟨?_, ?_, image, rfl⟩)
        · simp [setUserInfo, callbacks]
        · simp [setUserInfo, didDismissView, overlay]
  · simp [callbacks] at found

/-- When only one download is started, the profile is stored and the overlay is
gone at the end, but the tab bar has never been presented. -/
theorem single_download {profile : Profile} {signIns : Nat} (one : OneDownload profile signIns s)
    (callbacks : ∀ event ∈ events, event.isCallback = true)
    (reached : run (step codec) s events = some t) (done : t.callbacks = []) :
    t.presented = none ∧ ∃ image, t.user = profile.user image := by
  have always : Always (step codec) (OneDownload profile signIns) s events := by
    apply always_of_steps
    · intro s event member t before stepped
      exact oneDownload_step before (callbacks event member) stepped
    · exact one
  rcases always.last reached with ⟨left, -⟩ | ⟨image, left, -⟩ | ⟨-, ended⟩
  · simp [left] at done
  · simp [left] at done
  · exact ended

/-- Without outstanding callbacks no callback can be delivered. -/
theorem eq_of_no_callbacks (none : s.callbacks = [])
    (callbacks : ∀ event ∈ events, event.isCallback = true)
    (reached : run (step codec) s events = some t) : t = s := by
  cases events with
  | nil => exact (Option.some.inj reached).symm
  | cons event events =>
      obtain ⟨m, stepped, -⟩ := run_cons_eq_some.mp reached
      obtain ⟨position, callback, outcome, found, -⟩ :=
        exists_delivered (callbacks event List.mem_cons_self) stepped
      simp [none] at found

end Downloads

section Login

variable {codec : ImageCodec} {s t : LoginScreen} {uid : String} {events : List LoginEvent}

/-- The screen while the `users` query of an accepted login is outstanding. -/
def awaiting (uid : String) (s : LoginScreen) : LoginScreen :=
  { s with
    currentUser := some uid
    presented := some .loadingView
    callbacks := []
    signIns := s.signIns + 1
    fetched := false }

theorem run_signInAs (idle : s.callbacks = []) (free : s.presented = none)
    (result : Option (List Document)) :
    run (step codec) s (signInAs uid result) =
      some ((awaiting uid s).gotDocuments (s.signIns + 1) (some uid) result) := by
  simp [signInAs, run, step, login, present, enqueue, deliver, signedIn, onCheckUserIsLogin,
    awaiting, idle, free]

theorem overlayLeaves_gotDocuments {documents : List Document}
    (started : profiles (some uid) documents ≠ []) (signIns : Nat) :
    OverlayLeaves ((awaiting uid s).gotDocuments signIns (some uid) (some documents)) := by
  constructor
  · intro callback member
    simp only [gotDocuments, callbacks_enqueue, awaiting, List.nil_append, List.map_map,
      List.mem_map] at member
    obtain ⟨profile, -, rfl⟩ := member
    trivial
  · intro none
    simp [gotDocuments, awaiting] at none
    exact absurd none started

theorem not_usable_of_not_started {result : Option (List Document)}
    (none : (awaiting uid s).gotDocuments (s.signIns + 1) (some uid) result = awaiting uid s)
    (callbacks : ∀ event ∈ events, event.isCallback = true)
    (reached : run (step codec) ((awaiting uid s).gotDocuments (s.signIns + 1) (some uid) result)
      events = some t) {documents : List Document} :
    ¬ Usable uid documents t := by
  rw [none] at reached
  rintro ⟨gone, -⟩
  rw [eq_of_no_callbacks rfl callbacks reached] at gone
  exact gone rfl

/-- With one document of the user, complete, the tab bar is missing at the end. -/
theorem not_usable_of_one {documents : List Document} {document : Document} {profile : Profile}
    (only : documents.filter (Document.hasUid (some uid)) = [document])
    (complete : document.profile = some profile)
    (callbacks : ∀ event ∈ events, event.isCallback = true)
    (reached : run (step codec)
      ((awaiting uid s).gotDocuments (s.signIns + 1) (some uid) (some documents)) events = some t)
    (done : t.callbacks = []) : ¬ Usable uid documents t := by
  have one := profiles_of_filter_eq_singleton only complete
  have start : OneDownload profile (s.signIns + 1)
      ((awaiting uid s).gotDocuments (s.signIns + 1) (some uid) (some documents)) :=
    .inl ⟨by simp [gotDocuments, one, awaiting], rfl⟩
  have ended := (single_download start callbacks reached done).1
  rintro ⟨-, shown⟩
  have tabbar := (shown document profile only complete).2
  rw [ended] at tabbar
  cases tabbar

end Login

/-- **When a login ends in a usable screen.** From an idle login screen, and for
every list of `users` documents, every outcome of the query and of the
downloads, and every order of the callbacks: once all have run, the screen is
usable exactly when the query succeeded and found at least two documents of the
user, the first of them complete. With one document the tab bar is presented
while the overlay still takes the slot; with none, an incomplete first one or a
failed query the overlay stays. -/
theorem login_ends_usable_iff (codec : ImageCodec) (s : LoginScreen) (idle : s.callbacks = [])
    (free : s.presented = none) (uid : String) (documents : List Document) (fails : Bool)
    (events : List LoginEvent) (callbacks : ∀ event ∈ events, event.isCallback = true)
    (t : LoginScreen)
    (reached : run (step codec) s
      (signInAs uid (if fails then none else some documents) ++ events) = some t)
    (done : t.callbacks = []) :
    Usable uid documents t ↔
      fails = false ∧ ∃ first second rest profile,
        documents.filter (Document.hasUid (some uid)) = first :: second :: rest ∧
          first.profile = some profile := by
  rw [run_append, run_signInAs idle free, Option.bind_some] at reached
  cases fails with
  | true =>
      simp only [Bool.true_eq_false, false_and, iff_false]
      exact not_usable_of_not_started rfl callbacks reached
  | false =>
      simp only [true_and]
      by_cases started : profiles (some uid) documents = []
      · -- no download: the overlay stays
        refine iff_of_false ?_ ?_
        · refine not_usable_of_not_started ?_ callbacks reached
          simp [gotDocuments, enqueue, started, awaiting]
        · rintro ⟨first, second, rest, profile, found, complete⟩
          exact absurd started (profiles_ne_nil_iff.mpr ⟨first, profile, _, found, complete⟩)
      · obtain ⟨first, profile, rest, found, complete⟩ := profiles_ne_nil_iff.mp started
        cases rest with
        | nil =>
            refine iff_of_false (not_usable_of_one found complete callbacks reached done) ?_
            rintro ⟨_, _, _, _, several, -⟩
            simp [found] at several
        | cons second rest =>
            have gone : t.presented ≠ some .loadingView :=
              presented_of_download (overlayLeaves_gotDocuments started _) callbacks reached done
            refine iff_of_true ⟨gone, ?_⟩ ⟨first, second, rest, profile, found, complete⟩
            intro document profile only
            simp [found] at only

/-- Two downloads that fail, each followed by its block. -/
def twoDownloads : List LoginEvent :=
  [.callback 0 (.data none), .callback 1 .main, .callback 0 (.data none), .callback 0 .main]

/-- With a second document of the user the overlay leaves before the second
download presents the tab bar. -/
theorem login_ends_usable_two_documents :
    ∃ t, run (step .raw) (launched none) (signInAs "alice"
          (if false then none else some [alice.document "a", alice.document "b"]) ++ twoDownloads) =
        some t ∧ t.callbacks = [] ∧ Usable "alice" [alice.document "a", alice.document "b"] t :=
  ⟨_, rfl, rfl, (login_ends_usable_iff .raw (launched none) rfl rfl "alice"
    [alice.document "a", alice.document "b"] false twoDownloads
    (by simp [twoDownloads, LoginEvent.isCallback]) _ rfl rfl).mpr
    ⟨rfl, alice.document "a", alice.document "b", [], alice, rfl, rfl⟩⟩

/-- With one complete document and no failure the login ends without a tab bar;
with a failed query it ends under the overlay. -/
theorem login_ends_without_tabbar :
    (∃ t, run (step .raw) (launched none) (signInAs "alice" (some [alice.document "a"]) ++
          [.callback 0 (.data (some [1])), .callback 0 .main]) = some t ∧
        t.callbacks = [] ∧ t.presented = none ∧ ¬ Usable "alice" [alice.document "a"] t) ∧
      ∃ t, run (step .raw) (launched none) (signInAs "alice" none) = some t ∧
        t.callbacks = [] ∧ t.presented = some .loadingView ∧ ¬ Usable "alice" [alice.document "a"] t := by
  refine ⟨⟨_, rfl, rfl, rfl, ?_⟩, _, rfl, rfl, rfl, ?_⟩
  · rintro ⟨-, shown⟩
    cases (shown (alice.document "a") alice rfl rfl).2
  · rintro ⟨gone, -⟩
    exact gone rfl

end LoginScreen

end PetApp
