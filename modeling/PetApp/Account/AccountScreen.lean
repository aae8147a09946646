import PetApp.Account.Loaders
import PetApp.Account.UserDetail

/-!
The account screen over the profile screen: `AccountViewController.swift` and
`UserDetailVC.swift`.

`initHeaderTableView` copies the name, the phone number and the email of
`UserManager.shared.user` into an array when the account screen is loaded. A save
on the profile screen writes to the database, pops the screen and posts
`notiFicationNameUser`; leaving the screen fetches the profile and stores it with
`setUserInfo`. The account screen neither observes that notification nor copies
again when it appears.

* `shows_iff` — the rows show a user exactly when the array holds the user's three
  texts.
* `step_cases` — what one event can do.
* `copied_step` — the array is that of the user the screen was opened with.
* `showsUser_step_iff` — a step breaks the screen exactly when it runs the last
  outstanding callback over it and leaves a user with other texts than that one.
* `account_shows_profile_iff` — so over whole runs the screen shows the profile
  exactly when no last callback does that.
-/

namespace PetApp

open Runs

/-- The three texts of a user that the account screen copies. -/
def User.info (user : User) : List String :=
  [user.fullName.getD "", user.phoneNumber.getD "", user.email.getD ""]

/-- An `AccountViewController`: its array. -/
structure AccountScreen where
  userInfo : List String
deriving DecidableEq

namespace AccountScreen

/-- The titles of section 0. -/
def inforAccount : List String := ["Tên", "Số điện thoại", "Email"]

/-- `viewDidLoad`: `initHeaderTableView` appends the three texts. -/
def viewDidLoad (user : User) : AccountScreen := ⟨[] ++ user.info⟩

/-- `tableView(_:numberOfRowsInSection:)` for section 0. -/
def numberOfRowsInSection (screen : AccountScreen) : Nat := screen.userInfo.length

/-- `tableView(_:cellForRowAt:)` for section 0: title and text. `none` is an index
out of range. -/
def cellForRowAt (screen : AccountScreen) (row : Nat) : Option (String × String) := do
  let title ← inforAccount[row]?
  let text ← screen.userInfo[row]?
  return (title, text)

/-- What is asked of the screen: three rows with the texts of the user. -/
def Shows (user : User) (screen : AccountScreen) : Prop :=
  (List.range screen.numberOfRowsInSection).map screen.cellForRowAt =
    [some ("Tên", user.fullName.getD ""), some ("Số điện thoại", user.phoneNumber.getD ""),
      some ("Email", user.email.getD "")]

/-- The rows show a user exactly when the array holds the user's texts. -/
theorem shows_iff {user : User} {screen : AccountScreen} :
    screen.Shows user ↔ screen.userInfo = user.info := by
  obtain ⟨userInfo⟩ := screen
  constructor
  · intro shows
    have count := congrArg List.length shows
    rw [List.length_map, List.length_range] at count
    obtain ⟨name, phone, email, rfl⟩ := List.length_eq_three.mp count
    have rows : [some ("Tên", name), some ("Số điện thoại", phone), some ("Email", email)] =
        [some ("Tên", user.fullName.getD ""), some ("Số điện thoại", user.phoneNumber.getD ""),
          some ("Email", user.email.getD "")] := shows
    simpa [User.info] using rows
  · rintro ⟨⟩
    rfl

end AccountScreen

/-! ### Saves and refreshes -/

/-- A callback or main-queue block of the profile screen that has still to run. -/
inductive ProfileTask where
  /-- The callback of `updateData`, called by the given profile screen. -/
  | updateData (detail : Nat) (fields : List (String × Value))
  | getDocuments
  | getData (profile : Profile)
  | setUserInfo (user : User)

/-- The database, the signed-in uid, `UserManager.shared.user`, the account screen,
the profile screen on top of it, how many have been pushed, and the outstanding
callbacks. -/
structure AccountApp where
  users : Collection
  currentUser : Option String
  user : User
  account : Option AccountScreen
  /-- History: the user that was stored when the account screen was last opened. No code
  reads it. -/
  openedWith : Option User
  detail : Option Nat
  details : Nat
  callbacks : List ProfileTask

inductive AccountEvent where
  | opensAccount
  | pushesDetail
  | didTapSaveInfo (nameText phoneText emailText : Option String)
  | back
  /-- The callback of `updateData`; the request has reached the server or not. -/
  | updated (position : Nat) (reached : Bool)
  /-- The callback of `getDocuments`. -/
  | fetched (position : Nat) (error : Option String)
  /-- The callback of `getData`. -/
  | downloaded (position : Nat) (data : Option Data)
  /-- The block that calls `setUserInfo` if its controller is still alive. -/
  | stored (position : Nat) (alive : Bool)

namespace AccountApp

/-- The app before the account screen is opened. -/
def signedIn (users : Collection) (currentUser : Option String) (user : User) : AccountApp where
  users := users
  currentUser := currentUser
  user := user
  account := none
  openedWith := none
  detail := none
  details := 0
  callbacks := []

/-- The profile screen is popped: `viewWillDisappear` starts a fetch. -/
def popsDetail (s : AccountApp) : AccountApp :=
  { s with detail := none, callbacks := s.callbacks ++ [.getDocuments] }

/-- The callback of `updateData`. It pops its own screen, if that is still shown;
nobody observes the notification it posts. -/
def gotUpdate (detail : Nat) (fields : List (String × Value)) (reached : Bool) (s : AccountApp) :
    AccountApp :=
  let users := if reached then (s.users.updateData savedDocumentID fields).getD s.users else s.users
  let written := { s with users := users }
  if s.detail = some detail then written.popsDetail else written

/-- One event. `none` when the screen of the event is not on top or no callback of
its kind is at the position. -/
def step (codec : ImageCodec) (s : AccountApp) : AccountEvent → Option AccountApp
  | .opensAccount =>
      match s.detail with
      | some _ => none
      | none => some { s with account := some (.viewDidLoad s.user), openedWith := some s.user }
  | .pushesDetail =>
      match s.account, s.detail with
      | some _, none => some { s with detail := some s.details, details := s.details + 1 }
      | _, _ => none
  | .didTapSaveInfo nameText phoneText emailText =>
      match s.detail, nameText, phoneText, emailText with
      | none, _, _, _ => none
      | some detail, some name, some phone, some email =>
          some { s with callbacks :=
            s.callbacks ++ [.updateData detail (UserDetail.infoFields name phone email)] }
      | some _, _, _, _ => some s
  | .back => s.detail.map fun _ => s.popsDetail
  | .updated position reached =>
      match s.callbacks[position]? with
      | some (.updateData detail fields) =>
          some ({ s with callbacks := s.callbacks.eraseIdx position }.gotUpdate detail fields reached)
      | _ => none
  | .fetched position error =>
      match s.callbacks[position]? with
      | some .getDocuments =>
          let started := startedDownloads s.currentUser (s.users.getDocuments error)
          some { s with callbacks := s.callbacks.eraseIdx position ++ started.map .getData }
      | _ => none
  | .downloaded position data =>
      match s.callbacks[position]? with
      | some (.getData profile) =>
          let queued := (UserDetail.downloaded codec profile data).toList
          some { s with callbacks := s.callbacks.eraseIdx position ++ queued.map .setUserInfo }
      | _ => none
  | .stored position alive =>
      match s.callbacks[position]? with
      | some (.setUserInfo user) =>
          some { s with
            user := if alive then user else s.user
            callbacks := s.callbacks.eraseIdx position }
      | _ => none

/-- What is asked of a state: the account screen, when it is on top and no callback
is outstanding, shows the user of `UserManager`. -/
def ShowsUser (s : AccountApp) : Prop :=
  s.detail = none → s.callbacks = [] → ∀ screen ∈ s.account, screen.Shows s.user

/-- If the account screen shows and one callback is left, the user has the texts of the one
with which the screen was opened. -/
def LastKeeps (user : User) (s : AccountApp) : Prop :=
  s.detail = none → s.callbacks.length = 1 → ∀ opened ∈ s.openedWith, opened.info = user.info

/-- The last outstanding callback, when it runs under the account screen, stores a user with
the texts of the one at the last opening, or finds such a user stored and queues nothing. -/
def KeepsInfo (s : AccountApp) : AccountEvent → Prop
  | .updated position _ => ∀ detail fields,
      s.callbacks[position]? = some (.updateData detail fields) → s.LastKeeps s.user
  | .fetched position error =>
      s.callbacks[position]? = some .getDocuments →
        startedDownloads s.currentUser (s.users.getDocuments error) = [] → s.LastKeeps s.user
  | .downloaded position data => ∀ profile,
      s.callbacks[position]? = some (.getData profile) → data = none → s.LastKeeps s.user
  | .stored position alive => ∀ user,
      s.callbacks[position]? = some (.setUserInfo user) →
        s.LastKeeps (if alive then user else s.user)
  | _ => True

section Facts

variable {codec : ImageCodec} {s t : AccountApp}

/-- Exactly the last callback leaves none. -/
theorem eraseIdx_eq_nil_iff {callbacks : List ProfileTask} {position : Nat} {task : ProfileTask}
    (found : callbacks[position]? = some task) :
    callbacks.eraseIdx position = [] ↔ callbacks.length = 1 := by
  obtain ⟨inRange, -⟩ := List.getElem?_eq_some_iff.mp found
  rw [← List.length_eq_zero_iff, List.length_eraseIdx, if_pos inRange]
  omega

/-- What one event can do: load the account screen, push the profile screen, save
on it, pop it, or run a callback that is outstanding. -/
theorem step_cases {event : AccountEvent} (stepped : step codec s event = some t) :
    (event = .opensAccount ∧ s.detail = none ∧
      t = { s with account := some (.viewDidLoad s.user), openedWith := some s.user }) ∨
    ((event = .pushesDetail ∨ ∃ name phone email, event = .didTapSaveInfo name phone email) ∧
      t.detail ≠ none ∧ t.account = s.account ∧ t.openedWith = s.openedWith) ∨
    (event = .back ∧ t = s.popsDetail) ∨
    (∃ position reached detail fields, event = .updated position reached ∧
      s.callbacks[position]? = some (.updateData detail fields) ∧
      t = { s with callbacks := s.callbacks.eraseIdx position }.gotUpdate detail fields reached) ∨
    (∃ position error, event = .fetched position error ∧
      s.callbacks[position]? = some .getDocuments ∧
      t = { s with callbacks := s.callbacks.eraseIdx position ++
        (startedDownloads s.currentUser (s.users.getDocuments error)).map .getData }) ∨
    (∃ position data profile, event = .downloaded position data ∧
      s.callbacks[position]? = some (.getData profile) ∧
      t = { s with callbacks := s.callbacks.eraseIdx position ++
        (UserDetail.downloaded codec profile data).toList.map .setUserInfo }) ∨
    (∃ position alive user, event = .stored position alive ∧
      s.callbacks[position]? = some (.setUserInfo user) ∧
      t = { s with
        user := if alive then user else s.user
        callbacks := s.callbacks.eraseIdx position }) := by
  cases event with
  | opensAccount =>
      simp only [step] at stepped
      split at stepped
      · cases stepped
      · rename_i top
        cases stepped
        exact .inl ⟨rfl, top, rfl⟩
  | pushesDetail =>
      simp only [step] at stepped
      split at stepped
      · cases stepped
        exact .inr (.inl ⟨.inl rfl, by simp, rfl, rfl⟩)
      · cases stepped
  | didTapSaveInfo nameText phoneText emailText =>
      have onTop : s.detail ≠ none := by
        intro none
        simp [step, none] at stepped
      refine .inr (.inl ⟨.inr ⟨nameText, phoneText, emailText, rfl⟩, ?_⟩)
      simp only [step] at stepped
      split at stepped
      · cases stepped
      · cases stepped
        exact ⟨onTop, rfl, rfl⟩
      · cases stepped
        exact ⟨onTop, rfl, rfl⟩
  | back =>
      obtain ⟨_, -, rfl⟩ := Option.map_eq_some_iff.mp stepped
      exact .inr (.inr (.inl ⟨rfl, rfl⟩))
  | updated position reached =>
      simp only [step] at stepped
      split at stepped
      · rename_i detail fields found
        cases stepped
        exact .inr (.inr (.inr (.inl ⟨position, reached, detail, fields, rfl, found, rfl⟩)))
      · cases stepped
  | fetched position error =>
      simp only [step] at stepped
      split at stepped
      · rename_i found
        cases stepped
        exact .inr (.inr (.inr (.inr (.inl ⟨position, error, rfl, found, rfl⟩))))
      · cases stepped
  | downloaded position data =>
      simp only [step] at stepped
      split at stepped
      · rename_i profile found
        cases stepped
        exact .inr (.inr (.inr (.inr (.inr (.inl ⟨position, data, profile, rfl, found, rfl⟩)))))
      · cases stepped
  | stored position alive =>
      simp only [step] at stepped
      split at stepped
      · rename_i user found
        cases stepped
        exact .inr (.inr (.inr (.inr (.inr (.inr ⟨position, alive, user, rfl, found, rfl⟩)))))
      · cases stepped

/-- The account screen holds a copy of the user it was opened with. -/
def Copied (s : AccountApp) : Prop := s.account = s.openedWith.map .viewDidLoad

theorem copied_gotUpdate {detail : Nat} {fields : List (String × Value)} {reached : Bool}
    (copied : Copied s) : Copied (s.gotUpdate detail fields reached) := by
  by_cases shown : s.detail = some detail
  · rw [gotUpdate, if_pos shown]
    exact copied
  · rw [gotUpdate, if_neg shown]
    exact copied

/-- Only opening the account screen copies, and it copies the user of that moment. -/
theorem copied_step (copied : Copied s) {event : AccountEvent}
    (stepped : step codec s event = some t) : Copied t := by
  rcases step_cases stepped with ⟨-, -, rfl⟩ | ⟨-, -, account, opened⟩ | ⟨-, rfl⟩ |
    ⟨_, _, _, _, -, -, rfl⟩ | ⟨_, _, -, -, rfl⟩ | ⟨_, _, _, -, -, rfl⟩ | ⟨_, _, _, -, -, rfl⟩
  · rfl
  · rw [Copied, account, opened]
    exact copied
  · exact copied
  · exact copied_gotUpdate copied
  · exact copied
  · exact copied
  · exact copied

/-- The rows show a user exactly when the one at the last opening had the user's texts. -/
theorem shows_iff_opened (copied : Copied s) (user : User) :
    (∀ screen ∈ s.account, screen.Shows user) ↔
      ∀ opened ∈ s.openedWith, opened.info = user.info := by
  rw [copied]
  cases s.openedWith with
  | none => simp
  | some opened => simp [AccountScreen.shows_iff, AccountScreen.viewDidLoad]

/-- After a callback that queues `queued`, the account screen shows the user exactly
when something was queued, or the last callback kept the texts. -/
theorem showsUser_ran_iff (copied : Copied s) {position : Nat} {task : ProfileTask}
    (found : s.callbacks[position]? = some task) (user : User) (users : Collection)
    (queued : List ProfileTask) :
    ShowsUser { s with
        users := users
        user := user
        callbacks := s.callbacks.eraseIdx position ++ queued } ↔
      (queued = [] → s.LastKeeps user) := by
  have shows := shows_iff_opened copied user
  constructor
  · rintro shown rfl top last
    have none : s.callbacks.eraseIdx position ++ [] = [] := by
      rw [List.append_nil]
      exact (eraseIdx_eq_nil_iff found).mpr last
    exact shows.mp (shown top none)
  · intro keeps top none
    obtain ⟨ran, idle⟩ := List.append_eq_nil_iff.mp none
    exact shows.mpr (keeps idle top ((eraseIdx_eq_nil_iff found).mp ran))

/-- A popped profile screen leaves a fetch outstanding. -/
theorem showsUser_popsDetail (s : AccountApp) : ShowsUser s.popsDetail := by
  intro _ none
  simp [popsDetail] at none

/-- A step breaks the account screen exactly when it runs the last outstanding
callback and leaves a user with other texts. -/
theorem showsUser_step_iff (copied : Copied s) {event : AccountEvent}
    (stepped : step codec s event = some t) : ShowsUser t ↔ s.KeepsInfo event := by
  rcases step_cases stepped with ⟨rfl, top, rfl⟩ | ⟨kind, onTop, -, -⟩ | ⟨rfl, rfl⟩ |
    ⟨position, reached, detail, fields, rfl, found, rfl⟩ | ⟨position, error, rfl, found, rfl⟩ |
    ⟨position, data, profile, rfl, found, rfl⟩ | ⟨position, alive, user, rfl, found, rfl⟩
  · refine iff_of_true ?_ trivial
    rintro - - screen ⟨⟩
    exact AccountScreen.shows_iff.mpr rfl
  · refine iff_of_true (fun top => absurd top onTop) ?_
    rcases kind with rfl | ⟨name, phone, email, rfl⟩ <;> trivial
  · exact iff_of_true (showsUser_popsDetail s) trivial
  · -- a screen that is still shown is popped, so its fetch is outstanding
    by_cases shown : s.detail = some detail
    · rw [gotUpdate, if_pos shown]
      refine iff_of_true (showsUser_popsDetail _) ?_
      intro _ _ _ top
      rw [shown] at top
      cases top
    · have ran := showsUser_ran_iff copied found s.user
        (if reached then (s.users.updateData savedDocumentID fields).getD s.users else s.users) []
      rw [List.append_nil] at ran
      rw [gotUpdate, if_neg shown]
      refine ran.trans ⟨fun keeps _ _ _ => keeps rfl, fun keeps _ => keeps detail fields found⟩
  · refine (showsUser_ran_iff copied found s.user s.users _).trans ?_
    rw [List.map_eq_nil_iff]
    exact ⟨fun keeps _ => keeps, fun keeps => keeps found⟩
  · refine (showsUser_ran_iff copied found s.user s.users _).trans ?_
    have idle : (UserDetail.downloaded codec profile data).toList.map ProfileTask.setUserInfo = [] ↔
        data = none := by
      cases data <;> simp [UserDetail.downloaded]
    rw [idle]
    refine ⟨fun keeps other here => keeps, fun keeps => keeps profile found⟩
  · have ran := showsUser_ran_iff copied found (if alive then user else s.user) s.users []
    rw [List.append_nil] at ran
    refine ran.trans ⟨fun keeps other here => ?_, fun keeps _ => keeps user found⟩
    cases found.symm.trans here
    exact keeps rfl

/-- An event that cannot happen asks for nothing. -/
theorem keepsInfo_of_refused {event : AccountEvent} (refused : step codec s event = none) :
    s.KeepsInfo event := by
  cases event with
  | opensAccount | pushesDetail | didTapSaveInfo | back => trivial
  | updated position reached =>
      intro detail fields found
      simp [step, found] at refused
  | fetched position error =>
      intro found
      simp [step, found] at refused
  | downloaded position data =>
      intro profile found
      simp [step, found] at refused
  | stored position alive =>
      intro user found
      simp [step, found] at refused

end Facts

/-- **When the account screen shows the profile.** For every `users` collection,
every signed-in uid, every stored user and every run of opening the account screen,
pushing the profile screen, saving any texts, going back and running the callbacks
in any order with any outcome: whenever the account screen shows and no callback is
outstanding, its rows show the name, phone number and email of the stored user,
exactly when every last outstanding callback that runs under it stores a user with the
texts of the one at the last opening of the screen, or finds such a user stored. -/
theorem account_shows_profile_iff (codec : ImageCodec) (users : Collection)
    (currentUser : Option String) (user : User) (events : List AccountEvent) :
    Always (step codec) ShowsUser (signedIn users currentUser user) events ↔
      Meets (step codec) KeepsInfo (signedIn users currentUser user) events := by
  apply always_iff_meets Copied
  · intro s event t copied _ stepped
    exact copied_step copied stepped
  · intro s event t copied _ stepped
    exact showsUser_step_iff copied stepped
  · intro s event refused
    exact keepsInfo_of_refused refused
  · rfl
  · rintro - - screen ⟨⟩

/-- Alice changes her name and her profile is loaded again. -/
def aliceRenamed : List AccountEvent :=
  [.opensAccount, .pushesDetail, .didTapSaveInfo (some "Alice B") (some "0900000002") (some "alice@x.vn"),
    .updated 0 true, .fetched 0 none, .downloaded 0 (some [1]), .stored 0 true]

/-- The account screen still shows the former name. -/
theorem account_shows_former_name :
    ∃ t screen, run (step .raw)
        (signedIn ⟨[alice.document savedDocumentID], List.nodup_singleton _⟩ (some "alice")
          (alice.user none)) aliceRenamed = some t ∧
      t.detail = none ∧ t.callbacks = [] ∧ t.account = some screen ∧
      t.user.fullName = some "Alice B" ∧ screen.cellForRowAt 0 = some ("Tên", "Alice") ∧
      ¬ Always (step .raw) ShowsUser
        (signedIn ⟨[alice.document savedDocumentID], List.nodup_singleton _⟩ (some "alice")
          (alice.user none)) aliceRenamed := by
  refine ⟨_, _, rfl, rfl, rfl, rfl, rfl, rfl, fun always => ?_⟩
  have shown := (always.last rfl) rfl rfl _ rfl
  have texts := AccountScreen.shows_iff.mp shown
  revert texts
  decide

end AccountApp

end PetApp
