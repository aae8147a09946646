import PetApp.Lib.Lists
import PetApp.Account.Login

/-!
Sign-ins, sign-outs and profile fetches in any order.

The callbacks of several fetches can be outstanding at once: the fetch that
`viewDidAppear` starts for the user Firebase remembers, and the fetch of a later
sign-in. Each ends in a block that overwrites `UserManager.shared.user`, whoever
is signed in by then.

* `InStep` — the invariant: the fetches started since the latest sign-in are for
  the signed-in user, and once one of them has ended, either another is
  outstanding or the stored user is the signed-in one.
* `inStep_step` — every event keeps it, except a block of an older fetch that is
  run last and for somebody else.
* `no_stale_profile` — so in every run without such a block the stored user is
  the signed-in one whenever the fetches have ended.
-/

namespace PetApp

open Runs

/-- A `users` collection with exactly one document per uid, each complete. -/
structure Users extends Collection where
  complete : ∀ document ∈ documents, ∃ profile, document.profile = some profile
  onePerUid : (documents.map fun document => document.string "uid").Nodup

namespace Users

/-- The uid has a document. -/
def Knows (users : Users) (uid : String) : Prop :=
  ∃ document ∈ users.documents, document.string "uid" = some uid

/-- What Firebase can answer: it signs in known users, and a query returns the
collection. -/
def Answers (users : Users) : LoginEvent → Prop
  | .callback _ (.signIn (.ok uid)) => users.Knows uid
  | .callback _ (.documents result) => result = some users.documents
  | _ => True

/-- The query of a known user starts one download, for that user. -/
theorem profiles_of_knows {users : Users} {uid : String} (known : users.Knows uid) :
    ∃ profile, profile.uid = uid ∧ profiles (some uid) users.documents = [profile] := by
  obtain ⟨document, member, own⟩ := known
  obtain ⟨profile, complete⟩ := users.complete document member
  have only : users.documents.filter (Document.hasUid (some uid)) = [document] := by
    rw [← own]
    exact Lists.filter_eq_singleton (fun d => d.string "uid") users.onePerUid member
  have same := Document.profile_uid complete
  rw [own] at same
  exact ⟨profile, (Option.some.inj same).symm, profiles_of_filter_eq_singleton only complete⟩

end Users

/-- The task belongs to a profile fetch. -/
def Task.isFetch : Task → Bool
  | .getDocuments _ | .getData _ | .setUserInfo _ => true
  | _ => false

/-- The uid a fetch is for. -/
def Task.uid : Task → Option String
  | .getDocuments id => id
  | .getData profile => some profile.uid
  | .setUserInfo user => user.uid
  | _ => none

namespace LoginScreen

/-- When no fetch is outstanding, a user is signed in and a fetch started after
the latest sign-in has ended, the stored user is the signed-in one. -/
def NoStale (s : LoginScreen) : Prop :=
  (∀ callback ∈ s.callbacks, callback.task.isFetch = false) →
    ∀ uid, s.currentUser = some uid → s.fetched = true → s.user.uid = some uid

/-- A fetch started since the latest sign-in is among the callbacks. -/
def CurrentFetch (s : LoginScreen) (callbacks : List Callback) : Prop :=
  ∃ callback ∈ callbacks, callback.task.isFetch = true ∧ callback.signIns = s.signIns

instance (s : LoginScreen) (callbacks : List Callback) : Decidable (s.CurrentFetch callbacks) :=
  inferInstanceAs (Decidable (∃ callback ∈ callbacks, _ ∧ _))

/-- While a user is signed in, the block of a fetch started before that sign-in
runs only if it is for the same user or a fetch started since is outstanding. -/
def StaleYields (s : LoginScreen) : LoginEvent → Prop
  | .callback position .main =>
      ∀ callback ∈ s.callbacks[position]?, callback.task.isFetch = true →
        callback.signIns ≠ s.signIns → ∀ uid ∈ s.currentUser,
          callback.task.uid = some uid ∨ s.CurrentFetch (s.callbacks.eraseIdx position)
  | _ => True

instance (s : LoginScreen) : ∀ event, Decidable (StaleYields s event)
  | .callback position .main =>
      inferInstanceAs (Decidable (∀ callback ∈ s.callbacks[position]?, _ → _ → ∀ uid ∈ s.currentUser, _))
  | .viewDidAppear | .didTapLogin | .signOut | .callback _ (.signIn _) | .callback _ (.documents _)
  | .callback _ (.data _) => inferInstanceAs (Decidable True)

/-- The invariant of the fetches. -/
structure InStep (users : Users) (s : LoginScreen) : Prop where
  known : ∀ uid, s.currentUser = some uid → users.Knows uid
  started : ∀ callback ∈ s.callbacks, callback.task.isFetch = true →
    callback.signIns ≤ s.signIns ∧ ∃ uid, callback.task.uid = some uid ∧ users.Knows uid
  current : ∀ callback ∈ s.callbacks, callback.task.isFetch = true →
    callback.signIns = s.signIns → ∀ uid, s.currentUser = some uid → callback.task.uid = some uid
  stored : ∀ uid, s.currentUser = some uid → s.fetched = true →
    s.CurrentFetch s.callbacks ∨ s.user.uid = some uid

section Facts

variable {codec : ImageCodec} {users : Users} {s t : LoginScreen}

theorem InStep.noStale (inStep : InStep users s) : NoStale s := by
  intro none uid signedIn fetched
  rcases inStep.stored uid signedIn fetched with ⟨callback, member, fetch, -⟩ | stored
  · rw [none callback member] at fetch
    cases fetch
  · exact stored

theorem inStep_launched {cached : Option String}
    (known : ∀ uid, cached = some uid → users.Knows uid) : InStep users (launched cached) where
  known := known
  started := by simp [launched]
  current := by simp [launched]
  stored := by simp [launched]

/-- An event that keeps the outstanding fetches and the stored user, and at most
signs the user out, keeps the invariant. -/
theorem InStep.of_same_fetches (inStep : InStep users s)
    (fetches : ∀ callback, callback.task.isFetch = true →
      (callback ∈ t.callbacks ↔ callback ∈ s.callbacks))
    (signIns : t.signIns = s.signIns) (user : t.user = s.user) (fetched : t.fetched = s.fetched)
    (signedIn : ∀ uid, t.currentUser = some uid → s.currentUser = some uid) : InStep users t where
  known uid current := inStep.known uid (signedIn uid current)
  started callback member fetch := by
    rw [signIns]
    exact inStep.started callback ((fetches callback fetch).mp member) fetch
  current callback member fetch latest uid current := by
    rw [signIns] at latest
    exact inStep.current callback ((fetches callback fetch).mp member) fetch latest uid
      (signedIn uid current)
  stored uid current ended := by
    rw [fetched] at ended
    rw [user]
    rcases inStep.stored uid (signedIn uid current) ended with
      ⟨callback, member, fetch, latest⟩ | stored
    · exact .inl ⟨callback, (fetches callback fetch).mpr member, fetch, latest.trans signIns.symm⟩
    · exact .inr stored

/-- `onCheckUserIsLogin` starts a fetch for the signed-in user. -/
theorem InStep.onCheckUserIsLogin (inStep : InStep users s) : InStep users s.onCheckUserIsLogin := by
  cases signedIn : s.currentUser with
  | none =>
      simp only [LoginScreen.onCheckUserIsLogin, signedIn]
      exact inStep
  | some uid =>
      simp only [LoginScreen.onCheckUserIsLogin, signedIn]
      constructor
      · exact inStep.known
      · intro callback member fetch
        rcases List.mem_append.mp member with old | new
        · exact inStep.started callback old fetch
        · cases List.mem_singleton.mp new
          exact ⟨le_rfl, uid, rfl, inStep.known uid signedIn⟩
      · intro callback member fetch latest uid' current
        rcases List.mem_append.mp member with old | new
        · exact inStep.current callback old fetch latest uid' current
        · cases List.mem_singleton.mp new
          exact signedIn.symm.trans current
      · intro uid' current ended
        exact .inl ⟨_, List.mem_append_right _ (List.mem_singleton_self _), rfl, rfl⟩

/-- After a sign-in every outstanding fetch is an older one. -/
theorem InStep.signIn (inStep : InStep users s) {uid : String} (known : users.Knows uid) :
    InStep users { s with currentUser := some uid, signIns := s.signIns + 1, fetched := false } where
  known uid' current := by
    cases current
    exact known
  started callback member fetch := by
    obtain ⟨before, known⟩ := inStep.started callback member fetch
    exact ⟨Nat.le_succ_of_le before, known⟩
  current callback member fetch latest := by
    have before := (inStep.started callback member fetch).1
    simp only at latest
    omega
  stored uid' current ended := by cases ended

/-- A fetch that goes on: its callback is replaced by the next one, for the same
user. -/
theorem InStep.advance (inStep : InStep users s) {position : Nat} {callback : Callback}
    (next : Callback) (found : s.callbacks[position]? = some callback)
    (fetch : callback.task.isFetch = true) (nextFetch : next.task.isFetch = true)
    (sameFetch : next.signIns = callback.signIns)
    (sameUid : next.task.uid = callback.task.uid) (presented : Option Presented) :
    InStep users { s with
      callbacks := s.callbacks.eraseIdx position ++ [next], presented := presented } := by
  have member := List.mem_of_getElem? found
  constructor
  · exact inStep.known
  · intro other present otherFetch
    rcases List.mem_append.mp present with old | new
    · exact inStep.started other (List.mem_of_mem_eraseIdx old) otherFetch
    · cases List.mem_singleton.mp new
      rw [sameFetch, sameUid]
      exact inStep.started callback member fetch
  · intro other present otherFetch latest uid signedIn
    rcases List.mem_append.mp present with old | new
    · exact inStep.current other (List.mem_of_mem_eraseIdx old) otherFetch latest uid signedIn
    · cases List.mem_singleton.mp new
      rw [sameUid]
      exact inStep.current callback member fetch (sameFetch.symm.trans latest) uid signedIn
  · intro uid signedIn ended
    refine (inStep.stored uid signedIn ended).imp_left ?_
    rintro ⟨other, present, otherFetch, latest⟩
    by_cases same : other = callback
    · subst same
      exact ⟨next, List.mem_append_right _ (List.mem_singleton_self next), nextFetch,
        sameFetch.trans latest⟩
    · exact ⟨other, List.mem_append_left _ (Lists.mem_eraseIdx_of_ne found present same),
        otherFetch, latest⟩

/-- The block of a fetch keeps the invariant when it is for the signed-in user
or a fetch started since the sign-in is outstanding. -/
theorem InStep.setUserInfo (inStep : InStep users s) {position : Nat} {callback : Callback}
    {user : User} (found : s.callbacks[position]? = some callback)
    (task : callback.task = .setUserInfo user)
    (yields : StaleYields s (.callback position .main)) :
    InStep users (LoginScreen.setUserInfo callback.signIns user
      { s with callbacks := s.callbacks.eraseIdx position }) := by
  constructor
  · exact inStep.known
  · exact fun other member => inStep.started other (List.mem_of_mem_eraseIdx member)
  · exact fun other member => inStep.current other (List.mem_of_mem_eraseIdx member)
  · intro uid signedIn ended
    by_cases latest : callback.signIns = s.signIns
    · -- the block of a current fetch is for the signed-in user
      have own := inStep.current callback (List.mem_of_getElem? found) (by rw [task]; rfl) latest
        uid signedIn
      rw [task] at own
      exact .inr own
    · have yields := yields callback found (by rw [task]; rfl) latest uid signedIn
      rw [task] at yields
      exact yields.symm

/-- Taking a callback that belongs to no fetch from the list keeps the fetches. -/
theorem mem_eraseIdx_iff_of_isFetch {callbacks : List Callback} {position : Nat} {taken : Callback}
    (found : callbacks[position]? = some taken) (noFetch : taken.task.isFetch = false)
    (callback : Callback) (fetch : callback.task.isFetch = true) :
    callback ∈ callbacks.eraseIdx position ↔ callback ∈ callbacks := by
  refine ⟨List.mem_of_mem_eraseIdx, fun member => Lists.mem_eraseIdx_of_ne found member ?_⟩
  rintro rfl
  rw [noFetch] at fetch
  cases fetch

/-- Enqueueing tasks that belong to no fetch keeps the fetches. -/
theorem mem_append_iff_of_isFetch {callbacks : List Callback} {added : Callback}
    (noFetch : added.task.isFetch = false) (callback : Callback)
    (fetch : callback.task.isFetch = true) :
    callback ∈ callbacks ++ [added] ↔ callback ∈ callbacks := by
  rw [List.mem_append, List.mem_singleton, or_iff_left_iff_imp]
  rintro rfl
  rw [noFetch] at fetch
  cases fetch

/-- The delivery of a callback keeps the invariant. -/
theorem inStep_callback (inStep : InStep users s) {position : Nat} {outcome : Outcome}
    (answers : users.Answers (.callback position outcome))
    (yields : StaleYields s (.callback position outcome))
    (stepped : step codec s (.callback position outcome) = some t) : InStep users t := by
  obtain ⟨callback, found, delivered⟩ := step_callback_eq_some.mp stepped
  rcases deliver_cases delivered with ⟨task, result, rfl, rfl⟩ | ⟨id, result, task, rfl, rfl⟩ |
    ⟨profile, data, task, rfl, rfl⟩ | ⟨user, task, rfl, rfl⟩ | ⟨message, task, rfl, rfl⟩
  · have taken := inStep.of_same_fetches
      (t := { s with callbacks := s.callbacks.eraseIdx position })
      (mem_eraseIdx_iff_of_isFetch found (by rw [task]; rfl)) rfl rfl rfl (fun _ h => h)
    match result, answers with
    | .ok uid, known => exact (taken.signIn known).onCheckUserIsLogin
    | .error .wrongPassword, _ =>
        exact taken.of_same_fetches (fun _ _ => Iff.rfl) rfl rfl rfl (fun _ h => h)
    | .error (.other message), _ =>
        exact taken.of_same_fetches (mem_append_iff_of_isFetch rfl) rfl rfl rfl (fun _ h => h)
  · obtain rfl : result = some users.documents := answers
    have fetch : callback.task.isFetch = true := by rw [task]; rfl
    obtain ⟨-, uid, searched, known⟩ :=
      inStep.started callback (List.mem_of_getElem? found) fetch
    obtain rfl : id = some uid := by rwa [task] at searched
    obtain ⟨profile, own, only⟩ := Users.profiles_of_knows known
    have advanced := inStep.advance ⟨callback.signIns, .getData profile⟩ found fetch
      rfl rfl (by simp [Task.uid, task, own]) s.presented
    simpa [gotDocuments, enqueue, only] using advanced
  · have fetch : callback.task.isFetch = true := by rw [task]; rfl
    exact inStep.advance ⟨callback.signIns, .setUserInfo (downloaded codec profile data)⟩ found fetch
      rfl rfl (by simp [Task.uid, task, downloaded]) _
  · exact inStep.setUserInfo found task yields
  · exact inStep.of_same_fetches (mem_eraseIdx_iff_of_isFetch found (by rw [task]; rfl))
      rfl rfl rfl (fun _ h => h)

/-- Every event whose stale blocks yield keeps the invariant. -/
theorem inStep_step (inStep : InStep users s) {event : LoginEvent} (answers : users.Answers event)
    (yields : StaleYields s event) (stepped : step codec s event = some t) : InStep users t := by
  cases event with
  | viewDidAppear =>
      cases stepped
      exact inStep.onCheckUserIsLogin
  | didTapLogin =>
      cases stepped
      exact inStep.of_same_fetches (mem_append_iff_of_isFetch rfl) rfl rfl rfl (fun _ h => h)
  | signOut =>
      cases stepped
      exact inStep.of_same_fetches (fun _ _ => Iff.rfl) rfl rfl rfl (fun _ h => by cases h)
  | callback position outcome => exact inStep_callback inStep answers yields stepped

end Facts

/-- **No stale profile wins, unless a stale block runs last.** From the start of
the app, for every `users` collection with one complete document per uid and
every order of sign-ins, sign-outs and callbacks: if every block of a fetch
started before the latest sign-in is for the signed-in user or runs while a
fetch started since is outstanding, the stored user is the signed-in one in every
state in which the fetches have ended. -/
theorem no_stale_profile (codec : ImageCodec) (users : Users) (cached : Option String)
    (known : ∀ uid, cached = some uid → users.Knows uid) (events : List LoginEvent)
    (answers : ∀ event ∈ events, users.Answers event)
    (yields : Meets (step codec) StaleYields (launched cached) events) :
    Always (step codec) NoStale (launched cached) events := by
  have always : Always (step codec) (InStep users) (launched cached) events := by
    refine always_of_meets ?_ ?_ yields
    · intro s event member t inStep yields stepped
      exact inStep_step inStep (answers event member) yields stepped
    · exact inStep_launched known
  exact always.imp fun _ inStep => inStep.noStale

/-- The collection of two users. -/
def twoUsers : Users where
  documents := [alice.document "a", bob.document "b"]
  distinct := by decide
  complete := by
    intro document member
    rcases List.mem_pair.mp member with rfl | rfl
    · exact ⟨alice, rfl⟩
    · exact ⟨bob, rfl⟩
  onePerUid := by decide

/-- Firebase remembers Alice, whose fetch `viewDidAppear` starts; then Bob signs
in. The fetch of Alice is callback 0, the fetch of Bob callback 1. -/
def aliceThenBob : List LoginEvent :=
  [.viewDidAppear, .didTapLogin, .callback 1 (.signIn (.ok "bob"))]

/-- The three callbacks of the fetch whose query is at `first`, while another
callback is outstanding at the other of the positions 0 and 1. -/
def fetchOf (first : Nat) : List LoginEvent :=
  [.callback first (.documents (some twoUsers.documents)), .callback 1 (.data none),
    .callback 1 .main]

/-- The three callbacks of the only outstanding fetch. -/
def lastFetch : List LoginEvent :=
  [.callback 0 (.documents (some twoUsers.documents)), .callback 0 (.data none), .callback 0 .main]

theorem knows_alice : twoUsers.Knows "alice" := ⟨alice.document "a", by simp [twoUsers], rfl⟩

theorem knows_bob : twoUsers.Knows "bob" := ⟨bob.document "b", by simp [twoUsers], rfl⟩

theorem answers_aliceThenBob (first : Nat) :
    ∀ event ∈ aliceThenBob ++ fetchOf first ++ lastFetch, twoUsers.Answers event := by
  simp [aliceThenBob, fetchOf, lastFetch, Users.Answers, knows_bob]

/-- The fetch of Alice ends while the one of Bob is outstanding. -/
theorem no_stale_profile_alice_first :
    Meets (step .raw) StaleYields (launched (some "alice"))
        (aliceThenBob ++ fetchOf 0 ++ lastFetch) ∧
      Always (step .raw) NoStale (launched (some "alice"))
        (aliceThenBob ++ fetchOf 0 ++ lastFetch) :=
  ⟨by decide, no_stale_profile .raw twoUsers (some "alice")
    (fun uid cached => by cases cached; exact knows_alice) _ (answers_aliceThenBob 0) (by decide)⟩

/-- The screen after the fetch of Alice has ended last. -/
def bobAsAlice : LoginScreen where
  currentUser := some "bob"
  user := alice.user none
  presented := some .tabbarController
  validationPasswordLabel := none
  callbacks := []
  signIns := 1
  fetched := true

/-- Alice's fetch ends after Bob's: Bob is signed in and the stored user is Alice. -/
theorem stale_alice_wins :
    twoUsers.Knows "alice" ∧
      (∀ event ∈ aliceThenBob ++ fetchOf 1 ++ lastFetch, twoUsers.Answers event) ∧
      run (step .raw) (launched (some "alice")) (aliceThenBob ++ fetchOf 1 ++ lastFetch) =
        some bobAsAlice ∧
      ¬ Always (step .raw) NoStale (launched (some "alice"))
        (aliceThenBob ++ fetchOf 1 ++ lastFetch) := by
  refine ⟨knows_alice, answers_aliceThenBob 1, rfl, fun always => ?_⟩
  have stale : NoStale bobAsAlice := always.last rfl
  have same := stale (by simp [bobAsAlice]) "bob" rfl rfl
  revert same
  decide

end LoginScreen

end PetApp
