import PetApp.Account.Login

/-!
Where the stored user comes from: every run of the login screen, with sign-ins, sign-outs and
profile fetches in any order.

A fetch takes the uid that is signed in when it starts and ends in a block that stores a user,
whoever is signed in by then. So the stored user need not be the signed-in one, but it is
always one that signed in.

* `SignedIn` — Firebase knew the uid when the app started, or accepted a sign-in for it.
* `Fetched` — a profile read from a complete document of such a uid, in an answer to a query.
* `traced_step` — the invariant: everything outstanding goes back to a sign-in and, once the
  query is answered, to such a document.
* `user_signed_in` — so the stored user is that of one document of a uid that signed in, and
  the tab bar is presented for nobody else.
-/

namespace PetApp

open Runs

/-- A profile is read from a complete document with the searched `uid`. -/
theorem exists_document_of_mem_profiles {id : Option String} {documents : List Document}
    {profile : Profile} (member : profile ∈ profiles id documents) :
    ∃ document ∈ documents, document.hasUid id = true ∧ document.profile = some profile := by
  induction documents with
  | nil => cases member
  | cons document documents ih =>
      have later (here : profile ∈ profiles id documents) : ∃ other ∈ document :: documents,
          other.hasUid id = true ∧ other.profile = some profile := by
        obtain ⟨other, inRest, found⟩ := ih here
        exact ⟨other, List.mem_cons_of_mem _ inRest, found⟩
      simp only [profiles] at member
      split at member
      · rename_i own
        split at member
        · cases member
        · rename_i first complete
          rcases List.mem_cons.mp member with rfl | inRest
          · exact ⟨document, List.mem_cons_self, own, complete⟩
          · exact later inRest
      · exact later member

namespace LoginScreen

/-- Firebase knew the uid when the app started, or accepted a sign-in for it. -/
def SignedIn (cached : Option String) (events : List LoginEvent) (uid : String) : Prop :=
  cached = some uid ∨ ∃ position, .callback position (.signIn (.ok uid)) ∈ events

/-- The profile was read from a document of its uid, in an answer to a query, and the uid has
signed in. -/
def Fetched (cached : Option String) (events : List LoginEvent) (profile : Profile) : Prop :=
  SignedIn cached events profile.uid ∧
    ∃ position documents document, .callback position (.documents (some documents)) ∈ events ∧
      document ∈ documents ∧ document.profile = some profile

/-- Where a task goes back to. -/
def TaskTraced (cached : Option String) (events : List LoginEvent) : Task → Prop
  | .getDocuments id => ∃ uid, id = some uid ∧ SignedIn cached events uid
  | .getData profile => Fetched cached events profile
  | .setUserInfo user => ∃ profile image, Fetched cached events profile ∧ user = profile.user image
  | .signIn | .presentAlert _ => True

/-- The invariant: the signed-in uid, the outstanding tasks, the stored user and the tab bar go
back to sign-ins and fetched documents. -/
structure Traced (cached : Option String) (events : List LoginEvent) (s : LoginScreen) : Prop where
  current : ∀ uid, s.currentUser = some uid → SignedIn cached events uid
  tasks : ∀ callback ∈ s.callbacks, TaskTraced cached events callback.task
  user : s.user = {} ∨ ∃ profile image, Fetched cached events profile ∧ s.user = profile.user image
  tabbar : s.presented = some .tabbarController → ∃ profile, Fetched cached events profile

section Facts

variable {codec : ImageCodec} {cached : Option String} {events : List LoginEvent}
  {s t : LoginScreen}

theorem traced_launched (cached : Option String) (events : List LoginEvent) :
    Traced cached events (launched cached) where
  current uid signedIn := .inl signedIn
  tasks := by simp [launched]
  user := .inl rfl
  tabbar := by simp [launched]

/-- Tasks with a trace may be enqueued. -/
theorem traced_enqueue (traced : Traced cached events s) {signIns : Nat} {tasks : List Task}
    (new : ∀ task ∈ tasks, TaskTraced cached events task) :
    Traced cached events (s.enqueue signIns tasks) where
  current := traced.current
  tasks := by
    intro callback member
    rcases List.mem_append.mp member with old | added
    · exact traced.tasks callback old
    · obtain ⟨task, isNew, rfl⟩ := List.mem_map.mp added
      exact new task isNew
  user := traced.user
  tabbar := traced.tabbar

theorem traced_present (traced : Traced cached events s) {controller : Presented}
    (shown : controller = .tabbarController → ∃ profile, Fetched cached events profile) :
    Traced cached events (s.present controller) where
  current := traced.current
  tasks := traced.tasks
  user := traced.user
  tabbar := by
    intro presented
    simp only [present, Option.or_eq_some_iff, Option.some.injEq] at presented
    rcases presented with already | ⟨-, now⟩
    · exact traced.tabbar already
    · exact shown now

theorem traced_didDismissView (traced : Traced cached events s) :
    Traced cached events s.didDismissView where
  current := traced.current
  tasks := traced.tasks
  user := traced.user
  tabbar := by
    intro presented
    simp only [didDismissView] at presented
    split at presented
    · cases presented
    · exact traced.tabbar presented

theorem traced_onCheckUserIsLogin (traced : Traced cached events s) :
    Traced cached events s.onCheckUserIsLogin := by
  unfold onCheckUserIsLogin
  split
  · exact traced
  · rename_i uid signedIn
    refine traced_enqueue traced ?_
    intro task member
    cases List.mem_singleton.mp member
    exact ⟨uid, rfl, traced.current uid signedIn⟩

/-- A callback that is delivered leaves the others. -/
theorem traced_erased (traced : Traced cached events s) (position : Nat) :
    Traced cached events { s with callbacks := s.callbacks.eraseIdx position } where
  current := traced.current
  tasks := fun callback member => traced.tasks callback (List.mem_of_mem_eraseIdx member)
  user := traced.user
  tabbar := traced.tabbar

theorem traced_signedIn (traced : Traced cached events s) {position : Nat}
    {result : Except SignInError String} (member : .callback position (.signIn result) ∈ events) :
    Traced cached events (s.signedIn result) := by
  unfold signedIn
  split
  · exact traced_didDismissView
      ⟨traced.current, traced.tasks, traced.user, traced.tabbar⟩
  · refine traced_didDismissView (traced_enqueue traced ?_)
    intro task new
    cases List.mem_singleton.mp new
    trivial
  · rename_i uid
    refine traced_onCheckUserIsLogin ⟨?_, traced.tasks, traced.user, traced.tabbar⟩
    rintro _ ⟨⟩
    exact .inr ⟨position, member⟩

/-- The profiles an answered query starts downloads for are fetched. -/
theorem traced_gotDocuments (traced : Traced cached events s) {position signIns : Nat}
    {id : Option String} {result : Option (List Document)}
    (asked : TaskTraced cached events (.getDocuments id))
    (member : .callback position (.documents result) ∈ events) :
    Traced cached events (s.gotDocuments signIns id result) := by
  cases result with
  | none => exact traced
  | some documents =>
      obtain ⟨uid, rfl, signedIn⟩ := asked
      refine traced_enqueue traced ?_
      intro task started
      obtain ⟨profile, found, rfl⟩ := List.mem_map.mp started
      obtain ⟨document, inAnswer, own, complete⟩ := exists_document_of_mem_profiles found
      have same : uid = profile.uid := by
        have searched : some uid = document.string "uid" := beq_iff_eq.mp own
        rw [Document.profile_uid complete] at searched
        exact Option.some.inj searched
      refine ⟨same ▸ signedIn, position, documents, document, member, inAnswer, complete⟩

/-- Every event keeps the invariant. -/
theorem traced_step (traced : Traced cached events s) {event : LoginEvent}
    (member : event ∈ events) (stepped : step codec s event = some t) :
    Traced cached events t := by
  cases event with
  | viewDidAppear =>
      cases stepped
      exact traced_onCheckUserIsLogin traced
  | didTapLogin =>
      cases stepped
      refine traced_enqueue (traced_present traced (by rintro ⟨⟩)) ?_
      intro task new
      cases List.mem_singleton.mp new
      trivial
  | signOut =>
      cases stepped
      exact ⟨by rintro uid ⟨⟩, traced.tasks, traced.user, traced.tabbar⟩
  | callback position outcome =>
      obtain ⟨callback, found, delivered⟩ := step_callback_eq_some.mp stepped
      have others := traced_erased traced position
      have own := traced.tasks callback (List.mem_of_getElem? found)
      rcases deliver_cases delivered with ⟨-, result, rfl, rfl⟩ |
        ⟨id, result, task, rfl, rfl⟩ | ⟨profile, data, task, -, rfl⟩ | ⟨user, task, -, rfl⟩ |
        ⟨message, -, -, rfl⟩
      · exact traced_signedIn others member
      · rw [task] at own
        exact traced_gotDocuments others own member
      · rw [task] at own
        refine traced_present (traced_enqueue others ?_) fun _ => ⟨profile, own⟩
        intro new isNew
        cases List.mem_singleton.mp isNew
        exact ⟨profile, _, own, rfl⟩
      · rw [task] at own
        exact traced_didDismissView ⟨others.current, others.tasks, .inr own, others.tabbar⟩
      · exact traced_present others (by rintro ⟨⟩)

end Facts

/-- **Only users that signed in are stored.** After every run of the login screen, with sign-ins,
sign-outs, appearances and callbacks in any order and with any answers: the stored user is the
empty one, or all its fields but the avatar are those of one document that a query of the run
was answered with, and the uid of that document has signed in; and when the tab bar is
presented, some such user has been fetched. -/
theorem user_signed_in (codec : ImageCodec) (cached : Option String) (events : List LoginEvent)
    (t : LoginScreen) (reached : run (step codec) (launched cached) events = some t) :
    (t.user = {} ∨ ∃ profile image, Fetched cached events profile ∧ t.user = profile.user image) ∧
      (t.presented = some .tabbarController → ∃ profile, Fetched cached events profile) := by
  have traced : Always (step codec) (Traced cached events) (launched cached) events := by
    apply always_of_steps
    · intro s event member t before stepped
      exact traced_step before member stepped
    · exact traced_launched cached events
  exact ⟨(traced.last reached).user, (traced.last reached).tabbar⟩

/-- Alice signs in and out again before her fetch has ended. -/
def aliceSignsOut : List LoginEvent :=
  signInAs "alice" (some [bob.document "b", alice.document "a"]) ++
    [.signOut, .callback 0 (.data none), .callback 0 .main]

/-- She is stored afterwards, and she has signed in. -/
theorem user_signed_in_alice :
    ∃ t, run (step .raw) (launched none) aliceSignsOut = some t ∧ t.currentUser = none ∧
      ∃ profile image, Fetched none aliceSignsOut profile ∧ t.user = profile.user image := by
  refine ⟨_, rfl, rfl, ?_⟩
  exact (user_signed_in .raw none aliceSignsOut _ rfl).1.resolve_left (by decide)

end LoginScreen

end PetApp
