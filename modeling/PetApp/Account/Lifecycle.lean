import PetApp.Account.Registry

/-!
Accounts over their life: sign-up, profile saves, deletion and the next login.

`didSelectRowAt` of `AccountViewController.swift` deletes an account in Firebase Auth
and signs out; nothing in the app removes a document of `users`. The profile of a
user is what the sign-up stored, except for the one user whose document has the fixed
id: that one gets the texts of everybody's saves.

* `created_of_registers` — a registered profile goes back to a `createUser`.
* `profile_of_sign_up` — so a profile is that of its sign-up, but for the fixed
  document.
* `gone_step`, `deleted_account_keeps_profile` — a deleted account never comes back,
  and its profile is still found.
* `loads_registered_user` — the user the two loaders store after any run.
-/

namespace PetApp

open Runs

namespace Service

variable {δ : Type} [DecidableEq δ] {codec : ImageCodec} {s t : Service δ}

/-! ### Sign-ups -/

/-- A sign-up on its way was requested before or has just been created. -/
theorem pending_step {e : ServiceEvent δ} (stepped : step codec s e = some t) {uid : String}
    {call : CreateUser} (pending : (uid, call) ∈ t.pending) :
    (uid, call) ∈ s.pending ∨ ∃ device, e = .createUser device call (.ok uid) := by
  rcases step_cases stepped with ⟨-, -, -, -, sublist⟩ | ⟨device, call', uid', rfl, -, rfl⟩ |
    ⟨position, _, _, _, _, -, -, -, -, -, -, same⟩ | ⟨_, _, _, -, -, -, -, same⟩ |
    ⟨_, _, _, -, -, -, -, -, same⟩
  · exact .inl (sublist.subset pending)
  · rcases List.mem_append.mp pending with old | new
    · exact .inl old
    · cases List.mem_singleton.mp new
      exact .inr ⟨device, rfl⟩
  · rw [same] at pending
    exact .inl ((List.eraseIdx_sublist _ _).subset pending)
  · exact .inl (same ▸ pending)
  · exact .inl (same ▸ pending)

omit [DecidableEq δ] in
/-- Only a sign-up on its way is registered. -/
theorem pending_of_registers {e : ServiceEvent δ} {uid : String} {call : CreateUser} {isFixed : Bool}
    (registers : .registers uid call isFixed ∈ writes codec s e) : (uid, call) ∈ s.pending := by
  unfold writes at registers
  split at registers
  · split at registers
    · cases registers
    · rename_i waits
      cases List.mem_singleton.mp registers
      exact List.mem_of_getElem? waits
  · cases List.mem_singleton.mp registers
  · split at registers
    · cases List.mem_singleton.mp registers
    · cases registers
  · cases registers

/-- A registered profile goes back to a `createUser` of the run, or to a sign-up that
was on its way before it. -/
theorem created_of_registers {es : List (ServiceEvent δ)} {uid : String} {call : CreateUser}
    {isFixed : Bool} (registers : .registers uid call isFixed ∈ trace (step codec) (writes codec) s es) :
    (uid, call) ∈ s.pending ∨ ∃ device, .createUser device call (.ok uid) ∈ es := by
  induction es generalizing s with
  | nil => cases registers
  | cons e es ih =>
      cases stepped : step codec s e with
      | none => simp [trace, stepped] at registers
      | some m =>
          rw [trace_cons stepped] at registers
          rcases List.mem_append.mp registers with now | later
          · exact .inl (pending_of_registers now)
          · rcases ih later with pending | ⟨device, member⟩
            · rcases pending_step stepped pending with old | ⟨device, rfl⟩
              · exact .inl old
              · exact .inr ⟨device, List.mem_cons_self⟩
            · exact .inr ⟨device, List.mem_cons_of_mem _ member⟩

/-- **A profile is that of its sign-up.** After every run of the services, every profile
the loaders find for a uid goes back to one successful `createUser` for that uid: it is
no admin's and has the password of that call, and unless its document has the fixed id it
has all the submitted texts, whatever has been saved on profile screens. -/
theorem profile_of_sign_up (codec : ImageCodec) (es : List (ServiceEvent δ)) (t : Service δ)
    (reached : run (step codec) initial es = some t) (uid : String) (profile : Profile)
    (found : profile ∈ profiles (some uid) t.documents) :
    profile.isAdmin = false ∧ ∃ device call, .createUser device call (.ok uid) ∈ es ∧
      profile.password = call.password ∧
      ((∀ d ∈ t.documents, d.id = savedDocumentID → d.string "uid" ≠ some uid) →
        profile = call.profile uid) := by
  have rep := represents_run reached
  rw [profiles_of_represents rep] at found
  have has := Option.mem_toList.mp found
  obtain ⟨isAdmin, call, isFixed, registers, password, same⟩ := Registry.profile_foldl has
  refine ⟨isAdmin, ?_⟩
  rcases created_of_registers registers with pending | ⟨device, member⟩
  · cases pending
  · refine ⟨device, call, member, password, fun notFixed => same fun fixed => ?_⟩
    obtain ⟨d, present, hasId⟩ := rep.present uid fixed
    exact notFixed d present hasId ((rep.fixed d present hasId).trans fixed)

/-- The profile of the first user is the submitted one. -/
theorem profile_of_sign_up_alice :
    ∃ t profile, run (step .raw) initial aliceThenBob = some t ∧
      profile ∈ profiles (some "alice") t.documents ∧
      profile = ⟨"Alice", "0900000001", false, "Secret12", "alice", "a@x.vn"⟩ ∧
      profile.isAdmin = false := by
  obtain ⟨t, reached⟩ : ∃ t, run (step .raw) initial aliceThenBob = some t := ⟨_, rfl⟩
  have found : CreateUser.profile ⟨"a@x.vn", "Secret12", "Alice", "0900000001"⟩ "alice" ∈
      profiles (some "alice") t.documents := by
    cases reached
    exact List.mem_cons_self
  exact ⟨t, _, reached, found, rfl, (profile_of_sign_up .raw aliceThenBob t reached "alice" _ found).1⟩

/-! ### Deletion -/

/-- Accounts and sessions have uids that were issued. -/
structure Issued (s : Service δ) : Prop where
  accounts : ∀ account ∈ s.backend.accounts, account.uid ∈ s.issued
  sessions : ∀ device uid, s.currentUser device = some uid → uid ∈ s.issued

/-- The account with the uid existed and does no longer. -/
structure Gone (uid : String) (s : Service δ) : Prop where
  issued : uid ∈ s.issued
  absent : ∀ account ∈ s.backend.accounts, account.uid ≠ uid

/-- What an answered request can do to the accounts and sessions. -/
theorem session_cases {e : ServiceEvent δ} (stepped : step codec s e = some t) :
    (∃ device call uid, uid ∉ s.issued ∧ t = s.created device call uid) ∨
    (∃ device account, account ∈ s.backend.accounts ∧ t = s.signsIn device (some account.uid)) ∨
    (∃ device uid, s.currentUser device = some uid ∧ t = s.deleted device uid) ∨
    (∃ device, t = s.signsIn device none) ∨
    (t.backend.accounts = s.backend.accounts ∧ t.currentUser = s.currentUser ∧
      t.issued = s.issued) := by
  cases e with
  | createUser device call result =>
      cases result with
      | error error =>
          cases stepped
          exact .inr (.inr (.inr (.inr ⟨rfl, rfl, rfl⟩)))
      | ok uid =>
          simp only [step] at stepped
          split at stepped
          · cases stepped
          · rename_i new
            cases stepped
            exact .inl ⟨device, call, uid, fun old => new (.inl old), rfl⟩
  | addDocument position stored =>
      simp only [step] at stepped
      split at stepped
      · cases stepped
      · cases stepped
        exact .inr (.inr (.inr (.inr ⟨rfl, rfl, rfl⟩)))
      · obtain ⟨users, -, rfl⟩ := Option.map_eq_some_iff.mp stepped
        exact .inr (.inr (.inr (.inr ⟨rfl, rfl, rfl⟩)))
  | signIn device email password =>
      simp only [step] at stepped
      split at stepped
      · cases stepped
        exact .inr (.inr (.inr (.inr ⟨rfl, rfl, rfl⟩)))
      · rename_i account found
        cases stepped
        exact .inr (.inl ⟨device, account, List.mem_of_find?_eq_some found, rfl⟩)
  | deletesAccount device error =>
      simp only [step] at stepped
      split at stepped
      · rename_i uid signedIn
        cases stepped
        exact .inr (.inr (.inl ⟨device, uid, signedIn, rfl⟩))
      · cases stepped
        exact .inr (.inr (.inr (.inr ⟨rfl, rfl, rfl⟩)))
  | logsOut device throws =>
      cases stepped
      cases throws with
      | false => exact .inr (.inr (.inr (.inl ⟨device, rfl⟩)))
      | true => exact .inr (.inr (.inr (.inr ⟨rfl, rfl, rfl⟩)))
  | savesInfo nameText phoneText emailText reached =>
      cases stepped
      cases reached <;> exact .inr (.inr (.inr (.inr ⟨rfl, rfl, rfl⟩)))
  | picksImage device editedImage uploads reached =>
      cases stepped
      cases reached <;> exact .inr (.inr (.inr (.inr ⟨rfl, rfl, rfl⟩)))

/-- A session of another device is kept, the one of the device is the given one. -/
theorem sessions_update {device : δ} {uid : Option String} {issued : List String}
    (sessions : ∀ device uid, s.currentUser device = some uid → uid ∈ issued)
    (own : ∀ uid' ∈ uid, uid' ∈ issued) :
    ∀ device' uid', Function.update s.currentUser device uid device' = some uid' → uid' ∈ issued := by
  intro device' uid' signedIn
  by_cases same : device' = device
  · subst same
    rw [Function.update_self] at signedIn
    exact own uid' signedIn
  · rw [Function.update_of_ne same] at signedIn
    exact sessions device' uid' signedIn

theorem issued_step {e : ServiceEvent δ} (inv : Issued s) (stepped : step codec s e = some t) :
    Issued t := by
  obtain ⟨accounts, sessions⟩ := inv
  rcases session_cases stepped with ⟨device, call, uid, -, rfl⟩ | ⟨device, account, member, rfl⟩ |
    ⟨device, uid, -, rfl⟩ | ⟨device, rfl⟩ | ⟨sameAccounts, sameSessions, sameIssued⟩
  · constructor
    · intro account member
      rcases List.mem_append.mp member with old | new
      · exact List.mem_append_left _ (accounts account old)
      · cases List.mem_singleton.mp new
        exact List.mem_append_right _ List.mem_cons_self
    · apply sessions_update
      · intro device' uid' signedIn
        exact List.mem_append_left _ (sessions device' uid' signedIn)
      · rintro uid' ⟨⟩
        exact List.mem_append_right _ List.mem_cons_self
  · refine ⟨accounts, sessions_update sessions ?_⟩
    rintro uid' ⟨⟩
    exact accounts account member
  · refine ⟨fun account member => accounts account (List.mem_filter.mp member).1,
      sessions_update sessions ?_⟩
    rintro uid' ⟨⟩
  · refine ⟨accounts, sessions_update sessions ?_⟩
    rintro uid' ⟨⟩
  · constructor
    · rw [sameAccounts, sameIssued]
      exact accounts
    · rw [sameSessions, sameIssued]
      exact sessions

/-- A uid is not issued twice, so a deleted account stays deleted. -/
theorem gone_step {e : ServiceEvent δ} {uid : String} (gone : Gone uid s)
    (stepped : step codec s e = some t) : Gone uid t := by
  obtain ⟨issued, absent⟩ := gone
  rcases session_cases stepped with ⟨device, call, uid', new, rfl⟩ | ⟨device, account, -, rfl⟩ |
    ⟨device, uid', -, rfl⟩ | ⟨device, rfl⟩ | ⟨sameAccounts, -, sameIssued⟩
  · refine ⟨List.mem_append_left _ issued, fun account member => ?_⟩
    rcases List.mem_append.mp member with old | created
    · exact absent account old
    · cases List.mem_singleton.mp created
      rintro rfl
      exact new issued
  · exact ⟨issued, absent⟩
  · exact ⟨issued, fun account member => absent account (List.mem_filter.mp member).1⟩
  · exact ⟨issued, absent⟩
  · exact ⟨sameIssued ▸ issued, sameAccounts ▸ absent⟩

/-- The document with the id has the profile, or at least its uid and password if it is
the fixed one. -/
def Keeps (id : String) (profile : Profile) (s : Service δ) : Prop :=
  ∃ d ∈ s.documents, d.id = id ∧ ∃ kept, d.profile = some kept ∧ kept.uid = profile.uid ∧
    kept.password = profile.password ∧ (id ≠ savedDocumentID → kept = profile)

/-- No request removes a document, and a save changes three texts of the fixed one. -/
theorem keeps_step {e : ServiceEvent δ} {id : String} {profile : Profile}
    (keeps : Keeps id profile s) (stepped : step codec s e = some t) : Keeps id profile t := by
  obtain ⟨d, member, rfl, kept, complete, sameUid, samePassword, same⟩ := keeps
  rcases step_cases stepped with ⟨-, documents, -, -, -⟩ | ⟨device, call, uid, rfl, -, rfl⟩ |
    ⟨_, _, _, _, _, -, -, -, documents, -, -, -⟩ | ⟨name, phone, email, -, documents, -, -, -⟩ |
    ⟨uid, _, fields, -, avatar, documents, -, -, -⟩
  · exact ⟨d, documents ▸ member, rfl, kept, complete, sameUid, samePassword, same⟩
  · exact ⟨d, member, rfl, kept, complete, sameUid, samePassword, same⟩
  · exact ⟨d, documents.symm.subset (List.mem_cons_of_mem _ member), rfl, kept, complete, sameUid,
      samePassword, same⟩
  · refine ⟨_, documents ▸ List.mem_map_of_mem member, Document.saved_id _ d, _,
      profile_saved_info complete name phone email, ?_⟩
    split
    · rename_i isSaved
      exact ⟨sameUid, samePassword, fun other => absurd isSaved other⟩
    · exact ⟨sameUid, samePassword, same⟩
  · exact ⟨_, documents ▸ List.mem_map_of_mem member, Document.saved_id _ d, kept,
      (profile_saved_avatar avatar d).trans complete, sameUid, samePassword, same⟩

omit [DecidableEq δ] in
theorem issued_initial : Issued (initial : Service δ) :=
  ⟨by simp [initial], by simp [initial]⟩

/-- **A deleted account leaves its profile behind.** In every run of the services, from
the moment a device deletes the account it is signed in with: no account has that uid ever
again, while the loaders keep finding a profile under it if they found one, with the same
password, and the very same profile unless its document has the fixed id. -/
theorem deleted_account_keeps_profile (codec : ImageCodec) (pre post : List (ServiceEvent δ))
    (device : δ) (uid : String) (s t : Service δ) (before : run (step codec) initial pre = some s)
    (signedIn : s.currentUser device = some uid)
    (after : run (step codec) s (.deletesAccount device false :: post) = some t) :
    (∀ account ∈ t.backend.accounts, account.uid ≠ uid) ∧
      ∀ profile ∈ profiles (some uid) s.documents, ∃ kept,
        profiles (some uid) t.documents = [kept] ∧ kept.password = profile.password ∧
        ((∀ d ∈ s.documents, d.id = savedDocumentID → d.string "uid" ≠ some uid) →
          kept = profile) := by
  have whole : run (step codec) initial (pre ++ .deletesAccount device false :: post) = some t := by
    rw [run_append, before]
    exact after
  have repBefore := represents_run before
  have repAfter := represents_run whole
  constructor
  · obtain ⟨m, deletes, tail⟩ := run_cons_eq_some.mp after
    simp only [step, signedIn] at deletes
    cases deletes
    have issued : Issued s := invariant_run (fun _ _ _ => issued_step) issued_initial before
    have gone : Gone uid (s.deleted device uid) := by
      refine ⟨issued.sessions device uid signedIn, fun account member => ?_⟩
      simpa using (List.mem_filter.mp member).2
    exact (invariant_run (fun _ _ _ => gone_step) gone tail).absent
  · intro profile found
    rw [profiles_of_represents repBefore] at found
    obtain ⟨own, d, member, complete⟩ := repBefore.every uid profile (Option.mem_toList.mp found)
    have keeps : Keeps d.id profile s := ⟨d, member, rfl, profile, complete, rfl, rfl, fun _ => rfl⟩
    obtain ⟨d', member', -, kept, complete', sameUid, samePassword, same⟩ :=
      invariant_run (fun _ _ _ => keeps_step) keeps after
    obtain ⟨found', complete'', registered⟩ := repAfter.each d' member'
    cases complete'.symm.trans complete''
    rw [sameUid, own] at registered
    refine ⟨kept, ?_, samePassword, fun notFixed => same fun isSaved => ?_⟩
    · rw [profiles_of_represents repAfter, registered]
      rfl
    · refine notFixed d member isSaved ?_
      rw [Document.profile_uid complete, own]

/-- Alice deletes her account and Carol signs up with the email of Alice. -/
def aliceDeletes : List (ServiceEvent Bool) :=
  [.createUser true ⟨"a@x.vn", "Secret56", "Carol", "0900000003"⟩ (.ok "carol"),
    .addDocument 0 (some ("third", 0))]

/-- The profile of Alice outlives her account. -/
theorem deleted_account_keeps_alice :
    ∃ s t, run (step .raw) initial aliceThenBob = some s ∧ s.currentUser true = some "alice" ∧
      run (step .raw) s (.deletesAccount true false :: aliceDeletes) = some t ∧
      (∀ account ∈ t.backend.accounts, account.uid ≠ "alice") ∧
      ∃ kept, profiles (some "alice") t.documents = [kept] ∧ kept.password = "Secret12" := by
  obtain ⟨s, before⟩ : ∃ s, run (step .raw) initial aliceThenBob = some s := ⟨_, rfl⟩
  obtain ⟨t, after⟩ : ∃ t, run (step .raw) s (.deletesAccount true false :: aliceDeletes) = some t := by
    cases before
    exact ⟨_, rfl⟩
  have signedIn : s.currentUser true = some "alice" := by
    cases before
    rfl
  have found : CreateUser.profile ⟨"a@x.vn", "Secret12", "Alice", "0900000001"⟩ "alice" ∈
      profiles (some "alice") s.documents := by
    cases before
    exact List.mem_cons_self
  obtain ⟨gone, keeps⟩ := deleted_account_keeps_profile .raw aliceThenBob aliceDeletes true "alice" s
    t before signedIn after
  obtain ⟨kept, only, password, -⟩ := keeps _ found
  exact ⟨s, t, before, signedIn, after, gone, kept, only, password⟩

/-! ### The next login -/

/-- A load of the profile of a user from the stores: every download the loop starts is
answered by `getData`. -/
def load (s : Service δ) (uid : String) (previous : User) : ProfileLoad where
  users := s.backend.users
  uid := uid
  previous := previous
  error := none
  downloads := (profiles (some uid) s.documents).map fun profile =>
    (profile, getData (UserDetail.avatarPath profile.uid) s.files)
  complete := by
    rw [List.map_map]
    exact List.Perm.of_eq (List.map_id _)

/-- **What a login and a refresh store.** After every run of the services, with the
registry `r` of the run: `onCheckUserIsLogin` leaves the registered profile with the last
avatar uploaded under the uid, or without one if that is missing, over the limit or no
image; without a profile it leaves the user stored before. `onGetCurrentUserLogin` of the
profile screen does the same when there is an avatar within the limit, and otherwise leaves
the user stored before, whatever has been saved. -/
theorem loads_registered_user (codec : ImageCodec) (es : List (ServiceEvent δ)) (t : Service δ)
    (reached : run (step codec) initial es = some t) (uid : String) (previous : User) :
    (t.load uid previous).onCheckUserIsLogin codec =
        (((registry codec es).profile uid).map fun profile => profile.user
          (((uploadsOf codec uid es).getLast?.filter fun data => data.length ≤ maxSize).bind
            codec.decode)).getD previous ∧
      (t.load uid previous).onGetCurrentUserLogin codec =
        ((((registry codec es).profile uid).bind fun profile =>
          ((uploadsOf codec uid es).getLast?.filter fun data => data.length ≤ maxSize).map
            fun data => profile.user (codec.decode data))).getD previous := by
  have rep := represents_run reached
  have found := profiles_of_represents rep uid
  have brought : getData (UserDetail.avatarPath uid) t.files =
      (uploadsOf codec uid es).getLast?.filter fun data => data.length ≤ maxSize := by
    rw [getData_of_represents rep, avatar_registry]
  rw [ProfileLoad.onCheckUserIsLogin_eq, ProfileLoad.onGetCurrentUserLogin_eq, ← brought]
  simp only [ProfileLoad.brought, load, found]
  cases has : (registry codec es).profile uid with
  | none => exact ⟨rfl, rfl⟩
  | some profile =>
      have own := (rep.every uid profile has).1
      cases data : getData (UserDetail.avatarPath uid) t.files with
      | none => simp [own, data, LoginScreen.downloaded]
      | some data' => simp [own, data, LoginScreen.downloaded]

/-- Bob has no avatar: a login stores his overwritten profile, a refresh leaves the user
that was stored. -/
theorem loads_registered_user_bob :
    ∃ t, run (step .raw) initial aliceThenBob = some t ∧
      (t.load "bob" {}).onCheckUserIsLogin .raw =
        Profile.user ⟨"Alice B", "0911111111", false, "Secret34", "bob", "a@x.vn"⟩ none ∧
      (t.load "bob" {}).onGetCurrentUserLogin .raw = {} := by
  obtain ⟨t, reached⟩ : ∃ t, run (step .raw) initial aliceThenBob = some t := ⟨_, rfl⟩
  obtain ⟨login, refresh⟩ := loads_registered_user .raw aliceThenBob t reached "bob" {}
  exact ⟨t, reached, login.trans rfl, refresh.trans rfl⟩

end Service

end PetApp
