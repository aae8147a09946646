import Mathlib.Data.List.InsertIdx
import Mathlib.Data.List.Perm.Basic
import Mathlib.Tactic.Tauto
import PetApp.Account.Login

/-!
The two profile loaders: `onCheckUserIsLogin` of `LoginViewController.swift` and
`onGetCurrentUserLogin` of `UserDetailVC.swift`.

Both search the `users` documents with one loop, start a download of the avatar
for each complete document and store a user from the callback of the download.
They part in that callback: on an error the first stores the profile without an
avatar, the second stores nothing.

A `ProfileLoad` holds what both read: the collection, the signed-in uid, the user
stored before, the outcome of the query and the downloads in the order in which
they complete, one for each that the loop starts.

* `onCheckUserIsLogin_eq`, `onGetCurrentUserLogin_eq` — the user each leaves: that
  of its last block, or the previous one.
* `run_downloads` — the user of the first is the one the login screen stores when
  its callbacks are delivered in that order.
* `profile_loaders_agree_iff` — the two agree exactly when the last download to
  complete brings data, or the failed one would have changed nothing.
-/

namespace PetApp

open Runs

/-- The profiles whose download is started, none when the query fails. -/
def startedDownloads (id : Option String) : Fetched → List Profile
  | .error _ => []
  | .ok documents => profiles id documents

/-- What a profile load reads: the downloads are listed in the order of their
completion, `none` for one that fails. -/
structure ProfileLoad where
  users : Collection
  uid : String
  previous : User
  error : Option String
  downloads : List (Profile × Option Data)
  complete : (downloads.map Prod.fst).Perm (startedDownloads (some uid) (users.getDocuments error))

/-- The callback of `getData` in `UserDetailVC`: the user its block stores, if it
queues one. -/
def UserDetail.downloaded (codec : ImageCodec) (profile : Profile) : Option Data → Option User
  | none => none
  | some data => some (profile.user (codec.decode data))

namespace ProfileLoad

variable (codec : ImageCodec) (load : ProfileLoad)

/-- `UserManager.shared.user` once the queued blocks have run, in their order. -/
def setUserInfos (previous : User) (users : List User) : User :=
  users.foldl (fun _ user => user) previous

/-- `LoginViewController.onCheckUserIsLogin`, run to completion. -/
def onCheckUserIsLogin : User :=
  setUserInfos load.previous (load.downloads.map fun (profile, data) =>
    LoginScreen.downloaded codec profile data)

/-- `UserDetailVC.onGetCurrentUserLogin`, run to completion. -/
def onGetCurrentUserLogin : User :=
  setUserInfos load.previous (load.downloads.filterMap fun (profile, data) =>
    UserDetail.downloaded codec profile data)

/-- The downloads that bring data. -/
def brought : List (Profile × Data) :=
  load.downloads.filterMap fun (profile, data) => data.map fun data => (profile, data)

/-- When the last download fails, the profile without an avatar is what was stored
already: by the last download that brought data, or before the load. -/
def FailureChangesNothing : Prop :=
  ∀ profile, load.downloads.getLast? = some (profile, none) →
    match load.brought.getLast? with
    | none => load.previous = profile.user none
    | some (last, data) => last = profile ∧ codec.decode data = none

section Facts

variable {codec : ImageCodec} {load : ProfileLoad}

theorem setUserInfos_eq (previous : User) (users : List User) :
    setUserInfos previous users = users.getLast?.getD previous := by
  cases users using List.reverseRecOn with
  | nil => rfl
  | append_singleton users user => simp [setUserInfos]

/-- The first loader leaves the user of the last download. -/
theorem onCheckUserIsLogin_eq :
    load.onCheckUserIsLogin codec =
      (load.downloads.getLast?.map fun (profile, data) =>
        LoginScreen.downloaded codec profile data).getD load.previous := by
  rw [onCheckUserIsLogin, setUserInfos_eq, List.getLast?_map]

/-- The second leaves the user of the last download that brings data. -/
theorem onGetCurrentUserLogin_eq :
    load.onGetCurrentUserLogin codec =
      (load.brought.getLast?.map fun (profile, data) =>
        profile.user (codec.decode data)).getD load.previous := by
  have stored : (load.downloads.filterMap fun (profile, data) =>
      UserDetail.downloaded codec profile data) =
        load.brought.map fun (profile, data) => profile.user (codec.decode data) := by
    rw [brought, List.map_filterMap]
    refine List.filterMap_congr fun (profile, data) _ => ?_
    cases data <;> rfl
  rw [onGetCurrentUserLogin, setUserInfos_eq, stored, List.getLast?_map]

/-- A profile and an avatar can be read off their user. -/
theorem user_inj {profile profile' : Profile} {image image' : Option UIImage} :
    profile.user image = profile'.user image' ↔ profile = profile' ∧ image = image' := by
  constructor
  · intro same
    obtain ⟨_, _, _, _, _, _⟩ := profile
    obtain ⟨_, _, _, _, _, _⟩ := profile'
    simp only [Profile.user, User.mk.injEq, Option.some.injEq] at same
    simp only [Profile.mk.injEq]
    tauto
  · rintro ⟨rfl, rfl⟩
    rfl

/-- A last download that brings data is also the last to bring data. -/
theorem getLast?_brought {profile : Profile} {data : Data}
    (last : load.downloads.getLast? = some (profile, some data)) :
    load.brought.getLast? = some (profile, data) := by
  obtain ⟨before, downloads⟩ := List.getLast?_eq_some_iff.mp last
  rw [brought, downloads, List.filterMap_append]
  simp

end Facts

end ProfileLoad

/-- The login screen that waits for the downloads stores the users of their
callbacks, delivered in any order and each before its block. -/
theorem LoginScreen.run_downloads (codec : ImageCodec) {s : LoginScreen} {signIns : Nat}
    {waiting : List Profile}
    (callbacks : s.callbacks = waiting.map fun profile => ⟨signIns, .getData profile⟩)
    {downloads : List (Profile × Option Data)}
    (complete : (downloads.map Prod.fst).Perm waiting) :
    ∃ events t, run (step codec) s events = some t ∧ t.callbacks = [] ∧
      t.user = ProfileLoad.setUserInfos s.user (downloads.map fun (profile, data) =>
        downloaded codec profile data) := by
  induction downloads generalizing s waiting with
  | nil =>
      obtain rfl := List.Perm.nil_eq complete
      exact ⟨[], s, rfl, callbacks, rfl⟩
  | cons download downloads ih =>
      obtain ⟨profile, data⟩ := download
      obtain ⟨position, found⟩ : ∃ position, waiting[position]? = some profile :=
        List.mem_iff_getElem?.mp (complete.subset List.mem_cons_self)
      obtain ⟨inRange, get⟩ := List.getElem?_eq_some_iff.mp found
      -- the callback of this download, then its block at the end of the list
      let left := waiting.eraseIdx position
      let block : Callback := ⟨signIns, .setUserInfo (downloaded codec profile data)⟩
      let answered := gotData codec signIns profile data
        { s with callbacks := s.callbacks.eraseIdx position }
      have taken : s.callbacks[position]? = some ⟨signIns, .getData profile⟩ := by
        simp [callbacks, found]
      have queued : answered.callbacks =
          (left.map fun profile => (⟨signIns, .getData profile⟩ : Callback)) ++ [block] := by
        simp [answered, gotData, callbacks, left, List.eraseIdx_map, block]
      have first : step codec s (.callback position (.data data)) = some answered := by
        simp [step, taken, deliver, answered]
      let next := setUserInfo signIns (downloaded codec profile data)
        { answered with callbacks := left.map fun profile => ⟨signIns, .getData profile⟩ }
      have second : step codec answered (.callback left.length .main) = some next := by
        simp [step, queued, deliver, block, next, List.eraseIdx_append_of_length_le]
      have rest : (downloads.map Prod.fst).Perm left := by
        have whole : waiting.Perm (profile :: left) := by
          rw [← get]
          exact (List.getElem_cons_eraseIdx_perm inRange).symm
        exact (complete.trans whole).cons_inv
      have waits : next.callbacks = left.map fun profile => ⟨signIns, .getData profile⟩ := rfl
      obtain ⟨events, t, reached, ended, user⟩ := ih waits rest
      refine ⟨.callback position (.data data) :: .callback left.length .main :: events, t, ?_, ended,
        user⟩
      exact run_cons_eq_some.mpr ⟨answered, first, run_cons_eq_some.mpr ⟨_, second, reached⟩⟩

/-- **When the two profile loaders agree.** For every collection, every signed-in
uid, every user stored before and every outcome of the query and of the downloads,
in every order of their completion: both loaders leave the same user exactly when
the last download to complete brings data, or is the failure of one whose profile,
without an avatar, was stored already. -/
theorem profile_loaders_agree_iff (codec : ImageCodec) (load : ProfileLoad) :
    load.onGetCurrentUserLogin codec = load.onCheckUserIsLogin codec ↔
      load.FailureChangesNothing codec := by
  rw [ProfileLoad.onGetCurrentUserLogin_eq, ProfileLoad.onCheckUserIsLogin_eq]
  unfold ProfileLoad.FailureChangesNothing
  cases last : load.downloads.getLast? with
  | none =>
      have nothing : load.brought = [] := by
        rw [ProfileLoad.brought, List.getLast?_eq_none_iff.mp last]
        rfl
      simp [nothing]
  | some download =>
      obtain ⟨profile, data⟩ := download
      cases data with
      | some data =>
          rw [ProfileLoad.getLast?_brought last]
          simp [LoginScreen.downloaded]
      | none =>
          -- the first loader stores the profile without an avatar
          have failed : LoginScreen.downloaded codec profile none = profile.user none := rfl
          simp only [Option.map_some, Option.getD_some, failed, Option.some.injEq, Prod.mk.injEq,
            and_true, forall_eq']
          cases load.brought.getLast? with
          | none => rfl
          | some brought => exact ProfileLoad.user_inj

/-- Alice under the name she had before. -/
def formerAlice : Profile := { alice with fullName := "Al" }

/-- A load for Alice, who has changed her name, with the given outcome of the
download of her avatar. -/
def aliceLoad (data : Option Data) : ProfileLoad where
  users := ⟨[alice.document "a"], List.nodup_singleton _⟩
  uid := "alice"
  previous := formerAlice.user none
  error := none
  downloads := [(alice, data)]
  complete := List.Perm.refl _

/-- Alice has never uploaded an avatar: on the failed download the profile screen
keeps her former name and the login screen stores the new one. -/
theorem profile_loaders_differ_without_avatar :
    (aliceLoad none).onGetCurrentUserLogin .raw = formerAlice.user none ∧
      (aliceLoad none).onCheckUserIsLogin .raw = alice.user none ∧
      (aliceLoad none).onGetCurrentUserLogin .raw ≠ (aliceLoad none).onCheckUserIsLogin .raw := by
  refine ⟨rfl, rfl, ?_⟩
  decide

end PetApp
