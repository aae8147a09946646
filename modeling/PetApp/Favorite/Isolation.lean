import PetApp.Account.Profile
import PetApp.Favorite.DetailItem
import PetApp.Favorite.FavoriteVC

/-!
Several users on one device: sign-ins, sign-outs, heart taps and unsave taps.

`insertFavorite` writes the uid of the signed-in user on every row, but the
fetch of `getFavoriteOfCurrentUser` names no user, and sign-out leaves both the
store and `UserManager` as they are. `Isolated` says what isolation would mean
along a run: the list returned in every state is the list of the signed-in
user's rows, and it is the same, with the same heart colours, whenever the same
user is signed in again and only other users tapped in between.

* `step_cases` — what one event can do to the store and to the signed-in user.
* `always_ownFavorites_iff` — every returned list is the user's own exactly when
  nobody signs in while a row of somebody else is stored.
* `isolated_iff` — and this is also when nobody's taps reach another user.
-/

namespace PetApp

open Runs

/-- The shared device: the store, Firebase's and the app's idea of the user, and
the open screens. -/
structure Device where
  context : Context
  currentUser : Option String
  user : User
  details : List DetailItem
  favoriteVCs : List FavoriteVC

inductive DeviceEvent where
  | signIn (profile : Profile) (image : Option UIImage)
  | signOut
  | openDetail (animal : Animal)
  | heartTap (screen : Nat)
  | openFavorites
  | unsaveTap (screen position : Nat)

/-- The events that change favourites. -/
def DeviceEvent.isTap : DeviceEvent → Bool
  | .heartTap _ | .unsaveTap _ _ => true
  | _ => false

namespace Device

/-- A freshly installed app. -/
def installed : Device := ⟨.empty, none, {}, [], []⟩

section Machine

variable (codec : ImageCodec) (deleted : Favorite → Option String)

/-- A heart tap on an open detail screen, followed by its refresh. -/
def heartTap (s : Device) (screen : Nat) : Option Device := do
  let detail ← s.details[screen]?
  let animal ← detail.animal
  let after := detail.heartButtonClousure codec deleted animal s.user.uid true s.context
  return { s with
    context := after.1
    details := s.details.set screen (after.2.refresh after.1) }

/-- A tap on the unsave button of a displayed cell of an open favourites screen. -/
def unsaveTap (s : Device) (screen position : Nat) : Option Device := do
  let vc ← s.favoriteVCs[screen]?
  let cell ← vc.cells[position]?
  let after ← vc.unsaveFavoriteClousure cell.indexPath true s.context
  return { s with
    context := after.1
    favoriteVCs := s.favoriteVCs.set screen after.2 }

/-- One event. Taps are made by a user, so they need one to be signed in. -/
def step (s : Device) : DeviceEvent → Option Device
  | .signIn profile image =>
      some { s with currentUser := some profile.uid, user := profile.user image }
  -- `Auth.signOut()` is all that `AccountViewController` does
  | .signOut => some { s with currentUser := none }
  | .openDetail animal =>
      some { s with details := s.details ++ [DetailItem.opened deleted s.context animal] }
  | .heartTap screen => if s.user.uid.isSome then heartTap codec deleted s screen else none
  | .openFavorites =>
      some { s with favoriteVCs := s.favoriteVCs ++ [FavoriteVC.opened s.context] }
  | .unsaveTap screen position => if s.user.uid.isSome then unsaveTap s screen position else none

/-- The stored rows with the uid of the signed-in user. -/
def ownFavorites (s : Device) : List Favorite :=
  s.context.objects.filter fun favorite => favorite.uid == s.user.uid

/-- The heart colour shown when the detail screen of the animal is opened. -/
def heartShown (s : Device) (animal : Animal) : HeartColor :=
  (DetailItem.opened deleted s.context animal).heartButton

/-- The user with this uid makes no tap during the events. -/
def OthersTap (uid : Option String) : Device → List DeviceEvent → Prop :=
  Meets (step codec deleted) fun s event => event.isTap = true → s.user.uid ≠ uid

/-- Isolation along a run: every returned list is the signed-in user's own, and
between two moments of one user the taps of others change neither the list nor a
heart colour. -/
def Isolated (s : Device) (events : List DeviceEvent) : Prop :=
  Always (step codec deleted)
      (fun t => getFavoriteOfCurrentUser t.context = t.ownFavorites) s events ∧
    ∀ before between after t t', events = before ++ between ++ after →
      run (step codec deleted) s before = some t →
      run (step codec deleted) t between = some t' →
      t'.user.uid = t.user.uid → OthersTap codec deleted t.user.uid t between →
      getFavoriteOfCurrentUser t'.context = getFavoriteOfCurrentUser t.context ∧
        ∀ animal, t'.heartShown deleted animal = t.heartShown deleted animal

end Machine

/-- Every stored row carries the uid of the signed-in user. -/
def Owned (s : Device) : Prop := ∀ favorite ∈ s.context.objects, favorite.uid = s.user.uid

/-- A user signs in only while no row of another user is stored. -/
def SignsInAlone (s : Device) : DeviceEvent → Prop
  | .signIn profile _ => ∀ favorite ∈ s.context.objects, favorite.uid = some profile.uid
  | _ => True

section Facts

variable {codec : ImageCodec} {deleted : Favorite → Option String} {s t : Device}
  {event : DeviceEvent}

theorem ownFavorites_iff :
    getFavoriteOfCurrentUser s.context = s.ownFavorites ↔ Owned s := by
  rw [getFavoriteOfCurrentUser_eq, ownFavorites, eq_comm, List.filter_eq_self]
  simp [Owned]

/-- What one event can do: sign a user in, leave store and user alone, or, as a
tap of the signed-in user, add a row of that user or delete a row. -/
theorem step_cases (stepped : step codec deleted s event = some t) :
    (∃ profile image, event = .signIn profile image ∧ t.context = s.context ∧
        t.user = profile.user image) ∨
      (event.isTap = false ∧ SignsInAlone s event ∧ t.context = s.context ∧ t.user = s.user) ∨
      (event.isTap = true ∧ t.user = s.user ∧
        ((∃ favorite, favorite.uid = s.user.uid ∧
            t.context.objects = s.context.objects ++ [favorite]) ∨
          ∃ favorite : Favorite, t.context.objects =
            s.context.objects.filter fun o => o.objectID ≠ favorite.objectID)) := by
  cases event with
  | signIn profile image =>
      cases stepped
      exact .inl ⟨profile, image, rfl, rfl, rfl⟩
  | signOut =>
      cases stepped
      exact .inr (.inl ⟨rfl, trivial, rfl, rfl⟩)
  | openDetail animal =>
      cases stepped
      exact .inr (.inl ⟨rfl, trivial, rfl, rfl⟩)
  | openFavorites =>
      cases stepped
      exact .inr (.inl ⟨rfl, trivial, rfl, rfl⟩)
  | heartTap screen =>
      simp only [step, heartTap, Option.ite_none_right_eq_some, Option.bind_eq_bind,
        Option.bind_eq_some_iff, Option.pure_def, Option.some.injEq] at stepped
      obtain ⟨signedIn, detail, -, animal, -, rfl⟩ := stepped
      obtain ⟨uid, known⟩ := Option.isSome_iff_exists.mp signedIn
      refine .inr (.inr ⟨rfl, rfl, ?_⟩)
      simp only [DetailItem.heartButtonClousure_eq]
      split
      · exact .inl ⟨_, by simp [known, favoriteOf], objects_insertFavorite ..⟩
      · exact .inr ⟨_, objects_deleteFavorite ..⟩
  | unsaveTap screen position =>
      simp only [step, unsaveTap, Option.ite_none_right_eq_some, Option.bind_eq_bind,
        Option.bind_eq_some_iff, Option.pure_def, Option.some.injEq,
        FavoriteVC.unsaveFavoriteClousure, Option.map_eq_some_iff] at stepped
      obtain ⟨-, vc, -, cell, -, after, ⟨favorite, -, rfl⟩, rfl⟩ := stepped
      exact .inr (.inr ⟨rfl, rfl, .inr ⟨favorite, objects_deleteFavorite ..⟩⟩)

theorem signsInAlone_of_tap (tap : event.isTap = true) : SignsInAlone s event := by
  cases event with
  | signIn _ _ => cases tap
  | _ => trivial

/-- From a state in which every row is the user's, an event keeps it so exactly
if it does not sign in a user over the rows of another. -/
theorem owned_step_iff (owned : Owned s) (stepped : step codec deleted s event = some t) :
    Owned t ↔ SignsInAlone s event := by
  rcases step_cases stepped with ⟨profile, image, rfl, context, user⟩ | ⟨-, alone, context, user⟩ |
    ⟨tap, user, added | removed⟩
  · simp [Owned, SignsInAlone, context, user]
  · refine iff_of_true ?_ alone
    rw [Owned, context, user]
    exact owned
  · obtain ⟨favorite, uid, objects⟩ := added
    refine iff_of_true ?_ (signsInAlone_of_tap tap)
    intro o member
    rw [objects, List.mem_append, List.mem_singleton] at member
    rw [user]
    rcases member with member | rfl
    · exact owned o member
    · exact uid
  · obtain ⟨favorite, objects⟩ := removed
    refine iff_of_true ?_ (signsInAlone_of_tap tap)
    intro o member
    rw [objects] at member
    rw [user]
    exact owned o (List.mem_filter.mp member).1

theorem signsInAlone_of_refused (refused : step codec deleted s event = none) :
    SignsInAlone s event := by
  cases event with
  | signIn _ _ => cases refused
  | _ => trivial

/-- Every returned list is the signed-in user's own exactly when this holds at
the start and nobody signs in over the rows of another. -/
theorem always_ownFavorites_iff (s : Device) (events : List DeviceEvent) :
    Always (step codec deleted)
        (fun t => getFavoriteOfCurrentUser t.context = t.ownFavorites) s events ↔
      Owned s ∧ Meets (step codec deleted) SignsInAlone s events := by
  simp only [ownFavorites_iff]
  have exact : Owned s → (Always (step codec deleted) Owned s events ↔
      Meets (step codec deleted) SignsInAlone s events) := by
    intro owned
    apply always_iff_meets_of_steps
    · intro s event t owned stepped
      exact owned_step_iff owned stepped
    · intro s event refused
      exact signsInAlone_of_refused refused
    · exact owned
  constructor
  · intro always
    exact ⟨always.start, (exact always.start).mp always⟩
  · rintro ⟨owned, meets⟩
    exact (exact owned).mpr meets

/-- The rows of one user. -/
def rowsOf (uid : Option String) (s : Device) : List Favorite :=
  s.context.objects.filter fun favorite => favorite.uid == uid

theorem rowsOf_eq_objects (owned : Owned s) : rowsOf s.user.uid s = s.context.objects :=
  List.filter_eq_self.mpr fun favorite member => by simp [owned favorite member]

theorem rowsOf_eq_nil (owned : Owned s) {uid : Option String} (other : s.user.uid ≠ uid) :
    rowsOf uid s = [] :=
  List.filter_eq_nil_iff.mpr fun favorite member => by simp [owned favorite member, other]

/-- While every row is the signed-in user's, the taps of others leave the rows of
a user alone. -/
theorem rowsOf_step {uid : Option String} (owned : Owned s) (owned' : Owned t)
    (stepped : step codec deleted s event = some t)
    (others : event.isTap = true → s.user.uid ≠ uid) : rowsOf uid t = rowsOf uid s := by
  rcases step_cases stepped with ⟨profile, image, -, context, -⟩ | ⟨-, -, context, -⟩ |
    ⟨tap, user, -⟩
  · rw [rowsOf, rowsOf, context]
  · rw [rowsOf, rowsOf, context]
  · rw [rowsOf_eq_nil owned (others tap), rowsOf_eq_nil owned' (user ▸ others tap)]

theorem rowsOf_run {uid : Option String} {events : List DeviceEvent}
    (always : Always (step codec deleted) Owned s events)
    (others : OthersTap codec deleted uid s events)
    (reached : run (step codec deleted) s events = some t) : rowsOf uid t = rowsOf uid s := by
  induction events generalizing s with
  | nil =>
      cases reached
      rfl
  | cons event events ih =>
      obtain ⟨m, stepped, tail⟩ := run_cons_eq_some.mp reached
      obtain ⟨owned, later⟩ := always
      rw [ih (later m stepped) (others.2 m stepped) tail,
        rowsOf_step owned (later m stepped).start stepped others.1]

/-- The colour shown depends on the stored rows of the species only. -/
theorem heartShown_congr (same : t.context.objects = s.context.objects) (animal : Animal) :
    t.heartShown deleted animal = s.heartShown deleted animal := by
  have shown : ∀ u : Device, u.heartShown deleted animal =
      if u.context.speciesRows animal = [] then .white else .red := by
    intro u
    have objects := DetailItem.animalObject_of_fresh deleted animal
      (rfl : (DetailItem.refresh u.context ⟨some animal, [], .white⟩).favorites = u.context.objects)
    simp only [heartShown, DetailItem.opened, DetailItem.initNameCell, DetailItem.refresh]
    rw [← objects]
    by_cases none : DetailItem.isInclude deleted u.context animal
        (DetailItem.refresh u.context ⟨some animal, [], .white⟩) = false
    · rw [if_pos (DetailItem.isInclude_eq_false_iff.mp none)]
      exact if_neg (by simpa [DetailItem.refresh] using none)
    · rw [if_neg fun empty => none (DetailItem.isInclude_eq_false_iff.mpr empty)]
      exact if_pos (by simpa [DetailItem.refresh] using none)
  rw [shown, shown, Context.speciesRows, Context.speciesRows, same]

end Facts

/-- **When favourites are isolated.** Along a run every returned list is the
signed-in user's own, and nobody's taps change the list or a heart colour of
another user, exactly when the rows stored at the start are the signed-in user's
and nobody signs in while a row of another user is stored. -/
theorem isolated_iff (codec : ImageCodec) (deleted : Favorite → Option String) (s : Device)
    (events : List DeviceEvent) :
    Isolated codec deleted s events ↔
      Owned s ∧ Meets (step codec deleted) SignsInAlone s events := by
  rw [Isolated, always_ownFavorites_iff, and_iff_left_iff_imp]
  rintro own before between after t t' rfl reached reached' same others
  -- every state up to `t'` is owned
  have always : Always (step codec deleted) Owned s (before ++ between ++ after) := by
    have := (always_ownFavorites_iff s _).mpr own
    simpa only [ownFavorites_iff] using this
  have owned : Always (step codec deleted) Owned t between := by
    refine always_iff_forall_run.mpr fun pre post m split reachedM => ?_
    refine always_iff_forall_run.mp always (before ++ pre) (post ++ after) m ?_ ?_
    · simp [split]
    · rw [run_append, reached]
      exact reachedM
  have objects : t'.context.objects = t.context.objects := by
    rw [← rowsOf_eq_objects (owned.last reached'), ← rowsOf_eq_objects owned.start, same]
    exact rowsOf_run owned others reached'
  exact ⟨objects, heartShown_congr objects⟩

/-- Bob signs in; then Alice signs in and taps the heart of an animal; then Bob
signs in again. -/
def sharedDevice : List DeviceEvent :=
  [.signIn bob none, .signOut, .signIn alice none, .openDetail .husky, .heartTap 0, .signOut,
    .signIn bob none]

/-- Alice's tap is in the list returned to Bob and colours his heart. -/
theorem alice_heart_tap_shown_to_bob :
    ¬ Isolated .raw (fun _ => none) installed sharedDevice ∧
      ((run (step .raw fun _ => none) installed sharedDevice).map fun t =>
          (t.user.uid, (getFavoriteOfCurrentUser t.context).map Favorite.uid,
            t.heartShown (fun _ => none) .husky)) =
        some (some "bob", [some "alice"], .red) := by
  refine ⟨?_, by decide⟩
  rintro ⟨own, -⟩
  have last := own.last (t := ((run (step .raw fun _ => none) installed sharedDevice).get
    (by decide))) (by simp)
  revert last
  decide

end Device

end PetApp
