import PetApp.Account.SignUp

/-!
A sign-up against its two stores: `signUp` of `SignUpViewController.swift` with
the accounts of Firebase Auth and the collection `users`.

The callback of `createUser` adds the profile to `users` and presents the success
screen at once. The callback of `addDocument` only prints when the profile is not
stored, and the account is not deleted again.

`FreshUid` and `Placement` carry what the services promise: the uid of a new
account and the id of a new document are not in use.

* `filter_uid_add` — a profile that is stored is the only one with its uid.
* `orphan_of_failed` — when the profile is not stored the new account has none.
* `sign_up_all_or_nothing_iff` — a sign-up leaves an account with its profile or
  nothing, and shows success in the first case only, exactly when `createUser`
  fails or `addDocument` succeeds.
-/

namespace PetApp

/-- An account of Firebase Auth. -/
structure Account where
  uid : String
  email : String
  password : String
deriving DecidableEq

/-- The two stores a sign-up writes to. -/
structure Backend where
  accounts : List Account
  users : Collection

/-- A uid that neither an account nor a profile has. -/
structure FreshUid (backend : Backend) where
  uid : String
  newAccount : ∀ account ∈ backend.accounts, account.uid ≠ uid
  newDocument : ∀ document ∈ backend.users.documents, document.string "uid" ≠ some uid

/-- Where `addDocument` stores a document: under a new id, anywhere in query
order. -/
structure Placement (c : Collection) where
  id : String
  position : Nat
  fresh : id ∉ c.documents.map Document.id

/-- `collection.addDocument(data:)`; `none` is a failure, which has no effect. -/
def Collection.addDocument (data : List (String × Value)) (c : Collection) :
    Option (Placement c) → Collection
  | none => c
  | some placement => c.add placement.position (.ofFields placement.id data) placement.fresh

/-- What a sign-up does to the stores, given the outcomes of `createUser` and
`addDocument`. -/
def Backend.signUp (call : CreateUser) (backend : Backend)
    (result : Except CreateUserError (FreshUid backend)) (stored : Option (Placement backend.users)) :
    Backend :=
  match result with
  | .error _ => backend
  | .ok fresh =>
      { accounts := backend.accounts ++ [⟨fresh.uid, call.email, call.password⟩]
        users := backend.users.addDocument (call.document fresh.uid) stored }

namespace SignUp

/-- The call of `createUser` that a tap makes. -/
def call (s : SignUp) : CreateUser :=
  ⟨s.text .email, s.text .password, s.text .fullName, s.text .phone⟩

/-- The form after a tap whose callback has run. -/
def signedUp (result : Except CreateUserError String) (s : SignUp) : SignUp :=
  { s.signUp with pending := s.pending }.created s.call result

/-- The new account exists, and `users` holds exactly one document with its uid,
with what was submitted. -/
def Registered (s : SignUp) (before after : Backend) : Prop :=
  ∃ account ∈ after.accounts, account ∉ before.accounts ∧ account.email = s.text .email ∧
    ∃ document, (after.users.documents.filter fun d => d.string "uid" == some account.uid) =
        [document] ∧
      document.string "fullName" = some (s.text .fullName) ∧
      document.string "email" = some (s.text .email) ∧
      document.string "phoneNumber" = some (s.text .phone) ∧
      document.bool "isAdmin" = some false

/-- The form presents the success screen, and presented nothing before. -/
def PresentsSuccess (s after : SignUp) : Prop :=
  s.presented = none ∧ ∃ userName, after.presented = some (.success userName)

/-- What is asked of a sign-up. -/
structure AllOrNothing (s form : SignUp) (before after : Backend) : Prop where
  outcome : Registered s before after ∨ after = before
  success : PresentsSuccess s form → Registered s before after

section Facts

variable {backend : Backend}

/-- A profile that is stored is the only one with its uid. -/
theorem filter_uid_add (call : CreateUser) (fresh : FreshUid backend)
    (placement : Placement backend.users) :
    ((backend.users.addDocument (call.document fresh.uid) (some placement)).documents.filter
        fun d => d.string "uid" == some fresh.uid) =
      [.ofFields placement.id (call.document fresh.uid)] := by
  have others : ∀ documents : List Document, documents ⊆ backend.users.documents →
      (documents.filter fun d => d.string "uid" == some fresh.uid) = [] := by
    intro documents old
    apply List.filter_eq_nil_iff.mpr
    intro d member same
    exact fresh.newDocument d (old member) (beq_iff_eq.mp same)
  have here : (Document.ofFields placement.id (call.document fresh.uid)).string "uid" =
      some fresh.uid := rfl
  simp only [Collection.addDocument, Collection.add, List.filter_append]
  rw [others _ (List.take_subset _ _), List.filter_cons_of_pos (by simp [here]),
    others _ (List.drop_subset _ _), List.nil_append]

/-- When both calls succeed the user is registered. -/
theorem registered_of_stored (s : SignUp) (fresh : FreshUid backend)
    (placement : Placement backend.users) :
    Registered s backend (backend.signUp s.call (.ok fresh) (some placement)) := by
  refine ⟨⟨fresh.uid, s.text .email, s.text .password⟩, ?_, ?_, rfl, _,
    filter_uid_add s.call fresh placement, rfl, rfl, rfl, rfl⟩
  · exact List.mem_append_right _ List.mem_cons_self
  · intro old
    exact fresh.newAccount _ old rfl

/-- When the profile is not stored, the new account has none. -/
theorem orphan_of_failed (s : SignUp) (fresh : FreshUid backend) :
    ¬ Registered s backend (backend.signUp s.call (.ok fresh) none) := by
  rintro ⟨account, member, new, -, document, only, -⟩
  rcases List.mem_append.mp member with old | created
  · exact new old
  · have isNew := List.mem_singleton.mp created
    have found : document ∈ backend.users.documents.filter
        fun d => d.string "uid" == some account.uid := by
      have : document ∈ [document] := List.mem_cons_self
      rwa [← only] at this
    obtain ⟨stored, sameUid⟩ := List.mem_filter.mp found
    rw [isNew] at sameUid
    exact fresh.newDocument document stored (beq_iff_eq.mp sameUid)

/-- A failed `createUser` presents no success. -/
theorem not_presentsSuccess_of_error (s : SignUp) (error : CreateUserError) :
    ¬ PresentsSuccess s (s.signedUp (.error error)) := by
  rintro ⟨nothing, userName, presented⟩
  have kept : s.signUp.presented = none := by
    rw [signUp, checkValidForm_eq]
    exact nothing
  cases error with
  | accountExistsWithDifferentCredential =>
      simp [signedUp, created, kept] at presented
  | emailAlreadyInUse =>
      simp [signedUp, created, kept] at presented
  | other message =>
      simp [signedUp, created, present, kept] at presented

end Facts

/-- **When a sign-up is all or nothing.** For every form, all accounts and
profiles, and every outcome of `createUser` and of `addDocument`: the sign-up
leaves the account with exactly one profile holding what was submitted, or leaves
both stores as they were, and presents success in the first case only, exactly
when `createUser` fails or `addDocument` succeeds. -/
theorem sign_up_all_or_nothing_iff (s : SignUp) (backend : Backend)
    (result : Except CreateUserError (FreshUid backend))
    (stored : Option (Placement backend.users)) :
    AllOrNothing s (s.signedUp (result.map FreshUid.uid)) backend
        (backend.signUp s.call result stored) ↔
      (∃ error, result = .error error) ∨ stored.isSome := by
  match result, stored with
  | .error error, stored =>
      refine iff_of_true ⟨.inr rfl, fun success => ?_⟩ (.inl ⟨error, rfl⟩)
      exact absurd success (not_presentsSuccess_of_error s error)
  | .ok fresh, some placement =>
      have registered := registered_of_stored s fresh placement
      exact iff_of_true ⟨.inl registered, fun _ => registered⟩ (.inr rfl)
  | .ok fresh, none =>
      refine iff_of_false ?_ (by simp)
      rintro ⟨registered | unchanged, -⟩
      · exact orphan_of_failed s fresh registered
      · have accounts := congrArg Backend.accounts unchanged
        simp [Backend.signUp] at accounts

/-- A filled form. -/
def filled : SignUp :=
  { loaded with
    text := fun
      | .fullName => "Alice"
      | .phone => "0912345678"
      | .email => "alice@mail.com"
      | .password => "Secret12"
      | .confirmPassword => "Secret12"
    isEnabled := true }

/-- No accounts and no profiles. -/
def noUsers : Backend := ⟨[], ⟨[], List.nodup_nil⟩⟩

/-- The uid of the first account. -/
def firstUid : FreshUid noUsers := ⟨"u1", by simp [noUsers], by simp [noUsers]⟩

/-- When the profile of the first user is not stored, the account stays without
one and the success screen is presented. -/
theorem sign_up_without_profile :
    (noUsers.signUp filled.call (.ok firstUid) none).accounts =
        [⟨"u1", "alice@mail.com", "Secret12"⟩] ∧
      (noUsers.signUp filled.call (.ok firstUid) none).users.documents = [] ∧
      PresentsSuccess filled (filled.signedUp (.ok "u1")) ∧
      ¬ AllOrNothing filled (filled.signedUp (.ok "u1")) noUsers
        (noUsers.signUp filled.call (.ok firstUid) none) := by
  have success : PresentsSuccess filled (filled.signedUp (.ok "u1")) := ⟨rfl, "Alice", rfl⟩
  refine ⟨rfl, rfl, success, ?_⟩
  rintro ⟨-, onlyRegistered⟩
  exact orphan_of_failed filled firstUid (onlyRegistered success)

end SignUp

end PetApp
