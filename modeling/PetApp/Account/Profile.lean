import PetApp.Platform.Firestore

/-!
Users and their documents: `UserManager.swift` and the loop of
`onCheckUserIsLogin` over the `users` collection.

`Profile` is what the six guards of the loop read from a document. The loop
looks at the documents whose `uid` field is the searched id, in query order; a
document that fails a guard ends it with `return`, a complete one starts a
download of the avatar. `profiles` is the list of profiles whose download is
started.
-/

namespace PetApp

/-- `User` of `UserManager.swift`. -/
structure User where
  fullName : Option String := none
  phoneNumber : Option String := none
  isAdmin : Option Bool := none
  password : Option String := none
  uid : Option String := none
  email : Option String := none
  image : Option UIImage := none
deriving DecidableEq

/-- The fields of a complete document of `users`. -/
structure Profile where
  fullName : String
  phoneNumber : String
  isAdmin : Bool
  password : String
  uid : String
  email : String
deriving DecidableEq

/-- The user built from a profile and the downloaded avatar. -/
def Profile.user (profile : Profile) (image : Option UIImage) : User where
  fullName := some profile.fullName
  phoneNumber := some profile.phoneNumber
  isAdmin := some profile.isAdmin
  password := some profile.password
  uid := some profile.uid
  email := some profile.email
  image := image

@[simp] theorem Profile.user_uid (profile : Profile) (image : Option UIImage) :
    (profile.user image).uid = some profile.uid := rfl

/-- The six guards on a document, in the order of the source. -/
def Document.profile (document : Document) : Option Profile := do
  let fullName ← document.string "fullName"
  let phoneNumber ← document.string "phoneNumber"
  let isAdmin ← document.bool "isAdmin"
  let password ← document.string "password"
  let uid ← document.string "uid"
  let email ← document.string "email"
  return { fullName, phoneNumber, isAdmin, password, uid, email }

/-- `id == document["uid"] as? String`. -/
def Document.hasUid (id : Option String) (document : Document) : Bool :=
  id == document.string "uid"

/-- The loop of `onCheckUserIsLogin`: the profiles whose download it starts. -/
def profiles (id : Option String) : List Document → List Profile
  | [] => []
  | document :: documents =>
      if document.hasUid id then
        match document.profile with
        -- a guard that fails returns from the whole callback
        | none => []
        | some profile => profile :: profiles id documents
      else profiles id documents

/-- A profile has the `uid` of its document. -/
theorem Document.profile_uid {document : Document} {profile : Profile}
    (complete : document.profile = some profile) : document.string "uid" = some profile.uid := by
  simp only [Document.profile, Option.bind_eq_bind, Option.bind_eq_some_iff, Option.pure_def,
    Option.some.injEq] at complete
  obtain ⟨fullName, -, phoneNumber, -, isAdmin, -, password, -, uid, found, email, -, rfl⟩ := complete
  exact found

/-- The loop reads only the documents with the searched `uid`. -/
theorem profiles_eq_filter (id : Option String) (documents : List Document) :
    profiles id documents = profiles id (documents.filter (Document.hasUid id)) := by
  induction documents with
  | nil => rfl
  | cons document documents ih =>
      by_cases found : document.hasUid id = true
      · simp [profiles, found, ← ih]
      · simp [profiles, found, ih]

/-- The loop starts a download exactly when the first document with the searched
`uid` is complete. -/
theorem profiles_ne_nil_iff {id : Option String} {documents : List Document} :
    profiles id documents ≠ [] ↔
      ∃ document profile rest, documents.filter (Document.hasUid id) = document :: rest ∧
        document.profile = some profile := by
  rw [profiles_eq_filter]
  cases found : documents.filter (Document.hasUid id) with
  | nil => simp [profiles]
  | cons document rest =>
      have here : document.hasUid id = true :=
        (List.mem_filter.mp (found ▸ List.mem_cons_self (a := document) (l := rest))).2
      cases complete : document.profile <;> simp [profiles, here, complete]

/-- When one document has the searched `uid` and it is complete, one download is
started. -/
theorem profiles_of_filter_eq_singleton {id : Option String} {documents : List Document}
    {document : Document} {profile : Profile}
    (only : documents.filter (Document.hasUid id) = [document])
    (complete : document.profile = some profile) : profiles id documents = [profile] := by
  have own : document.hasUid id = true :=
    (List.mem_filter.mp (only ▸ List.mem_singleton_self document)).2
  rw [profiles_eq_filter, only]
  simp [profiles, own, complete]

/-! ### Values for concrete runs -/

/-- A user of the app. -/
def alice : Profile := ⟨"Alice", "0900000002", false, "secret", "alice", "alice@x.vn"⟩

/-- Another one. -/
def bob : Profile := ⟨"Bob", "0900000001", false, "secret", "bob", "bob@x.vn"⟩

/-- The document of a profile under the given id. -/
def Profile.document (profile : Profile) (id : String) : Document :=
  .ofFields id [("fullName", .string profile.fullName), ("phoneNumber", .string profile.phoneNumber),
    ("isAdmin", .bool profile.isAdmin), ("password", .string profile.password),
    ("uid", .string profile.uid), ("email", .string profile.email)]

end PetApp
