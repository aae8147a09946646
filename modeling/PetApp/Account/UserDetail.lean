import PetApp.Account.Profile

/-!
The profile screen: `UserDetailVC.swift`.

Saving the form and picking an avatar both end in `updateFirestoreUserProfile`,
which writes to the document of `users` with a given id. Sign-up lets Firestore
choose the ids of the documents and every reader looks a user up by the `uid`
field, but both callers pass the same fixed id.

* `updateFirestoreUserProfile_eq_true` — what a successful write does.
* `savesOwn_iff` — it changes the saver's document and no other exactly when the
  addressed document is the saver's, or nothing changes at all.
* `save_touches_own_iff` — the same for the two actions of the screen.
-/

namespace PetApp

/-- The document id both callers of `updateFirestoreUserProfile` pass. -/
def savedDocumentID : String := "r6YYyxieUxivIk8x8ESr"

/-- An uploaded file. -/
structure StoredFile where
  path : String
  contentType : String
  data : Data

/-- The profile screen with the backend it writes to. -/
structure UserDetail where
  users : Collection
  files : List StoredFile
  userImage : Option UIImage
  isPickerPresented : Bool
  isPopped : Bool
  notifications : Nat

namespace UserDetail

/-- `updateFirestoreUserProfile` with its callback: whether the update succeeded,
and the screen after it. An error is only printed. -/
def updateFirestoreUserProfile (uid : String) (data : List (String × Value)) (s : UserDetail) :
    Bool × UserDetail :=
  let closed := { s with isPopped := true, notifications := s.notifications + 1 }
  match s.users.updateData uid data with
  | none => (false, closed)
  | some users => (true, { closed with users := users })

/-- The fields `didTapSaveInfo` writes. -/
def infoFields (name phone email : String) : List (String × Value) :=
  [("fullName", .string name), ("phoneNumber", .string phone), ("email", .string email)]

/-- `didTapSaveInfo` on the texts of the three fields. -/
def didTapSaveInfo (nameText phoneText emailText : Option String) (s : UserDetail) :
    Bool × UserDetail :=
  match nameText, phoneText, emailText with
  | some name, some phone, some email =>
      s.updateFirestoreUserProfile savedDocumentID (infoFields name phone email)
  | _, _, _ => (false, s)

/-- The path of an avatar. -/
def avatarPath (uid : String) : String := "user_avatar/" ++ uid ++ ".jpg"

/-- The field a successful upload writes. -/
def avatarFields (uid : String) : List (String × Value) := [("image", .string (avatarPath uid))]

/-- `imagePickerController(_:didFinishPickingMediaWithInfo:)` with the callback of
`putData`; `uploads` says whether the upload succeeds. -/
def imagePickerController (codec : ImageCodec) (editedImage : Option UIImage)
    (currentUser : Option String) (uploads : Bool) (s : UserDetail) : Bool × UserDetail :=
  match editedImage with
  | none => (false, { s with isPickerPresented := false })
  | some image =>
      match codec.pngData image with
      | none => (false, { s with isPickerPresented := false })
      | some data =>
          let shown := { s with userImage := some image }
          match currentUser with
          -- this guard returns before the picker is dismissed
          | none => (false, shown)
          | some uid =>
              let dismissed := { shown with isPickerPresented := false }
              if uploads then
                { dismissed with
                  files := ⟨avatarPath uid, "image/png", data⟩ :: s.files }.updateFirestoreUserProfile
                    savedDocumentID (avatarFields uid)
              else (false, dismissed)

/-- The document of the user now has the given fields, its other fields and all
other documents are unchanged. -/
def SavesOwn (uid : String) (fields : List (String × Value)) (before after : Collection) : Prop :=
  after.documents =
    before.documents.map fun d => if d.string "uid" = some uid then d.merge fields else d

/-- Exactly one document has the uid. -/
def OneDocument (uid : String) (users : Collection) : Prop :=
  ∃ own ∈ users.documents, own.string "uid" = some uid ∧
    ∀ d ∈ users.documents, d.string "uid" = some uid → d = own

/-- The addressed document is the user's, or it and the user's document already
have the given fields. -/
def AddressesOwn (uid : String) (fields : List (String × Value)) (users : Collection) : Prop :=
  (∃ d ∈ users.documents, d.id = savedDocumentID ∧ d.string "uid" = some uid) ∨
    ∀ d ∈ users.documents, d.id = savedDocumentID ∨ d.string "uid" = some uid → d.merge fields = d

section Facts

variable {uid : String} {fields : List (String × Value)} {users after : Collection}
  {s t : UserDetail}

/-- A write succeeds exactly when the addressed document exists, and then changes
the `users` documents in that place only. -/
theorem updateFirestoreUserProfile_eq_true {id : String}
    (saved : s.updateFirestoreUserProfile id fields = (true, t)) :
    s.users.updateData id fields = some t.users := by
  unfold updateFirestoreUserProfile at saved
  cases updated : s.users.updateData id fields with
  | none => simp [updated] at saved
  | some users =>
      simp only [updated, Prod.mk.injEq, true_and] at saved
      rw [← saved]

/-- The write changes the saver's document and no other exactly when the
addressed document is the saver's, or nothing changes. -/
theorem savesOwn_iff (one : OneDocument uid users)
    (updated : users.updateData savedDocumentID fields = some after) :
    SavesOwn uid fields users after ↔ AddressesOwn uid fields users := by
  obtain ⟨⟨addressed, present, isAddressed⟩, documents⟩ := Collection.updateData_eq_some.mp updated
  obtain ⟨own, member, isOwn, only⟩ := one
  rw [SavesOwn, documents, List.map_inj_left]
  constructor
  · intro same
    by_cases mine : addressed.string "uid" = some uid
    · exact .inl ⟨addressed, present, isAddressed, mine⟩
    · refine .inr fun d inUsers touched => ?_
      rcases touched with isSaved | isMine
      · -- the addressed document is somebody else's
        obtain rfl := Collection.eq_of_id_eq inUsers present (isSaved.trans isAddressed.symm)
        simpa [isAddressed, mine] using same d inUsers
      · have elsewhere : d.id ≠ savedDocumentID := by
          intro isSaved
          obtain rfl := Collection.eq_of_id_eq inUsers present (isSaved.trans isAddressed.symm)
          exact mine isMine
        simpa [elsewhere, isMine] using (same d inUsers).symm
  · rintro (⟨d, inUsers, isSaved, isMine⟩ | unchanged) d' inUsers'
    · -- both writes address `d`
      have agree : d'.id = savedDocumentID ↔ d'.string "uid" = some uid := by
        constructor
        · intro isSaved'
          rw [Collection.eq_of_id_eq inUsers' inUsers (isSaved'.trans isSaved.symm)]
          exact isMine
        · intro isMine'
          rw [only d' inUsers' isMine', ← only d inUsers isMine]
          exact isSaved
      simp only [agree]
    · have kept := unchanged d' inUsers'
      by_cases isSaved : d'.id = savedDocumentID <;>
        by_cases isMine : d'.string "uid" = some uid <;> simp_all

/-- A successful pick of an avatar is a write of its path. -/
theorem imagePickerController_eq_true {codec : ImageCodec} {editedImage : Option UIImage}
    {uploads : Bool}
    (saved : s.imagePickerController codec editedImage (some uid) uploads = (true, t)) :
    s.users.updateData savedDocumentID (avatarFields uid) = some t.users := by
  cases editedImage with
  | none => simp [imagePickerController] at saved
  | some image =>
      cases encoded : codec.pngData image with
      | none => simp [imagePickerController, encoded] at saved
      | some data =>
          cases uploads with
          | false => simp [imagePickerController, encoded] at saved
          | true =>
              simp only [imagePickerController, encoded, if_true] at saved
              have updated := updateFirestoreUserProfile_eq_true saved
              exact updated

end Facts

/-- **When a profile save touches only the saver's document.** For every `users`
collection with one document of the user: a successful save of the form, or of a
picked avatar, gives the user's document the entered values and changes nothing
else exactly when the document with the fixed id is the user's, or when that
document and the user's already have the entered values. -/
theorem save_touches_own_iff (codec : ImageCodec) (uid : String) (s : UserDetail)
    (one : OneDocument uid s.users) :
    (∀ name phone email t,
        s.didTapSaveInfo (some name) (some phone) (some email) = (true, t) →
        (SavesOwn uid (infoFields name phone email) s.users t.users ↔
          AddressesOwn uid (infoFields name phone email) s.users)) ∧
      ∀ editedImage uploads t,
        s.imagePickerController codec editedImage (some uid) uploads = (true, t) →
        (SavesOwn uid (avatarFields uid) s.users t.users ↔
          AddressesOwn uid (avatarFields uid) s.users) := by
  constructor
  · intro name phone email t saved
    exact savesOwn_iff one (updateFirestoreUserProfile_eq_true saved)
  · intro editedImage uploads t saved
    exact savesOwn_iff one (imagePickerController_eq_true saved)

/-- The screen over a collection of two users, of whom one has the fixed id. -/
def overTwo (fixed other : Profile) : UserDetail where
  users :=
    { documents := [fixed.document savedDocumentID, other.document "other"]
      distinct := by simp [Profile.document, Document.ofFields, savedDocumentID] }
  files := []
  userImage := none
  isPickerPresented := false
  isPopped := false
  notifications := 0

theorem oneDocument_overTwo : OneDocument "alice" (overTwo alice bob).users := by
  refine ⟨_, List.mem_cons_self, rfl, fun d member own => ?_⟩
  rcases List.mem_pair.mp member with rfl | rfl
  · rfl
  · exact absurd own (by decide)

/-- When the fixed id is Alice's, her save touches only her document. -/
theorem save_touches_own_of_fixed :
    ∃ t, (overTwo alice bob).didTapSaveInfo (some "Alice B") (some "0911111111") (some "a@x.vn") =
        (true, t) ∧
      SavesOwn "alice" (infoFields "Alice B" "0911111111" "a@x.vn") (overTwo alice bob).users
        t.users :=
  ⟨_, rfl, ((save_touches_own_iff .raw "alice" (overTwo alice bob) oneDocument_overTwo).1
    "Alice B" "0911111111" "a@x.vn" _ rfl).mpr (.inl ⟨_, List.mem_cons_self, rfl, rfl⟩)⟩

/-- When the fixed id is Bob's, the save of Alice overwrites Bob's document, and
so does her avatar. -/
theorem alice_save_overwrites_bob :
    OneDocument "alice" (overTwo bob alice).users ∧
      (∃ t, (overTwo bob alice).didTapSaveInfo (some "Alice B") (some "0911111111") (some "a@x.vn") =
          (true, t) ∧
        (t.users.documents.map fun d => d.string "fullName") = [some "Alice B", some "Alice"] ∧
        ¬ SavesOwn "alice" (infoFields "Alice B" "0911111111" "a@x.vn") (overTwo bob alice).users
          t.users) ∧
      ∃ t, (overTwo bob alice).imagePickerController .raw (some ⟨1, 1, [1]⟩) (some "alice") true =
          (true, t) ∧
        ¬ SavesOwn "alice" (avatarFields "alice") (overTwo bob alice).users t.users := by
  refine ⟨?_, ⟨_, rfl, by decide, fun saves => ?_⟩, _, rfl, fun saves => ?_⟩
  · refine ⟨_, List.mem_cons_of_mem _ List.mem_cons_self, rfl, fun d member own => ?_⟩
    rcases List.mem_pair.mp member with rfl | rfl
    · exact absurd own (by decide)
    · rfl
  · have names := congrArg (List.map fun d : Document => d.string "fullName") saves
    revert names
    decide
  · have images := congrArg (List.map fun d : Document => d.string "image") saves
    revert images
    decide

end UserDetail

end PetApp
