import PetApp.Account.SignUpBackend
import PetApp.Account.UserDetail

/-!
Profiles under edits: `didTapSaveInfo` of `UserDetailVC.swift` against the checks of
`SignUpViewController.swift`.

Sign-up stores a profile only after its checks have passed, under the email of the
new account. The profile screen writes the texts of its three fields as they are to
one fixed document, and leaves the account in Firebase Auth alone.

* `didTapSaveInfo_users` — what a save does to the collection.
* `wellFormed_merge_iff` — a document is well formed after a save exactly when the
  texts pass the checks and the email is the one its account signs in with.
* `profiles_stay_well_formed_iff` — so over whole runs the documents stay well
  formed exactly when every save that reaches the fixed document enters such texts.
-/

namespace PetApp

open Runs

/-- The texts pass the checks of sign-up. -/
def Accepted (foundation : Foundation) (name phone email : String) : Prop :=
  invalidFullName name = none ∧ invalidPhoneNumber foundation phone = none ∧
    invalidEmail email = none

instance (foundation : Foundation) (name phone email : String) :
    Decidable (Accepted foundation name phone email) :=
  inferInstanceAs (Decidable (_ ∧ _ ∧ _))

/-- The account of the document signs in with the email. -/
def Document.SignsInWith (accounts : List Account) (email : String) (document : Document) : Prop :=
  ∃ account ∈ accounts, document.string "uid" = some account.uid ∧ account.email = email

/-- The name, phone number and email of the document are accepted, and its email
is that of its account. -/
def Document.WellFormed (foundation : Foundation) (accounts : List Account) (document : Document) :
    Prop :=
  ∃ name phone email, document.string "fullName" = some name ∧
    document.string "phoneNumber" = some phone ∧ document.string "email" = some email ∧
    Accepted foundation name phone email ∧ document.SignsInWith accounts email

/-- A save on the profile screen of a user: the texts of the three fields. -/
structure SaveInfo where
  currentUser : Option String
  nameText : Option String
  phoneText : Option String
  emailText : Option String
deriving DecidableEq

/-- A profile screen over the collection. -/
def UserDetail.opened (users : Collection) : UserDetail where
  users := users
  files := []
  userImage := none
  isPickerPresented := false
  isPopped := false
  notifications := 0

namespace Backend

/-- The two stores after a save. Whoever is signed in, `didTapSaveInfo` writes to
the fixed document. -/
def saveInfo (backend : Backend) (save : SaveInfo) : Option Backend :=
  let detail := UserDetail.opened backend.users
  some { backend with
    users := (detail.didTapSaveInfo save.nameText save.phoneText save.emailText).2.users }

/-- Every document is well formed. -/
def WellFormed (foundation : Foundation) (backend : Backend) : Prop :=
  ∀ document ∈ backend.users.documents, document.WellFormed foundation backend.accounts

/-- A save that reaches the fixed document enters accepted texts and the email its
account signs in with. -/
def EntersAccepted (foundation : Foundation) (backend : Backend) (save : SaveInfo) : Prop :=
  ∀ name phone email, save.nameText = some name → save.phoneText = some phone →
    save.emailText = some email → ∀ document ∈ backend.users.documents,
      document.id = savedDocumentID →
        Accepted foundation name phone email ∧ document.SignsInWith backend.accounts email

section Facts

variable {foundation : Foundation} {backend after : Backend} {save : SaveInfo}

/-- A save with three texts writes them to the fixed document. -/
theorem didTapSaveInfo_users (s : UserDetail) (name phone email : String) :
    (s.didTapSaveInfo (some name) (some phone) (some email)).2.users.documents =
      s.users.documents.map fun document =>
        if document.id = savedDocumentID then
          document.merge (UserDetail.infoFields name phone email)
        else document := by
  simp only [UserDetail.didTapSaveInfo, UserDetail.updateFirestoreUserProfile]
  cases updated : s.users.updateData savedDocumentID (UserDetail.infoFields name phone email) with
  | some users => exact (Collection.updateData_eq_some.mp updated).2
  | none =>
      -- no document has the id
      have absent : ∀ document ∈ s.users.documents, document.id ≠ savedDocumentID := by
        intro document member isSaved
        have present : savedDocumentID ∈ s.users.documents.map Document.id :=
          isSaved ▸ List.mem_map_of_mem member
        simp [Collection.updateData, present] at updated
      symm
      calc
        s.users.documents.map (fun document =>
            if document.id = savedDocumentID then
              document.merge (UserDetail.infoFields name phone email)
            else document) = s.users.documents.map id :=
          List.map_congr_left fun document member => if_neg (absent document member)
        _ = s.users.documents := List.map_id _

/-- A save with a missing text changes nothing. -/
theorem didTapSaveInfo_of_missing (s : UserDetail) {nameText phoneText emailText : Option String}
    (missing : nameText = none ∨ phoneText = none ∨ emailText = none) :
    (s.didTapSaveInfo nameText phoneText emailText).2 = s := by
  unfold UserDetail.didTapSaveInfo
  split
  · simp_all
  · rfl

/-- A document with the texts written to it is well formed exactly when they are
accepted and the email is that of its account. -/
theorem wellFormed_merge_iff {accounts : List Account} {document : Document}
    {name phone email : String} :
    (document.merge (UserDetail.infoFields name phone email)).WellFormed foundation accounts ↔
      Accepted foundation name phone email ∧ document.SignsInWith accounts email := by
  constructor
  · rintro ⟨name', phone', email', ⟨⟩, ⟨⟩, ⟨⟩, accepted, signsIn⟩
    exact ⟨accepted, signsIn⟩
  · rintro ⟨accepted, signsIn⟩
    exact ⟨name, phone, email, rfl, rfl, rfl, accepted, signsIn⟩

/-- From well-formed documents, a save keeps them well formed exactly when it
enters what is asked. -/
theorem wellFormed_saveInfo_iff (wellFormed : backend.WellFormed foundation)
    (saved : backend.saveInfo save = some after) :
    after.WellFormed foundation ↔ backend.EntersAccepted foundation save := by
  cases saved
  obtain ⟨currentUser, nameText, phoneText, emailText⟩ := save
  by_cases missing : nameText = none ∨ phoneText = none ∨ emailText = none
  · have unchanged := didTapSaveInfo_of_missing (UserDetail.opened backend.users) missing
    refine iff_of_true ?_ ?_
    · simp only [WellFormed, unchanged]
      exact wellFormed
    · rintro name phone email rfl rfl rfl
      simp at missing
  · simp only [not_or, ← ne_eq, Option.ne_none_iff_exists'] at missing
    obtain ⟨⟨name, rfl⟩, ⟨phone, rfl⟩, ⟨email, rfl⟩⟩ := missing
    simp only [WellFormed, didTapSaveInfo_users, List.mem_map]
    constructor
    · rintro after name' phone' email' ⟨⟩ ⟨⟩ ⟨⟩ document member isSaved
      have written := after _ ⟨document, member, rfl⟩
      rw [if_pos isSaved] at written
      exact wellFormed_merge_iff.mp written
    · rintro enters _ ⟨document, member, rfl⟩
      split
      · rename_i isSaved
        exact wellFormed_merge_iff.mpr (enters name phone email rfl rfl rfl document member isSaved)
      · exact wellFormed document member

end Facts

end Backend

/-- **When profiles stay well formed.** From every collection of well-formed
documents and for every sequence of saves by any users with any texts: every
document stays well formed exactly when every save with three texts, made while a
document has the fixed id, enters texts the checks of sign-up accept and the email
with which the account of that document signs in. -/
theorem profiles_stay_well_formed_iff (foundation : Foundation) (backend : Backend)
    (wellFormed : backend.WellFormed foundation) (saves : List SaveInfo) :
    Always Backend.saveInfo (Backend.WellFormed foundation) backend saves ↔
      Meets Backend.saveInfo (Backend.EntersAccepted foundation) backend saves := by
  apply always_iff_meets_of_steps
  · intro before save after holds saved
    exact Backend.wellFormed_saveInfo_iff holds saved
  · intro before save refused
    cases refused
  · exact wellFormed

/-- Alice with the document under the fixed id. -/
def aliceBackend : Backend where
  accounts := [⟨"alice", "alice@x.vn", "secret"⟩]
  users := ⟨[alice.document savedDocumentID], List.nodup_singleton _⟩

theorem wellFormed_aliceBackend : aliceBackend.WellFormed .ascii := by
  intro document member
  cases List.mem_singleton.mp member
  exact ⟨"Alice", "0900000002", "alice@x.vn", rfl, rfl, rfl, by decide,
    ⟨"alice", "alice@x.vn", "secret"⟩, List.mem_singleton_self _, rfl, rfl⟩

/-- A new name and phone number under her own email keep the document of Alice well
formed. -/
theorem profiles_stay_well_formed_new_name :
    aliceBackend.WellFormed .ascii ∧
      Always Backend.saveInfo (Backend.WellFormed .ascii) aliceBackend
        [⟨some "alice", some "Alice B", some "0911111111", some "alice@x.vn"⟩] := by
  refine ⟨wellFormed_aliceBackend, (profiles_stay_well_formed_iff .ascii aliceBackend
    wellFormed_aliceBackend _).mpr ⟨?_, fun _ _ => trivial⟩⟩
  rintro name phone email ⟨⟩ ⟨⟩ ⟨⟩ document member -
  cases List.mem_singleton.mp member
  exact ⟨by decide, ⟨"alice", "alice@x.vn", "secret"⟩, List.mem_singleton_self _, rfl, rfl⟩

/-- A save of three empty texts, by whomever, leaves a document no check accepts. -/
theorem empty_texts_are_saved :
    aliceBackend.WellFormed .ascii ∧
      (∃ after, aliceBackend.saveInfo ⟨some "bob", some "", some "", some ""⟩ = some after ∧
        after.users.documents.map (fun document => document.string "fullName") = [some ""]) ∧
      ¬ Always Backend.saveInfo (Backend.WellFormed .ascii) aliceBackend
        [⟨some "bob", some "", some "", some ""⟩] := by
  refine ⟨wellFormed_aliceBackend, ⟨_, rfl, rfl⟩, fun always => ?_⟩
  obtain ⟨name, phone, email, ⟨⟩, -, -, accepted, -⟩ :=
    (always.2 _ rfl) _ (List.mem_singleton_self _)
  exact absurd accepted.1 (by decide)

end PetApp
