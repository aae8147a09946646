import Mathlib.Logic.Function.Basic
import PetApp.Lib.Traces
import PetApp.Account.ProfileValidity

/-!
The services behind all devices: Firebase Auth, the collection `users` and the
stored avatars, under the actions of `SignUpViewController.swift`,
`LoginViewController.swift`, `AccountViewController.swift` and
`UserDetailVC.swift`.

The actions of any number of devices interleave. A sign-up is two requests: the
callback of `createUser` requests `addDocument`, which is answered later or fails.
Deleting an account deletes it in Firebase Auth alone, and a save on the profile
screen writes to one fixed document whoever is signed in.

* `Service.step` — one answered request.
* `step_cases` — what an answer can do to the documents and the files.
* `backend_signUp` — a sign-up whose two answers come in turn is `Backend.signUp`.
-/

namespace PetApp

open Runs

/-! ### Storage -/

/-- The limit both profile loaders pass to `getData`. -/
def maxSize : Nat := 15 * 1024 * 1024

/-- The file last uploaded to a path. -/
def storedFile (path : String) (files : List StoredFile) : Option StoredFile :=
  files.find? fun file => file.path == path

/-- `reference.child(path).getData(maxSize:)`: `none` is an error, which is
reported for a path without a file and for a file that is larger. -/
def getData (path : String) (files : List StoredFile) : Option Data :=
  match storedFile path files with
  | none => none
  | some file => if file.data.length ≤ maxSize then some file.data else none

/-- The collection after `addDocument` with a generated id; `none` when the id is in
use. -/
def Collection.store (data : List (String × Value)) (id : String) (position : Nat)
    (c : Collection) : Option Collection :=
  if fresh : id ∉ c.documents.map Document.id then
    some (c.addDocument data (some ⟨id, position, fresh⟩))
  else none

theorem Collection.store_placement (c : Collection) (data : List (String × Value))
    (placement : Placement c) :
    c.store data placement.id placement.position = some (c.addDocument data (some placement)) :=
  dif_pos placement.fresh

/-! ### Requests and their answers -/

/-- The stores with what is on its way to them. -/
structure Service (δ : Type) where
  backend : Backend
  /-- The uploaded files, the newest first. -/
  files : List StoredFile
  /-- The uids of all accounts ever created. -/
  issued : List String
  /-- The sign-ups whose `addDocument` has not been answered. -/
  pending : List (String × CreateUser)
  /-- `Auth.auth().currentUser` of each device. -/
  currentUser : δ → Option String

inductive ServiceEvent (δ : Type) where
  /-- The callback of `createUser`. -/
  | createUser (device : δ) (call : CreateUser) (result : Except CreateUserError String)
  /-- The answer to a requested `addDocument`: an id and a place in query order, or a
  failure. -/
  | addDocument (position : Nat) (stored : Option (String × Nat))
  /-- `signIn(withEmail:password:)`. -/
  | signIn (device : δ) (email password : String)
  /-- The confirmed alert of row 0 of section 2, with the callback of `delete`. -/
  | deletesAccount (device : δ) (error : Bool)
  /-- Row 1 of section 2; `throws` when `signOut` does. -/
  | logsOut (device : δ) (throws : Bool)
  /-- The save button of the profile screen; the request reaches the server or not. -/
  | savesInfo (nameText phoneText emailText : Option String) (reached : Bool)
  /-- An image picked on the profile screen, uploaded or not; if it is, the request that
  writes its path reaches the server or not. -/
  | picksImage (device : δ) (editedImage : Option UIImage) (uploads reached : Bool)

namespace Service

variable {δ : Type}

/-- No account, no document and no file. -/
def initial : Service δ := ⟨⟨[], ⟨[], List.nodup_nil⟩⟩, [], [], [], fun _ => none⟩

/-- The documents of `users`. -/
def documents (s : Service δ) : List Document := s.backend.users.documents

/-- The profile screen over the stores. -/
def detail (s : Service δ) : UserDetail :=
  { UserDetail.opened s.backend.users with files := s.files }

/-- The stores the profile screen leaves. -/
def wrote (s : Service δ) (detail : UserDetail) : Service δ :=
  { s with backend := { s.backend with users := detail.users }, files := detail.files }

variable [DecidableEq δ]

/-- Another user on a device. -/
def signsIn (device : δ) (uid : Option String) (s : Service δ) : Service δ :=
  { s with currentUser := Function.update s.currentUser device uid }

/-- A new account; Firebase signs its user in. -/
def created (device : δ) (call : CreateUser) (uid : String) (s : Service δ) : Service δ where
  backend :=
    { s.backend with accounts := s.backend.accounts ++ [⟨uid, call.email, call.password⟩] }
  files := s.files
  issued := s.issued ++ [uid]
  pending := s.pending ++ [(uid, call)]
  currentUser := Function.update s.currentUser device (some uid)

/-- A deleted account; Firebase signs its user out, and so does the callback. -/
def deleted (device : δ) (uid : String) (s : Service δ) : Service δ :=
  { s with
    backend := { s.backend with accounts := s.backend.accounts.filter fun a => a.uid != uid }
    currentUser := Function.update s.currentUser device none }

/-- One answered request. `none` is an answer the services do not give: a new account
has a uid never issued before and an email no account has, a new document an unused
id. -/
def step (codec : ImageCodec) (s : Service δ) : ServiceEvent δ → Option (Service δ)
  | .createUser _ _ (.error _) => some s
  | .createUser device call (.ok uid) =>
      if uid ∈ s.issued ∨ ∃ account ∈ s.backend.accounts, account.email = call.email then none
      else some (s.created device call uid)
  | .addDocument position stored =>
      match s.pending[position]?, stored with
      | none, _ => none
      | some _, none => some { s with pending := s.pending.eraseIdx position }
      | some (uid, call), some (id, place) =>
          (s.backend.users.store (call.document uid) id place).map fun users =>
            { s with
              backend := { s.backend with users := users }
              pending := s.pending.eraseIdx position }
  | .signIn device email password =>
      match s.backend.accounts.find? fun a => a.email == email && a.password == password with
      | none => some s
      | some account => some (s.signsIn device (some account.uid))
  | .deletesAccount device error =>
      match s.currentUser device, error with
      | some uid, false => some (s.deleted device uid)
      | _, _ => some s
  | .logsOut device throws => some (if throws then s else s.signsIn device none)
  | .savesInfo nameText phoneText emailText reached =>
      some (if reached then s.wrote (s.detail.didTapSaveInfo nameText phoneText emailText).2 else s)
  | .picksImage device editedImage uploads reached =>
      let detail := (s.detail.imagePickerController codec editedImage (s.currentUser device)
        uploads).2
      some (if reached then s.wrote detail else { s with files := detail.files })

/-! ### What an answer can do -/

end Service

/-- What an answer writes to the profiles and avatars. -/
inductive Write where
  /-- A new profile; `isFixed` when its document gets the fixed id. -/
  | registers (uid : String) (call : CreateUser) (isFixed : Bool)
  | saves (name phone email : String)
  | uploads (uid : String) (data : Data)

/-- The writes of an answered request. -/
def Service.writes {δ : Type} (codec : ImageCodec) (s : Service δ) : ServiceEvent δ → List Write
  | .addDocument position (some (id, _)) =>
      match s.pending[position]? with
      | none => []
      | some (uid, call) => [.registers uid call (id == savedDocumentID)]
  | .savesInfo (some name) (some phone) (some email) true => [.saves name phone email]
  | .picksImage device (some image) true _ =>
      match codec.pngData image, s.currentUser device with
      | some data, some uid => [.uploads uid data]
      | _, _ => []
  | _ => []

/-- The document after a write to the fixed one. -/
def Document.saved (fields : List (String × Value)) (document : Document) : Document :=
  if document.id = savedDocumentID then document.merge fields else document

@[simp] theorem Document.saved_id (fields : List (String × Value)) (document : Document) :
    (document.saved fields).id = document.id := by
  unfold Document.saved
  split <;> rfl

theorem Document.map_saved_nil (documents : List Document) :
    documents.map (Document.saved []) = documents := by
  have unchanged : ∀ document ∈ documents, document.saved [] = document := by
    intro document _
    unfold Document.saved
    split <;> rfl
  rw [List.map_congr_left unchanged, List.map_id']

/-- A write to the fixed document, whether it exists or not. -/
theorem UserDetail.updateFirestoreUserProfile_documents (s : UserDetail)
    (fields : List (String × Value)) :
    (s.updateFirestoreUserProfile savedDocumentID fields).2.users.documents =
      s.users.documents.map (Document.saved fields) := by
  cases updated : s.users.updateData savedDocumentID fields with
  | some users =>
      simp only [updateFirestoreUserProfile, updated]
      exact (Collection.updateData_eq_some.mp updated).2
  | none =>
      simp only [updateFirestoreUserProfile, updated]
      have absent : savedDocumentID ∉ s.users.documents.map Document.id := by
        intro present
        simp [Collection.updateData, present] at updated
      have unchanged : ∀ document ∈ s.users.documents, document.saved fields = document := by
        intro document member
        refine if_neg fun isSaved => absent ?_
        rw [← isSaved]
        exact List.mem_map_of_mem member
      exact ((List.map_congr_left unchanged).trans (List.map_id _)).symm

theorem UserDetail.updateFirestoreUserProfile_files (s : UserDetail) (id : String)
    (fields : List (String × Value)) :
    (s.updateFirestoreUserProfile id fields).2.files = s.files := by
  unfold updateFirestoreUserProfile
  cases s.users.updateData id fields <;> rfl

/-- A picked image is uploaded and its path written, or nothing is stored. -/
theorem UserDetail.imagePickerController_cases (codec : ImageCodec) (editedImage : Option UIImage)
    (currentUser : Option String) (uploads : Bool) (s : UserDetail) :
    (∃ image data uid, editedImage = some image ∧ codec.pngData image = some data ∧
      currentUser = some uid ∧ uploads = true ∧
      (s.imagePickerController codec editedImage currentUser uploads).2.users.documents =
        s.users.documents.map (Document.saved (avatarFields uid)) ∧
      (s.imagePickerController codec editedImage currentUser uploads).2.files =
        ⟨avatarPath uid, "image/png", data⟩ :: s.files) ∨
    (¬ ∃ image data uid, editedImage = some image ∧ codec.pngData image = some data ∧
      currentUser = some uid ∧ uploads = true) ∧
      (s.imagePickerController codec editedImage currentUser uploads).2.users = s.users ∧
      (s.imagePickerController codec editedImage currentUser uploads).2.files = s.files := by
  cases editedImage with
  | none => exact .inr ⟨by simp, rfl, rfl⟩
  | some image =>
      cases encoded : codec.pngData image with
      | none => exact .inr ⟨by simp [encoded], by simp [imagePickerController, encoded]⟩
      | some data =>
          cases currentUser with
          | none => exact .inr ⟨by simp, by simp [imagePickerController, encoded]⟩
          | some uid =>
              cases uploads with
              | false => exact .inr ⟨by simp, by simp [imagePickerController, encoded]⟩
              | true =>
                  refine .inl ⟨image, data, uid, rfl, encoded, rfl, rfl, ?_⟩
                  simp only [imagePickerController, encoded, if_true,
                    updateFirestoreUserProfile_documents, updateFirestoreUserProfile_files,
                    and_self]

namespace Service

variable {δ : Type} [DecidableEq δ] {codec : ImageCodec} {s t : Service δ}

omit [DecidableEq δ] in
/-- Nothing is uploaded without an image, its data, a user and a successful upload. -/
theorem writes_picksImage_of_nothing {device : δ} {editedImage : Option UIImage} {uploads : Bool}
    (reached : Bool) (nothing : ¬ ∃ image data uid, editedImage = some image ∧
      codec.pngData image = some data ∧ s.currentUser device = some uid ∧ uploads = true) :
    writes codec s (.picksImage device editedImage uploads reached) = [] := by
  cases editedImage with
  | none => simp [writes]
  | some image =>
      cases uploads with
      | false => simp [writes]
      | true =>
          cases encoded : codec.pngData image with
          | none => simp [writes, encoded]
          | some data =>
              cases signedIn : s.currentUser device with
              | none => simp [writes, signedIn]
              | some uid => exact absurd ⟨image, data, uid, rfl, encoded, signedIn, rfl⟩ nothing

/-- What an answered request can do to the documents, the files and the sign-ups on
their way. -/
theorem step_cases {e : ServiceEvent δ} (stepped : step codec s e = some t) :
    (writes codec s e = [] ∧ t.documents = s.documents ∧ t.files = s.files ∧
      t.issued = s.issued ∧ t.pending.Sublist s.pending) ∨
    (∃ device call uid, e = .createUser device call (.ok uid) ∧ uid ∉ s.issued ∧
      t = s.created device call uid) ∨
    (∃ position uid call id place, e = .addDocument position (some (id, place)) ∧
      s.pending[position]? = some (uid, call) ∧ id ∉ s.documents.map Document.id ∧
      t.documents.Perm (.ofFields id (call.document uid) :: s.documents) ∧ t.files = s.files ∧
      t.issued = s.issued ∧ t.pending = s.pending.eraseIdx position) ∨
    (∃ name phone email, e = .savesInfo (some name) (some phone) (some email) true ∧
      t.documents = s.documents.map (Document.saved (UserDetail.infoFields name phone email)) ∧
      t.files = s.files ∧ t.issued = s.issued ∧ t.pending = s.pending) ∨
    (∃ uid data fields, writes codec s e = [.uploads uid data] ∧
      (fields = UserDetail.avatarFields uid ∨ fields = []) ∧
      t.documents = s.documents.map (Document.saved fields) ∧
      t.files = ⟨UserDetail.avatarPath uid, "image/png", data⟩ :: s.files ∧ t.issued = s.issued ∧
      t.pending = s.pending) := by
  cases e with
  | createUser device call result =>
      cases result with
      | error error =>
          cases stepped
          exact .inl ⟨rfl, rfl, rfl, rfl, List.Sublist.refl _⟩
      | ok uid =>
          simp only [step] at stepped
          split at stepped
          · cases stepped
          · rename_i new
            cases stepped
            exact .inr (.inl ⟨device, call, uid, rfl, fun old => new (.inl old), rfl⟩)
  | addDocument position stored =>
      simp only [step] at stepped
      split at stepped
      · cases stepped
      · cases stepped
        exact .inl ⟨by simp [writes, *], rfl, rfl, rfl, List.eraseIdx_sublist _ _⟩
      · rename_i uid call id place waiting
        obtain ⟨users, added, rfl⟩ := Option.map_eq_some_iff.mp stepped
        unfold Collection.store at added
        split at added
        · rename_i fresh
          cases added
          exact .inr (.inr (.inl ⟨position, uid, call, id, place, rfl, waiting, fresh,
            Lists.perm_take_cons_drop place _ _, rfl, rfl, rfl⟩))
        · cases added
  | signIn device email password =>
      simp only [step] at stepped
      split at stepped <;>
      · cases stepped
        exact .inl ⟨rfl, rfl, rfl, rfl, List.Sublist.refl _⟩
  | deletesAccount device error =>
      simp only [step] at stepped
      split at stepped <;>
      · cases stepped
        exact .inl ⟨rfl, rfl, rfl, rfl, List.Sublist.refl _⟩
  | logsOut device throws =>
      cases stepped
      cases throws <;> exact .inl ⟨rfl, rfl, rfl, rfl, List.Sublist.refl _⟩
  | savesInfo nameText phoneText emailText reached =>
      cases stepped
      cases reached with
      | false => exact .inl ⟨by simp [writes], rfl, rfl, rfl, List.Sublist.refl _⟩
      | true =>
          by_cases missing : nameText = none ∨ phoneText = none ∨ emailText = none
          · have unchanged := Backend.didTapSaveInfo_of_missing s.detail missing
            rw [if_pos rfl, unchanged]
            refine .inl ⟨?_, rfl, rfl, rfl, List.Sublist.refl _⟩
            rcases missing with rfl | rfl | rfl <;> simp [writes]
          · simp only [not_or, ← ne_eq, Option.ne_none_iff_exists'] at missing
            obtain ⟨⟨name, rfl⟩, ⟨phone, rfl⟩, ⟨email, rfl⟩⟩ := missing
            exact .inr (.inr (.inr (.inl ⟨name, phone, email, rfl,
              UserDetail.updateFirestoreUserProfile_documents s.detail _,
              UserDetail.updateFirestoreUserProfile_files s.detail _ _, rfl, rfl⟩)))
  | picksImage device editedImage uploads reached =>
      cases stepped
      rcases s.detail.imagePickerController_cases codec editedImage (s.currentUser device) uploads
        with ⟨image, data, uid, rfl, encoded, signedIn, rfl, wrote, uploaded⟩ |
          ⟨nothing, unchanged, kept⟩
      · have upload : writes codec s (.picksImage device (some image) true reached) =
            [.uploads uid data] := by
          simp [writes, encoded, signedIn]
        cases reached with
        | true =>
            exact .inr (.inr (.inr (.inr ⟨uid, data, UserDetail.avatarFields uid, upload, .inl rfl,
              wrote, uploaded, rfl, rfl⟩)))
        | false =>
            exact .inr (.inr (.inr (.inr ⟨uid, data, [], upload, .inr rfl,
              (Document.map_saved_nil s.documents).symm, uploaded, rfl, rfl⟩)))
      · have silent := writes_picksImage_of_nothing reached nothing
        cases reached with
        | true =>
            exact .inl ⟨silent, congrArg Collection.documents unchanged, kept, rfl,
              List.Sublist.refl _⟩
        | false => exact .inl ⟨silent, rfl, kept, rfl, List.Sublist.refl _⟩

/-- A sign-up whose two answers come in turn is `Backend.signUp`. -/
theorem backend_signUp {device : δ} {call : CreateUser} (fresh : FreshUid s.backend)
    (placement : Placement s.backend.users)
    (answered : run (step codec) s [.createUser device call (.ok fresh.uid),
      .addDocument s.pending.length (some (placement.id, placement.position))] = some t) :
    t.backend = s.backend.signUp call (.ok fresh) (some placement) := by
  obtain ⟨m, creates, rest⟩ := run_cons_eq_some.mp answered
  obtain ⟨n, adds, done⟩ := run_cons_eq_some.mp rest
  cases done
  simp only [step] at creates
  split at creates
  · cases creates
  · cases creates
    have waiting : (s.pending ++ [(fresh.uid, call)])[s.pending.length]? = some (fresh.uid, call) :=
      List.getElem?_concat_length
    simp only [step, created, waiting] at adds
    have stored := s.backend.users.store_placement (call.document fresh.uid) placement
    obtain ⟨users, added, rfl⟩ := Option.map_eq_some_iff.mp adds
    cases stored.symm.trans added
    rfl

end Service

end PetApp
