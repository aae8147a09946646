import PetApp.Account.Loaders
import PetApp.Account.Service

/-!
What the services hold, as a map from uids to profiles and avatars.

`Registry` is the abstract store: a profile and an avatar for each uid, and the one
uid whose profile every save goes to. `Represents` relates it to the documents and
files, and every answered request keeps it (`represents_step`), so after every run
the profile loaders read the registry and nothing else.

* `represents_registered`, `represents_saved` — the two ways in which a profile comes
  about or changes.
* `Registry.profile_foldl`, `Registry.avatar_foldl` — where the profile and the avatar
  of a uid come from.
* `profiles_refine_registry` — the loop of the loaders finds exactly the registered
  profile of a uid, and `getData` its last avatar within the limit.
-/

namespace PetApp

open Runs

/-- The profile a sign-up registers. -/
def CreateUser.profile (call : CreateUser) (uid : String) : Profile :=
  ⟨call.fullName, call.phoneNumber, false, call.password, uid, call.email⟩

/-- The profile with the texts of a save. -/
def Profile.withInfo (name phone email : String) (profile : Profile) : Profile :=
  { profile with fullName := name, phoneNumber := phone, email := email }

/-- The abstract store. -/
structure Registry where
  profile : String → Option Profile := fun _ => none
  avatar : String → Option Data := fun _ => none
  /-- The uid whose document has the fixed id. -/
  fixed : Option String := none

namespace Registry

/-- One write. -/
def step (r : Registry) : Write → Registry
  | .registers uid call isFixed =>
      { r with
        profile := Function.update r.profile uid (some (call.profile uid))
        fixed := r.fixed.or (if isFixed then some uid else none) }
  | .saves name phone email =>
      { r with
        profile := fun uid =>
          if r.fixed = some uid then (r.profile uid).map (Profile.withInfo name phone email)
          else r.profile uid }
  | .uploads uid data => { r with avatar := Function.update r.avatar uid (some data) }

end Registry

/-- The registry after a run of the services. -/
def Service.registry {δ : Type} [DecidableEq δ] (codec : ImageCodec) (es : List (ServiceEvent δ)) :
    Registry :=
  (trace (step codec) (writes codec) initial es).foldl Registry.step {}

/-! ### Documents and their profiles -/

/-- The document a sign-up stores has the registered profile. -/
theorem profile_ofFields (id : String) (call : CreateUser) (uid : String) :
    (Document.ofFields id (call.document uid)).profile = some (call.profile uid) := rfl

theorem string_uid_ofFields (id : String) (call : CreateUser) (uid : String) :
    (Document.ofFields id (call.document uid)).string "uid" = some uid := rfl

theorem string_uid_saved_info (name phone email : String) (document : Document) :
    (document.saved (UserDetail.infoFields name phone email)).string "uid" =
      document.string "uid" := by
  unfold Document.saved
  split <;> rfl

theorem string_uid_saved_avatar {uid : String} {fields : List (String × Value)}
    (avatar : fields = UserDetail.avatarFields uid ∨ fields = []) (document : Document) :
    (document.saved fields).string "uid" = document.string "uid" := by
  unfold Document.saved
  rcases avatar with rfl | rfl
  · split <;> rfl
  · split <;> rfl

/-- A save overwrites three texts of the profile of the fixed document. -/
theorem profile_saved_info {document : Document} {profile : Profile}
    (complete : document.profile = some profile) (name phone email : String) :
    (document.saved (UserDetail.infoFields name phone email)).profile =
      some (if document.id = savedDocumentID then profile.withInfo name phone email
        else profile) := by
  unfold Document.saved
  split
  · simp only [Document.profile, Option.bind_eq_bind, Option.bind_eq_some_iff, Option.pure_def,
      Option.some.injEq] at complete
    obtain ⟨_, -, _, -, isAdmin, hasAdmin, password, hasPassword, uid, hasUid, _, -, rfl⟩ := complete
    have overwritten : (document.merge (UserDetail.infoFields name phone email)).profile =
        (document.bool "isAdmin").bind fun isAdmin =>
          (document.string "password").bind fun password =>
            (document.string "uid").bind fun uid =>
              some ⟨name, phone, isAdmin, password, uid, email⟩ := rfl
    rw [overwritten, hasAdmin, hasPassword, hasUid]
    rfl
  · exact complete

/-- The path of an avatar is not part of the profile. -/
theorem profile_saved_avatar {uid : String} {fields : List (String × Value)}
    (avatar : fields = UserDetail.avatarFields uid ∨ fields = []) (document : Document) :
    (document.saved fields).profile = document.profile := by
  unfold Document.saved
  rcases avatar with rfl | rfl
  · split <;> rfl
  · split <;> rfl

/-- Every user has a path of the own. -/
theorem avatarPath_injective : Function.Injective UserDetail.avatarPath := by
  intro uid uid' same
  have texts := congrArg String.toList same
  simp only [UserDetail.avatarPath, String.toList_append, List.append_cancel_right_eq,
    List.append_cancel_left_eq] at texts
  exact String.toList_inj.mp texts

/-- An upload replaces the file of its path and no other. -/
theorem storedFile_cons (uid uid' contentType : String) (data : Data) (files : List StoredFile) :
    (storedFile (UserDetail.avatarPath uid')
        (⟨UserDetail.avatarPath uid, contentType, data⟩ :: files)).map StoredFile.data =
      if uid' = uid then some data
      else (storedFile (UserDetail.avatarPath uid') files).map StoredFile.data := by
  by_cases same : uid' = uid
  · simp [storedFile, same]
  · have apart : UserDetail.avatarPath uid ≠ UserDetail.avatarPath uid' := by
      intro paths
      exact same (avatarPath_injective paths).symm
    simp [storedFile, same, apart]

/-! ### Refinement -/

namespace Service

variable {δ : Type}

/-- The stores hold what the registry says. -/
structure Represents (s : Service δ) (r : Registry) : Prop where
  each : ∀ d ∈ s.documents, ∃ profile, d.profile = some profile ∧
    r.profile profile.uid = some profile
  every : ∀ uid profile, r.profile uid = some profile → profile.uid = uid ∧
    ∃ d ∈ s.documents, d.profile = some profile
  distinct : (s.documents.map fun d => d.string "uid").Nodup
  fixed : ∀ d ∈ s.documents, d.id = savedDocumentID → d.string "uid" = r.fixed
  present : ∀ uid, r.fixed = some uid → ∃ d ∈ s.documents, d.id = savedDocumentID
  avatars : ∀ uid, (storedFile (UserDetail.avatarPath uid) s.files).map StoredFile.data =
    r.avatar uid
  registered : ∀ uid, r.profile uid ≠ none → uid ∈ s.issued
  waiting : ∀ q ∈ s.pending, q.1 ∈ s.issued ∧ r.profile q.1 = none
  once : (s.pending.map Prod.fst).Nodup

section Facts

variable {s t : Service δ} {r : Registry}

theorem represents_initial : Represents (initial : Service δ) {} where
  each := by simp [documents, initial]
  every := by simp
  distinct := List.nodup_nil
  fixed := by simp [documents, initial]
  present := by simp
  avatars := by simp [storedFile, initial]
  registered := by simp
  waiting := by simp [initial]
  once := List.nodup_nil

/-- Sign-ups on their way may be given up. -/
theorem represents_of_silent (rep : Represents s r) (documents : t.documents = s.documents)
    (files : t.files = s.files) (issued : t.issued = s.issued)
    (pending : t.pending.Sublist s.pending) : Represents t r where
  each := by rw [documents]; exact rep.each
  every := by rw [documents]; exact rep.every
  distinct := by rw [documents]; exact rep.distinct
  fixed := by rw [documents]; exact rep.fixed
  present := by rw [documents]; exact rep.present
  avatars := by rw [files]; exact rep.avatars
  registered := by rw [issued]; exact rep.registered
  waiting := by
    intro q member
    rw [issued]
    exact rep.waiting q (pending.subset member)
  once := rep.once.sublist (pending.map Prod.fst)

/-- A new account has no profile yet. -/
theorem represents_created [DecidableEq δ] (rep : Represents s r) {device : δ} {call : CreateUser}
    {uid : String} (new : uid ∉ s.issued) : Represents (s.created device call uid) r where
  each := rep.each
  every := rep.every
  distinct := rep.distinct
  fixed := rep.fixed
  present := rep.present
  avatars := rep.avatars
  registered := fun uid' has => List.mem_append_left _ (rep.registered uid' has)
  waiting := by
    intro q member
    rcases List.mem_append.mp member with old | isNew
    · obtain ⟨issued, none⟩ := rep.waiting q old
      exact ⟨List.mem_append_left _ issued, none⟩
    · cases List.mem_singleton.mp isNew
      refine ⟨List.mem_append_right _ List.mem_cons_self, ?_⟩
      by_contra has
      exact new (rep.registered uid has)
  once := by
    have unseen : uid ∉ s.pending.map Prod.fst := by
      intro pending
      obtain ⟨q, member, rfl⟩ := List.mem_map.mp pending
      exact new (rep.waiting q member).1
    simp only [created, List.map_append, List.map_cons, List.map_nil]
    exact List.nodup_append.mpr ⟨rep.once, List.nodup_singleton _, by
      rintro a member b isNew rfl
      cases List.mem_singleton.mp isNew
      exact unseen member⟩

/-- A stored sign-up is registered. -/
theorem represents_registered (rep : Represents s r) {position : Nat} {uid id : String}
    {call : CreateUser} (waits : s.pending[position]? = some (uid, call))
    (fresh : id ∉ s.documents.map Document.id)
    (documents : t.documents.Perm (.ofFields id (call.document uid) :: s.documents))
    (files : t.files = s.files) (issued : t.issued = s.issued)
    (pending : t.pending = s.pending.eraseIdx position) :
    Represents t (r.step (.registers uid call (id == savedDocumentID))) := by
  obtain ⟨isIssued, unregistered⟩ := rep.waiting (uid, call) (List.mem_of_getElem? waits)
  have elsewhere : ∀ uid' profile, r.profile uid' = some profile → uid' ≠ uid := by
    rintro uid' profile has rfl
    exact absurd has (by rw [unregistered]; simp)
  have unfixed : id = savedDocumentID → r.fixed = none := by
    intro isSaved
    by_contra some
    obtain ⟨uid', isFixed⟩ := Option.ne_none_iff_exists'.mp some
    obtain ⟨d, member, hasId⟩ := rep.present uid' isFixed
    exact fresh (by rw [isSaved, ← hasId]; exact List.mem_map_of_mem member)
  constructor
  case each =>
    intro d member
    rcases List.mem_cons.mp (documents.subset member) with rfl | old
    · exact ⟨call.profile uid, profile_ofFields id call uid, Function.update_self _ _ _⟩
    · obtain ⟨profile, complete, has⟩ := rep.each d old
      refine ⟨profile, complete, ?_⟩
      exact (Function.update_of_ne (elsewhere _ _ has) _ _).trans has
  case every =>
    intro uid' profile has
    by_cases isNew : uid' = uid
    · subst isNew
      have profile_eq : some (call.profile uid') = some profile :=
        (Function.update_self uid' _ r.profile).symm.trans has
      cases profile_eq
      exact ⟨rfl, _, documents.symm.subset List.mem_cons_self, profile_ofFields id call uid'⟩
    · have old : r.profile uid' = some profile := (Function.update_of_ne isNew _ _).symm.trans has
      obtain ⟨same, d, member, complete⟩ := rep.every uid' profile old
      exact ⟨same, d, documents.symm.subset (List.mem_cons_of_mem _ member), complete⟩
  case distinct =>
    rw [(documents.map _).nodup_iff]
    refine List.nodup_cons.mpr ⟨fun seen => ?_, rep.distinct⟩
    obtain ⟨d, member, hasUid⟩ := List.mem_map.mp seen
    obtain ⟨profile, complete, has⟩ := rep.each d member
    have same : some profile.uid = some uid := (Document.profile_uid complete).symm.trans hasUid
    exact elsewhere _ _ has (Option.some.inj same)
  case fixed =>
    intro d member hasId
    rcases List.mem_cons.mp (documents.subset member) with rfl | old
    · have isSaved : id = savedDocumentID := hasId
      simp [Registry.step, unfixed isSaved, isSaved, string_uid_ofFields]
    · have other : id ≠ savedDocumentID := by
        rintro rfl
        exact fresh (by rw [← hasId]; exact List.mem_map_of_mem old)
      simp [Registry.step, other, rep.fixed d old hasId]
  case present =>
    intro uid' isFixed
    cases fixed : r.fixed with
    | some uid'' =>
        obtain ⟨d, member, hasId⟩ := rep.present uid'' fixed
        exact ⟨d, documents.symm.subset (List.mem_cons_of_mem _ member), hasId⟩
    | none =>
        by_cases isSaved : id = savedDocumentID
        · exact ⟨_, documents.symm.subset List.mem_cons_self, isSaved⟩
        · simp [Registry.step, fixed, isSaved] at isFixed
  case avatars =>
    rw [files]
    exact rep.avatars
  case registered =>
    intro uid' has
    rw [issued]
    by_cases isNew : uid' = uid
    · rw [isNew]
      exact isIssued
    · exact rep.registered uid' fun none => has ((Function.update_of_ne isNew _ _).trans none)
  case waiting =>
    intro q member
    rw [pending] at member
    rw [issued]
    obtain ⟨qIssued, none⟩ := rep.waiting q ((List.eraseIdx_sublist _ _).subset member)
    have other : q.1 ≠ uid := Lists.key_ne_of_mem_eraseIdx Prod.fst rep.once waits member
    exact ⟨qIssued, (Function.update_of_ne other _ _).trans none⟩
  case once =>
    rw [pending]
    exact rep.once.sublist ((List.eraseIdx_sublist _ _).map _)

/-- The document with the fixed id is that of the fixed uid. -/
theorem id_eq_saved_iff (rep : Represents s r) {d : Document} (member : d ∈ s.documents)
    {profile : Profile} (complete : d.profile = some profile) :
    d.id = savedDocumentID ↔ r.fixed = some profile.uid := by
  have hasUid := Document.profile_uid complete
  constructor
  · intro hasId
    rw [← rep.fixed d member hasId, hasUid]
  · intro isFixed
    obtain ⟨d', member', hasId⟩ := rep.present profile.uid isFixed
    have same : d'.string "uid" = d.string "uid" := by
      rw [rep.fixed d' member' hasId, isFixed, hasUid]
    rw [← List.inj_on_of_nodup_map rep.distinct member' member same]
    exact hasId

/-- A write to the fixed document changes the profile of the fixed uid alone. -/
theorem represents_saved (rep : Represents s r) {fields : List (String × Value)}
    (change : Profile → Profile) {avatar : String → Option Data}
    (uids : ∀ d : Document, (d.saved fields).string "uid" = d.string "uid")
    (owner : ∀ profile, (change profile).uid = profile.uid)
    (changes : ∀ (d : Document) profile, d.profile = some profile →
      (d.saved fields).profile = some (if d.id = savedDocumentID then change profile else profile))
    (documents : t.documents = s.documents.map (Document.saved fields))
    (avatars : ∀ uid, (storedFile (UserDetail.avatarPath uid) t.files).map StoredFile.data =
      avatar uid)
    (issued : t.issued = s.issued) (pending : t.pending = s.pending) :
    Represents t
      { profile := fun uid => if r.fixed = some uid then (r.profile uid).map change
          else r.profile uid
        avatar := avatar
        fixed := r.fixed } := by
  have isSome : ∀ uid, (if r.fixed = some uid then (r.profile uid).map change else r.profile uid) =
      none ↔ r.profile uid = none := by
    intro uid
    split <;> simp
  constructor
  case each =>
    intro d member
    rw [documents] at member
    obtain ⟨d, old, rfl⟩ := List.mem_map.mp member
    obtain ⟨profile, complete, has⟩ := rep.each d old
    refine ⟨_, changes d profile complete, ?_⟩
    by_cases hasId : d.id = savedDocumentID
    · have isFixed := (id_eq_saved_iff rep old complete).mp hasId
      simp [hasId, owner, isFixed, has]
    · have other := mt (id_eq_saved_iff rep old complete).mpr hasId
      simp [hasId, other, has]
  case every =>
    intro uid profile has
    have registered : r.profile uid ≠ none := by
      intro none
      exact absurd (((isSome uid).mpr none).symm.trans has) (by simp)
    obtain ⟨old, oldHas⟩ := Option.ne_none_iff_exists'.mp registered
    obtain ⟨same, d, member, complete⟩ := rep.every uid old oldHas
    have written := changes d old complete
    simp only [id_eq_saved_iff rep member complete, same] at written
    have profile_eq : (if r.fixed = some uid then change old else old) = profile := by
      have := has
      simp only [oldHas] at this
      split at this <;> rename_i isFixed <;> simp_all
    rw [profile_eq] at written
    refine ⟨?_, _, documents ▸ List.mem_map_of_mem member, written⟩
    rw [← profile_eq]
    split
    · rw [owner, same]
    · exact same
  case distinct =>
    have sameUids : (t.documents.map fun d => d.string "uid") =
        s.documents.map fun d => d.string "uid" := by
      rw [documents, List.map_map]
      exact List.map_congr_left fun d _ => uids d
    rw [sameUids]
    exact rep.distinct
  case fixed =>
    intro d member hasId
    rw [documents] at member
    obtain ⟨d, old, rfl⟩ := List.mem_map.mp member
    rw [uids]
    exact rep.fixed d old (by rw [← hasId, Document.saved_id])
  case present =>
    intro uid isFixed
    obtain ⟨d, member, hasId⟩ := rep.present uid isFixed
    exact ⟨d.saved fields, documents ▸ List.mem_map_of_mem member, by rw [Document.saved_id, hasId]⟩
  case avatars => exact avatars
  case registered =>
    intro uid has
    rw [issued]
    exact rep.registered uid fun none => has ((isSome uid).mpr none)
  case waiting =>
    intro q member
    rw [pending] at member
    rw [issued]
    obtain ⟨isIssued, none⟩ := rep.waiting q member
    exact ⟨isIssued, (isSome q.1).mpr none⟩
  case once =>
    rw [pending]
    exact rep.once

/-- Every answered request keeps the representation. -/
theorem represents_step [DecidableEq δ] {codec : ImageCodec} {e : ServiceEvent δ}
    (rep : Represents s r) (stepped : step codec s e = some t) :
    Represents t ((writes codec s e).foldl Registry.step r) := by
  rcases step_cases stepped with ⟨silent, documents, files, issued, pending⟩ |
    ⟨device, call, uid, rfl, new, rfl⟩ |
    ⟨position, uid, call, id, place, rfl, waits, fresh, documents, files, issued, pending⟩ |
    ⟨name, phone, email, rfl, documents, files, issued, pending⟩ |
    ⟨uid, data, fields, upload, avatar, documents, files, issued, pending⟩
  · rw [silent]
    exact represents_of_silent rep documents files issued pending
  · exact represents_created rep new
  · simp only [writes, waits]
    exact represents_registered rep waits fresh documents files issued pending
  · have avatars : ∀ uid, (storedFile (UserDetail.avatarPath uid) t.files).map StoredFile.data =
        r.avatar uid := by
      rw [files]
      exact rep.avatars
    exact represents_saved rep (Profile.withInfo name phone email)
      (string_uid_saved_info name phone email) (fun _ => rfl)
      (fun d profile complete => profile_saved_info complete name phone email) documents avatars
      issued pending
  · rw [upload]
    have avatars : ∀ uid', (storedFile (UserDetail.avatarPath uid') t.files).map StoredFile.data =
        Function.update r.avatar uid (some data) uid' := by
      intro uid'
      rw [files, storedFile_cons, Function.update_apply, rep.avatars]
    have saved := represents_saved rep id (string_uid_saved_avatar avatar) (fun _ => rfl)
      (fun d profile complete => by simp [profile_saved_avatar avatar, complete]) documents avatars
      issued pending
    simpa [Registry.step] using saved

theorem represents_run [DecidableEq δ] {codec : ImageCodec} {es : List (ServiceEvent δ)}
    (reached : run (step codec) initial es = some t) : Represents t (registry codec es) :=
  simulates_run (fun _ _ _ _ rep stepped => represents_step rep stepped) represents_initial reached

/-- The loop of the loaders finds the registered profile. -/
theorem profiles_of_represents (rep : Represents s r) (uid : String) :
    profiles (some uid) s.documents = (r.profile uid).toList := by
  cases has : r.profile uid with
  | none =>
      rw [profiles_eq_filter]
      have nobody : s.documents.filter (Document.hasUid (some uid)) = [] := by
        refine List.filter_eq_nil_iff.mpr fun d member found => ?_
        obtain ⟨profile, complete, registered⟩ := rep.each d member
        have same : some uid = some profile.uid :=
          (beq_iff_eq.mp found).trans (Document.profile_uid complete)
        rw [Option.some.inj same, registered] at has
        cases has
      rw [nobody]
      rfl
  | some profile =>
      obtain ⟨same, d, member, complete⟩ := rep.every uid profile has
      have own : d.string "uid" = some uid := by rw [Document.profile_uid complete, same]
      refine profiles_of_filter_eq_singleton ?_ complete
      rw [← own]
      exact Lists.filter_eq_singleton (fun d => d.string "uid") rep.distinct member

/-- `getData` brings the last avatar if it is within the limit. -/
theorem getData_of_represents (rep : Represents s r) (uid : String) :
    getData (UserDetail.avatarPath uid) s.files =
      (r.avatar uid).filter fun data => data.length ≤ maxSize := by
  rw [← rep.avatars uid, getData]
  cases storedFile (UserDetail.avatarPath uid) s.files with
  | none => rfl
  | some file =>
      by_cases small : file.data.length ≤ maxSize <;> simp [Option.filter, small]

end Facts

end Service

/-! ### Where profiles and avatars come from -/

/-- The data a write uploads for a user. -/
def Write.uploadOf (uid : String) : Write → Option Data
  | .uploads uid' data => if uid' = uid then some data else none
  | _ => none

namespace Registry

/-- The avatar of a user is the last one uploaded. -/
theorem avatar_foldl (writes : List Write) (r : Registry) (uid : String) :
    (writes.foldl step r).avatar uid =
      ((writes.filterMap (Write.uploadOf uid)).getLast?).or (r.avatar uid) := by
  induction writes using List.reverseRecOn with
  | nil => rfl
  | append_singleton writes write ih =>
      rw [List.foldl_append, List.filterMap_append]
      cases write with
      | registers uid' call isFixed => simpa [step, Write.uploadOf] using ih
      | saves name phone email => simpa [step, Write.uploadOf] using ih
      | uploads uid' data =>
          by_cases own : uid' = uid
          · simp [step, Write.uploadOf, own]
          · simpa [step, Write.uploadOf, own, Function.update_of_ne (Ne.symm own)] using ih

/-- A registered profile is that of a sign-up, with the texts of saves if its user is
the fixed one. -/
theorem profile_foldl {writes : List Write} {uid : String} {profile : Profile}
    (has : (writes.foldl step {}).profile uid = some profile) :
    profile.isAdmin = false ∧ ∃ call isFixed, .registers uid call isFixed ∈ writes ∧
      profile.password = call.password ∧
      ((writes.foldl step {}).fixed ≠ some uid → profile = call.profile uid) := by
  induction writes using List.reverseRecOn generalizing profile with
  | nil => cases has
  | append_singleton writes write ih =>
      rw [List.foldl_append] at has ⊢
      -- a write that leaves the profile alone
      have kept : (writes.foldl step {}).profile uid = some profile →
          ((step (writes.foldl step {}) write).fixed ≠ some uid →
            (writes.foldl step {}).fixed ≠ some uid) →
          profile.isAdmin = false ∧ ∃ call isFixed, .registers uid call isFixed ∈ writes ++ [write] ∧
            profile.password = call.password ∧
            ((step (writes.foldl step {}) write).fixed ≠ some uid → profile = call.profile uid) := by
        intro old unfixed
        obtain ⟨isAdmin, call, isFixed, member, password, same⟩ := ih old
        exact ⟨isAdmin, call, isFixed, List.mem_append_left _ member, password,
          fun other => same (unfixed other)⟩
      cases write with
      | registers uid' call isFixed =>
          by_cases own : uid = uid'
          · subst own
            have registered : some (call.profile uid) = some profile :=
              (Function.update_self uid _ _).symm.trans has
            cases registered
            exact ⟨rfl, call, isFixed, List.mem_append_right _ List.mem_cons_self, rfl, fun _ => rfl⟩
          · refine kept ((Function.update_of_ne own _ _).symm.trans has) fun other fixed => other ?_
            simp [step, fixed]
      | saves name phone email =>
          by_cases fixed : (writes.foldl step {}).fixed = some uid
          · simp only [List.foldl_cons, List.foldl_nil, step, fixed, if_true] at has
            obtain ⟨old, oldHas, rfl⟩ := Option.map_eq_some_iff.mp has
            obtain ⟨isAdmin, call, isFixed, member, password, -⟩ := ih oldHas
            exact ⟨isAdmin, call, isFixed, List.mem_append_left _ member, password,
              fun other => absurd fixed other⟩
          · simp only [List.foldl_cons, List.foldl_nil, step, fixed, if_false] at has
            exact kept has fun other => other
      | uploads uid' data => exact kept has fun other => other

end Registry

/-! ### Runs -/

namespace Service

variable {δ : Type} [DecidableEq δ]

/-- The uploads a run makes for a user. -/
def uploadsOf (codec : ImageCodec) (uid : String) (es : List (ServiceEvent δ)) : List Data :=
  (trace (step codec) (writes codec) initial es).filterMap (Write.uploadOf uid)

/-- The registered avatar is the last one uploaded. -/
theorem avatar_registry (codec : ImageCodec) (es : List (ServiceEvent δ)) (uid : String) :
    (registry codec es).avatar uid = (uploadsOf codec uid es).getLast? := by
  rw [registry, Registry.avatar_foldl, Option.or_none]
  rfl

/-- **The loaders read the registry.** After every run of the services, with any number
of devices signing up, in and out, deleting accounts, saving and uploading in any order
and with any failures: the loop of the profile loaders finds the registered profile of
a uid once, or nothing if none is registered, and `getData` brings the last avatar
uploaded by that uid if it is within the limit. -/
theorem profiles_refine_registry (codec : ImageCodec) (es : List (ServiceEvent δ)) (t : Service δ)
    (reached : run (step codec) initial es = some t) (uid : String) :
    profiles (some uid) t.documents = ((registry codec es).profile uid).toList ∧
      getData (UserDetail.avatarPath uid) t.files =
        (uploadsOf codec uid es).getLast?.filter fun data => data.length ≤ maxSize := by
  have rep := represents_run reached
  refine ⟨profiles_of_represents rep uid, ?_⟩
  rw [getData_of_represents rep, avatar_registry]

/-- Two sign-ups of which the second gets the fixed id, a save and two uploads by the
first; the path of the second upload is not written. -/
def aliceThenBob : List (ServiceEvent Bool) :=
  [.createUser true ⟨"a@x.vn", "Secret12", "Alice", "0900000001"⟩ (.ok "alice"),
    .createUser false ⟨"b@x.vn", "Secret34", "Bob", "0900000002"⟩ (.ok "bob"),
    .addDocument 1 (some (savedDocumentID, 0)), .addDocument 0 (some ("other", 0)),
    .savesInfo (some "Alice B") (some "0911111111") (some "a@x.vn") true,
    .picksImage true (some ⟨1, 1, [2]⟩) true true, .picksImage true (some ⟨1, 1, [1]⟩) true false]

/-- The save of Alice is found under Bob's uid, her upload under her own. -/
theorem profiles_refine_registry_two :
    ∃ t, run (step .raw) initial aliceThenBob = some t ∧
      profiles (some "bob") t.documents =
        ((registry .raw aliceThenBob).profile "bob").toList ∧
      (registry .raw aliceThenBob).profile "bob" =
        some ⟨"Alice B", "0911111111", false, "Secret34", "bob", "a@x.vn"⟩ ∧
      getData (UserDetail.avatarPath "alice") t.files = some [1] := by
  obtain ⟨t, reached⟩ : ∃ t, run (step .raw) initial aliceThenBob = some t := ⟨_, rfl⟩
  obtain ⟨found, -⟩ := profiles_refine_registry .raw aliceThenBob t reached "bob"
  obtain ⟨-, brought⟩ := profiles_refine_registry .raw aliceThenBob t reached "alice"
  exact ⟨t, reached, found, rfl, brought.trans rfl⟩

end Service

end PetApp
