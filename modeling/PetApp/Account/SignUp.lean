import Mathlib.Logic.Function.Basic
import PetApp.Lib.Runs
import PetApp.Platform.Firestore
import PetApp.Account.Validators

/-!
The sign-up form: `SignUpViewController.swift`.

Every field has a text and an error label. Editing a field checks its own text,
shows or hides its own label, and then enables the submit button if all five
labels are hidden and the confirmation is not empty. The labels are hidden to
start with and a sign-up hides them again, so a hidden label does not say that
the text of the field has been accepted.

* `edited_isEnabled_iff` — when an edit leaves the button enabled.
* `submit_valid_iff` — the button is enabled on accepted texts only exactly when
  no edit that enables it leaves one of the other fields empty.
* `confirmation_matches` — the confirmation of an enabled form is the password
  when the password is never edited under an accepted confirmation.
-/

namespace PetApp

open Runs

inductive Field where
  | fullName
  | phone
  | email
  | password
  | confirmPassword
deriving DecidableEq

/-- A `UILabel`. -/
structure Label where
  text : String
  isHidden : Bool
deriving DecidableEq

/-- The colours of the submit button. -/
inductive ButtonColor where
  | primaryColor
  | gray
deriving DecidableEq

/-- A call of `createUser` with the values its callback captured. -/
structure CreateUser where
  email : String
  password : String
  fullName : String
  phoneNumber : String
deriving DecidableEq

/-- The data `signUp` passes to `addDocument`. -/
def CreateUser.document (call : CreateUser) (uid : String) : List (String × Value) :=
  [("uid", .string uid), ("fullName", .string call.fullName), ("password", .string call.password),
    ("email", .string call.email), ("phoneNumber", .string call.phoneNumber), ("image", .null),
    ("isAdmin", .bool false)]

/-- The errors the callback of `createUser` tells apart. -/
inductive CreateUserError where
  | accountExistsWithDifferentCredential
  | emailAlreadyInUse
  | other (localizedDescription : String)

/-- What the callback presents. -/
inductive SignUpPresented where
  | alert (message : String)
  | success (userName : String)
deriving DecidableEq

/-- The form, the calls of `createUser` made so far and those whose callback has
still to run, and the data of the documents added to `users`. -/
structure SignUp where
  text : Field → String
  label : Field → Label
  isEnabled : Bool
  backgroundColor : ButtonColor
  calls : List CreateUser
  pending : List CreateUser
  added : List (List (String × Value))
  presented : Option SignUpPresented

inductive SignUpEvent where
  | edit (field : Field) (text : String)
  | didTapSignUp
  | created (position : Nat) (result : Except CreateUserError String)

namespace SignUp

/-- `resetForm`. -/
def resetForm (s : SignUp) : SignUp :=
  { s with
    isEnabled := false
    backgroundColor := .gray
    label := fun _ => ⟨"", true⟩ }

/-- The empty form after `viewDidLoad`. -/
def loaded : SignUp :=
  resetForm
    { text := fun _ => ""
      label := fun _ => ⟨"", false⟩
      isEnabled := true
      backgroundColor := .primaryColor
      calls := []
      pending := []
      added := []
      presented := none }

/-- The condition of `checkValidForm`. -/
def isValidForm (s : SignUp) : Bool :=
  (s.label .fullName).isHidden && (s.label .phone).isHidden && (s.label .email).isHidden &&
    (s.label .password).isHidden && (s.label .confirmPassword).isHidden &&
    !(s.text .confirmPassword).isEmpty

/-- `checkValidForm`. -/
def checkValidForm (s : SignUp) : SignUp :=
  if s.isValidForm then { s with isEnabled := true, backgroundColor := .primaryColor }
  else { s with isEnabled := false, backgroundColor := .gray }

/-- The common body of the five handlers: `invalid` is the check of the field. -/
def fieldChanged (field : Field) (invalid : String → Option String) (s : SignUp) : SignUp :=
  let label :=
    match invalid (s.text field) with
    | some errorMessage => ⟨errorMessage, false⟩
    | none => { s.label field with isHidden := true }
  { s with label := Function.update s.label field label }.checkValidForm

section Handlers

variable (foundation : Foundation)

def fullNameChanged (s : SignUp) : SignUp := s.fieldChanged .fullName invalidFullName

def phoneChanged (s : SignUp) : SignUp := s.fieldChanged .phone (invalidPhoneNumber foundation)

def emailChanged (s : SignUp) : SignUp := s.fieldChanged .email invalidEmail

def passwordChanged (s : SignUp) : SignUp := s.fieldChanged .password (invalidPassword foundation)

def confirmPasswordChanged (s : SignUp) : SignUp :=
  s.fieldChanged .confirmPassword (invalidConfirmPassword (s.text .password))

/-- An edit: the field gets the text, then its handler runs. -/
def edited (field : Field) (text : String) (s : SignUp) : SignUp :=
  let typed := { s with text := Function.update s.text field text }
  match field with
  | .fullName => typed.fullNameChanged
  | .phone => typed.phoneChanged foundation
  | .email => typed.emailChanged
  | .password => typed.passwordChanged foundation
  | .confirmPassword => typed.confirmPasswordChanged

/-- `signUp`, up to the callback of `createUser`. -/
def signUp (s : SignUp) : SignUp :=
  let checked := s.resetForm.checkValidForm
  let call : CreateUser :=
    ⟨s.text .email, s.text .password, s.text .fullName, s.text .phone⟩
  { checked with calls := s.calls ++ [call], pending := s.pending ++ [call] }

/-- `present`: ignored while another controller is presented. -/
def present (controller : SignUpPresented) (s : SignUp) : SignUp :=
  { s with presented := s.presented.or (some controller) }

/-- The callback of `createUser`. -/
def created (call : CreateUser) (result : Except CreateUserError String) (s : SignUp) : SignUp :=
  match result with
  | .error .accountExistsWithDifferentCredential => s
  | .error .emailAlreadyInUse =>
      { s with label := Function.update s.label .email ⟨"Email đã tồn tại", false⟩ }
  | .error (.other message) => s.present (.alert message)
  | .ok uid =>
      { s with added := s.added ++ [call.document uid] }.present (.success call.fullName)

/-- One event. A disabled button sends no tap. -/
def step (s : SignUp) : SignUpEvent → Option SignUp
  | .edit field text => some (s.edited foundation field text)
  | .didTapSignUp => if s.isEnabled then some s.signUp else none
  | .created position result => do
      let call ← s.pending[position]?
      return { s with pending := s.pending.eraseIdx position }.created call result

/-- The check of a field, with the texts of the form. -/
def invalid (text : Field → String) : Field → String → Option String
  | .fullName => invalidFullName
  | .phone => invalidPhoneNumber foundation
  | .email => invalidEmail
  | .password => invalidPassword foundation
  | .confirmPassword => invalidConfirmPassword (text .password)

end Handlers

/-! ### What each event does -/

section Facts

variable {foundation : Foundation} {s t : SignUp} {field : Field} {text : String}

theorem isValidForm_iff : s.isValidForm = true ↔
    (∀ field, (s.label field).isHidden = true) ∧ s.text .confirmPassword ≠ "" := by
  constructor
  · intro valid
    simp only [isValidForm, Bool.and_eq_true] at valid
    obtain ⟨⟨⟨⟨⟨fullName, phone⟩, email⟩, password⟩, confirmPassword⟩, nonempty⟩ := valid
    refine ⟨?_, by simpa using nonempty⟩
    intro field
    cases field <;> assumption
  · rintro ⟨hidden, nonempty⟩
    simp [isValidForm, hidden, nonempty]

theorem checkValidForm_eq (s : SignUp) : s.checkValidForm =
    { s with
      isEnabled := s.isValidForm
      backgroundColor := if s.isValidForm then .primaryColor else .gray } := by
  unfold checkValidForm
  split <;> simp_all

/-- An edit types the text and runs the common body with the check of the field. -/
theorem edited_eq (foundation : Foundation) (field : Field) (text : String) (s : SignUp) :
    s.edited foundation field text =
      fieldChanged field (invalid foundation (Function.update s.text field text) field)
        { s with text := Function.update s.text field text } := by
  cases field <;> rfl

@[simp] theorem text_edited :
    (s.edited foundation field text).text = Function.update s.text field text := by
  rw [edited_eq, fieldChanged, checkValidForm_eq]

@[simp] theorem calls_edited : (s.edited foundation field text).calls = s.calls := by
  rw [edited_eq, fieldChanged, checkValidForm_eq]

/-- An edit leaves the labels of the other fields alone. -/
theorem label_edited_of_ne {other : Field} (ne : other ≠ field) :
    (s.edited foundation field text).label other = s.label other := by
  rw [edited_eq, fieldChanged, checkValidForm_eq]
  exact Function.update_of_ne ne _ _

/-- An edit hides the label of its field exactly when the text is accepted. -/
theorem isHidden_edited_iff :
    ((s.edited foundation field text).label field).isHidden = true ↔
      invalid foundation (Function.update s.text field text) field text = none := by
  rw [edited_eq, fieldChanged, checkValidForm_eq]
  simp only [Function.update_self]
  cases invalid foundation (Function.update s.text field text) field text <;> simp

/-- The new text is accepted, the other labels are hidden and the confirmation is
not empty. -/
def Enables (foundation : Foundation) (s : SignUp) (field : Field) (text : String) : Prop :=
  invalid foundation (Function.update s.text field text) field text = none ∧
    (∀ other, other ≠ field → (s.label other).isHidden = true) ∧
    Function.update s.text field text .confirmPassword ≠ ""

/-- An edit that meets these conditions leaves every label hidden. -/
theorem isHidden_edited_of_enables (enables : Enables foundation s field text) (other : Field) :
    ((s.edited foundation field text).label other).isHidden = true := by
  by_cases same : other = field
  · rw [same]
    exact isHidden_edited_iff.mpr enables.1
  · rw [label_edited_of_ne same]
    exact enables.2.1 other same

/-- Every handler ends with `checkValidForm`. -/
theorem isEnabled_edited : (s.edited foundation field text).isEnabled =
    (s.edited foundation field text).isValidForm := by
  rw [edited_eq, fieldChanged, checkValidForm_eq]
  rfl

/-- When an edit leaves the button enabled. -/
theorem edited_isEnabled_iff :
    (s.edited foundation field text).isEnabled = true ↔ Enables foundation s field text := by
  rw [isEnabled_edited, isValidForm_iff, text_edited]
  constructor
  · rintro ⟨hidden, nonempty⟩
    refine ⟨isHidden_edited_iff.mp (hidden field), fun other ne => ?_, nonempty⟩
    rw [← label_edited_of_ne ne]
    exact hidden other
  · intro enables
    exact ⟨isHidden_edited_of_enables enables, enables.2.2⟩

/-- A sign-up keeps the texts, hides every label, enables the button if the
confirmation is not empty and calls `createUser` with the texts. -/
theorem signUp_spec (s : SignUp) :
    s.signUp.text = s.text ∧ (∀ field, (s.signUp.label field).isHidden = true) ∧
      (s.signUp.isEnabled = true ↔ s.text .confirmPassword ≠ "") ∧
      s.signUp.calls =
        s.calls ++ [⟨s.text .email, s.text .password, s.text .fullName, s.text .phone⟩] := by
  rw [signUp, checkValidForm_eq]
  refine ⟨rfl, fun _ => rfl, ?_, rfl⟩
  simp [resetForm, isValidForm]

/-- The callback of `createUser` keeps texts, calls and button and hides no label. -/
theorem created_spec (call : CreateUser) (result : Except CreateUserError String) (s : SignUp) :
    (s.created call result).text = s.text ∧ (s.created call result).calls = s.calls ∧
      (s.created call result).isEnabled = s.isEnabled ∧
      ∀ field, ((s.created call result).label field).isHidden = true →
        (s.label field).isHidden = true := by
  match result with
  | .error .accountExistsWithDifferentCredential => exact ⟨rfl, rfl, rfl, fun _ hidden => hidden⟩
  | .error .emailAlreadyInUse =>
      refine ⟨rfl, rfl, rfl, fun field hidden => ?_⟩
      by_cases same : field = .email
      · subst same
        simp [created] at hidden
      · simpa [created, Function.update_of_ne same] using hidden
  | .error (.other message) => exact ⟨rfl, rfl, rfl, fun _ hidden => hidden⟩
  | .ok uid => exact ⟨rfl, rfl, rfl, fun _ hidden => hidden⟩

/-- What one event can do: an edit, a sign-up from an enabled button, or a step
that keeps texts, calls and button and hides no label. -/
theorem step_cases {event : SignUpEvent} (stepped : step foundation s event = some t) :
    (∃ field text, event = .edit field text ∧ t = s.edited foundation field text) ∨
      (event = .didTapSignUp ∧ s.isEnabled = true ∧ t = s.signUp) ∨
      (∃ position result, event = .created position result ∧ t.text = s.text ∧
        t.calls = s.calls ∧ t.isEnabled = s.isEnabled ∧
        ∀ field, (t.label field).isHidden = true → (s.label field).isHidden = true) := by
  cases event with
  | edit field text =>
      cases stepped
      exact .inl ⟨field, text, rfl, rfl⟩
  | didTapSignUp =>
      simp only [step, Option.ite_none_right_eq_some, Option.some.injEq] at stepped
      exact .inr (.inl ⟨rfl, stepped.1, stepped.2.symm⟩)
  | created position result =>
      simp only [step, Option.bind_eq_bind, Option.bind_eq_some_iff, Option.pure_def,
        Option.some.injEq] at stepped
      obtain ⟨call, -, rfl⟩ := stepped
      exact .inr (.inr ⟨position, result, rfl,
        created_spec call result { s with pending := s.pending.eraseIdx position }⟩)

theorem invalid_empty (text : Field → String) (field : Field) :
    invalid foundation text field "" ≠ none := by
  cases field <;> simp [invalid, invalidFullName, invalidPhoneNumber, invalidEmail,
    invalidPassword, invalidConfirmPassword]

/-- Only the check of the confirmation reads another field. -/
theorem invalid_congr (text text' : Field → String) (ne : field ≠ .confirmPassword) :
    invalid foundation text field = invalid foundation text' field := by
  cases field with
  | confirmPassword => exact absurd rfl ne
  | _ => rfl

end Facts

/-! ### Submitting accepted texts only -/

section Valid

variable (foundation : Foundation)

/-- The four checks accept the values. -/
def Accepts (fullName phoneNumber email password : String) : Prop :=
  invalidFullName fullName = none ∧ invalidPhoneNumber foundation phoneNumber = none ∧
    invalidEmail email = none ∧ invalidPassword foundation password = none

/-- An enabled form has accepted texts, and so has every call of `createUser`. -/
def SubmitValid (s : SignUp) : Prop :=
  (s.isEnabled = true →
      Accepts foundation (s.text .fullName) (s.text .phone) (s.text .email) (s.text .password)) ∧
    ∀ call ∈ s.calls,
      Accepts foundation call.fullName call.phoneNumber call.email call.password

/-- An edit that enables the button leaves none of the other four fields empty. -/
def LeavesNoneEmpty (s : SignUp) : SignUpEvent → Prop
  | .edit field text => Enables foundation s field text →
      ∀ other, other ≠ field → other ≠ .confirmPassword → s.text other ≠ ""
  | _ => True

/-- The invariant: a field with a hidden label is empty or has an accepted text. -/
def HiddenChecked (s : SignUp) : Prop :=
  ∀ field, field ≠ .confirmPassword → (s.label field).isHidden = true →
    s.text field = "" ∨ invalid foundation s.text field (s.text field) = none

variable {foundation} {s t : SignUp} {field : Field} {text : String} {event : SignUpEvent}

theorem accepts_iff {text : Field → String} :
    Accepts foundation (text .fullName) (text .phone) (text .email) (text .password) ↔
      ∀ field, field ≠ .confirmPassword → invalid foundation text field (text field) = none := by
  constructor
  · rintro ⟨fullName, phone, email, password⟩ field ne
    cases field with
    | confirmPassword => exact absurd rfl ne
    | _ => assumption
  · intro all
    exact ⟨all .fullName nofun, all .phone nofun, all .email nofun, all .password nofun⟩

theorem hiddenChecked_edited (checked : HiddenChecked foundation s) :
    HiddenChecked foundation (s.edited foundation field text) := by
  intro other ne hidden
  rw [text_edited]
  by_cases same : other = field
  · subst same
    rw [Function.update_self]
    exact .inr (isHidden_edited_iff.mp hidden)
  · rw [label_edited_of_ne same] at hidden
    rw [Function.update_of_ne same, invalid_congr _ s.text ne]
    exact checked other ne hidden

/-- Every step from a state with accepted texts keeps the invariant. -/
theorem hiddenChecked_step (checked : HiddenChecked foundation s)
    (valid : SubmitValid foundation s) (stepped : step foundation s event = some t) :
    HiddenChecked foundation t := by
  rcases step_cases stepped with ⟨field, text, -, rfl⟩ | ⟨-, enabled, rfl⟩ |
    ⟨position, result, -, sameText, -, -, hides⟩
  · exact hiddenChecked_edited checked
  · intro field ne _
    rw [(signUp_spec s).1]
    exact .inr (accepts_iff.mp (valid.1 enabled) field ne)
  · intro field ne hidden
    rw [sameText]
    exact checked field ne (hides field hidden)

/-- An edit keeps the texts of an enabled form accepted exactly if it leaves none
of the other fields empty when it enables the button. -/
theorem submitValid_edited_iff (checked : HiddenChecked foundation s)
    (valid : SubmitValid foundation s) :
    SubmitValid foundation (s.edited foundation field text) ↔
      LeavesNoneEmpty foundation s (.edit field text) := by
  rw [SubmitValid, calls_edited, and_iff_left valid.2, edited_isEnabled_iff, text_edited,
    accepts_iff]
  constructor
  · intro accepted enables other ne four empty
    have none := accepted enables other four
    rw [Function.update_of_ne ne, empty] at none
    exact invalid_empty _ other none
  · intro nonempty enables other four
    have hidden := isHidden_edited_of_enables enables other
    have either := hiddenChecked_edited checked other four hidden
    rw [text_edited] at either
    refine either.resolve_left fun empty => ?_
    by_cases same : other = field
    · subst same
      rw [Function.update_self] at empty
      subst empty
      exact invalid_empty _ other enables.1
    · rw [Function.update_of_ne same] at empty
      exact nonempty enables other same four empty

/-- From a state of the invariant, a step keeps the texts of an enabled form
accepted exactly if it meets the condition. -/
theorem submitValid_step_iff (checked : HiddenChecked foundation s)
    (valid : SubmitValid foundation s) (stepped : step foundation s event = some t) :
    SubmitValid foundation t ↔ LeavesNoneEmpty foundation s event := by
  rcases step_cases stepped with ⟨field, text, rfl, rfl⟩ | ⟨rfl, enabled, rfl⟩ |
    ⟨position, result, rfl, sameText, calls, button, -⟩
  · exact submitValid_edited_iff checked valid
  · refine iff_of_true ?_ trivial
    obtain ⟨sameText, -, -, calls⟩ := signUp_spec s
    have accepted := valid.1 enabled
    rw [SubmitValid, sameText, calls]
    refine ⟨fun _ => accepted, fun call member => ?_⟩
    rcases List.mem_append.mp member with old | new
    · exact valid.2 call old
    · cases List.mem_singleton.mp new
      exact accepted
  · refine iff_of_true ?_ trivial
    rw [SubmitValid, sameText, calls, button]
    exact valid

theorem leavesNoneEmpty_of_refused (refused : step foundation s event = none) :
    LeavesNoneEmpty foundation s event := by
  cases event with
  | edit field text => cases refused
  | _ => trivial

end Valid

/-- **When submit is enabled on valid fields only.** In every run from the empty
form, the texts are accepted whenever the button is enabled and in every call of
`createUser`, exactly when every edit that enables the button (a text accepted by
its own check, while the other labels are hidden and the confirmation is not
empty) is made with none of the other four fields empty. -/
theorem submit_valid_iff (foundation : Foundation) (events : List SignUpEvent) :
    Always (step foundation) (SubmitValid foundation) loaded events ↔
      Meets (step foundation) (LeavesNoneEmpty foundation) loaded events := by
  apply always_iff_meets (HiddenChecked foundation)
  · intro s event t checked valid stepped
    exact hiddenChecked_step checked valid stepped
  · intro s event t checked valid stepped
    exact submitValid_step_iff checked valid stepped
  · intro s event refused
    exact leavesNoneEmpty_of_refused refused
  · intro _ _ _
    exact .inl rfl
  · exact ⟨nofun, by simp [loaded, resetForm]⟩

/-- With the password and its confirmation alone the button is enabled and an
account is created without a name, a phone number or an email. -/
theorem password_alone_submits :
    ((run (step .ascii) loaded [.edit .password "Passw0rd", .edit .confirmPassword "Passw0rd",
        .didTapSignUp]).map fun t => (t.isEnabled, t.calls)) =
        some (true, [⟨"", "Passw0rd", "", ""⟩]) ∧
      ¬ Always (step .ascii) (SubmitValid .ascii) loaded
        [.edit .password "Passw0rd", .edit .confirmPassword "Passw0rd", .didTapSignUp] := by
  refine ⟨by decide, ?_⟩
  rintro ⟨-, afterPassword⟩
  obtain ⟨-, afterConfirm⟩ := afterPassword _ rfl
  have valid := (afterConfirm _ rfl).start.1 (by decide)
  exact absurd valid.1 (by decide)

/-! ### The confirmation of an enabled form -/

section Confirmation

/-- An enabled form has the password as its confirmation. -/
def Confirmed (s : SignUp) : Prop :=
  s.isEnabled = true → s.text .confirmPassword = s.text .password

/-- The password is edited only to the text of the confirmation, or while the
confirmation is empty or its label is shown. -/
def KeepsConfirmation (s : SignUp) : SignUpEvent → Prop
  | .edit .password text =>
      text = s.text .confirmPassword ∨ s.text .confirmPassword = "" ∨
        (s.label .confirmPassword).isHidden = false
  | _ => True

instance (s : SignUp) : ∀ event, Decidable (KeepsConfirmation s event)
  | .edit .password _ => inferInstanceAs (Decidable (_ ∨ _ ∨ _))
  | .edit .fullName _ | .edit .phone _ | .edit .email _ | .edit .confirmPassword _
  | .didTapSignUp | .created _ _ => inferInstanceAs (Decidable True)

/-- The invariant: a confirmation with a hidden label is empty or the password,
and it is the password when the button is enabled. -/
structure ConfirmationChecked (s : SignUp) : Prop where
  hidden : (s.label .confirmPassword).isHidden = true →
    s.text .confirmPassword = "" ∨ s.text .confirmPassword = s.text .password
  confirmed : Confirmed s

variable {foundation : Foundation} {s t : SignUp} {event : SignUpEvent}

/-- An edit that keeps the confirmation keeps what its hidden label says. -/
theorem hidden_edited (checked : ConfirmationChecked s) {field : Field} {text : String}
    (keeps : KeepsConfirmation s (.edit field text))
    (hidden : ((s.edited foundation field text).label .confirmPassword).isHidden = true) :
    (s.edited foundation field text).text .confirmPassword = "" ∨
      (s.edited foundation field text).text .confirmPassword =
        (s.edited foundation field text).text .password := by
  rw [text_edited]
  by_cases confirmation : field = .confirmPassword
  · subst confirmation
    have accepted := isHidden_edited_iff.mp hidden
    rw [Function.update_self]
    exact .inr (invalidConfirmPassword_eq_none.mp accepted).2
  · rw [label_edited_of_ne (Ne.symm confirmation)] at hidden
    rw [Function.update_of_ne (Ne.symm confirmation)]
    by_cases password : field = .password
    · subst password
      rw [Function.update_self]
      rcases keeps with same | empty | shown
      · exact .inr same.symm
      · exact .inl empty
      · rw [hidden] at shown
        cases shown
    · rw [Function.update_of_ne (Ne.symm password)]
      exact checked.hidden hidden

/-- Every event that keeps the confirmation keeps the invariant. -/
theorem confirmationChecked_step (checked : ConfirmationChecked s)
    (keeps : KeepsConfirmation s event) (stepped : step foundation s event = some t) :
    ConfirmationChecked t := by
  rcases step_cases stepped with ⟨field, text, rfl, rfl⟩ | ⟨rfl, enabled, rfl⟩ |
    ⟨position, result, rfl, sameText, -, button, hides⟩
  · refine ⟨hidden_edited checked keeps, fun enabled => ?_⟩
    have enables := edited_isEnabled_iff.mp enabled
    have either := hidden_edited checked keeps (isHidden_edited_of_enables enables _)
    rw [text_edited] at either ⊢
    exact either.resolve_left enables.2.2
  · have same := checked.confirmed enabled
    have texts := (signUp_spec s).1
    rw [← texts] at same
    exact ⟨fun _ => .inr same, fun _ => same⟩
  · constructor
    · intro hidden
      rw [sameText]
      exact checked.hidden (hides _ hidden)
    · intro enabled
      rw [sameText]
      exact checked.confirmed (button ▸ enabled)

end Confirmation

/-- **The confirmation of an enabled form is the password, unless the password
changes under it.** In every run from the empty form in which the password is
edited only to the text of the confirmation, or while the confirmation is empty
or its label is shown, the confirmation is the password whenever the button is
enabled. -/
theorem confirmation_matches (foundation : Foundation) (events : List SignUpEvent)
    (keeps : Meets (step foundation) KeepsConfirmation loaded events) :
    Always (step foundation) Confirmed loaded events := by
  have always : Always (step foundation) ConfirmationChecked loaded events := by
    refine always_of_meets ?_ ?_ keeps
    · intro s event _ t checked keeps stepped
      exact confirmationChecked_step checked keeps stepped
    · exact ⟨fun _ => .inl rfl, nofun⟩
  exact always.imp fun _ checked => checked.confirmed

/-- A confirmation is corrected after a second password. -/
theorem confirmation_matches_second_password :
    Meets (step .ascii) KeepsConfirmation loaded
        [.edit .password "Passw0rd", .edit .confirmPassword "Passw0r", .edit .password "Passw0rds",
          .edit .confirmPassword "Passw0rds"] ∧
      Always (step .ascii) Confirmed loaded
        [.edit .password "Passw0rd", .edit .confirmPassword "Passw0r", .edit .password "Passw0rds",
          .edit .confirmPassword "Passw0rds"] :=
  ⟨by decide, confirmation_matches .ascii _ (by decide)⟩

/-- A second password under an accepted confirmation leaves the button enabled. -/
theorem second_password_unconfirmed :
    ¬ Always (step .ascii) Confirmed loaded
      [.edit .password "Passw0rd", .edit .confirmPassword "Passw0rd",
        .edit .password "0therPassword"] := by
  rintro ⟨-, afterPassword⟩
  obtain ⟨-, afterConfirm⟩ := afterPassword _ rfl
  obtain ⟨-, afterSecond⟩ := afterConfirm _ rfl
  have confirmed : Confirmed _ := afterSecond _ rfl
  exact absurd (confirmed (by decide)) (by decide)

end SignUp

end PetApp
