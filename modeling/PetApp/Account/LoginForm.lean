import PetApp.Account.Login
import PetApp.Account.SignUp

/-!
The form of the login screen: the text fields and labels of `LoginViewController.swift` over
the presentations and callbacks of `LoginScreen`.

`emailChanged` checks the address and only shows or hides a label. A tap on the login button
asks for no more than two texts that are not empty (`validateFields`). The label under the
password is shown by a refused sign-in, and nothing hides it again.

* `LoginForm` — the two texts, the label under the address, the sign-ins asked for, and the
  screen.
* `screen_run` — the form refines the screen: a tap on a form that is not filled is no event
  of it.
* `asked_step`, `asked_run` — sign-ins asked for are outstanding or answered.
* `login_form_run` — what the form shows and has asked for after any run.
-/

namespace PetApp

open Runs

/-- The login form. `requests` are the addresses and passwords passed to `signIn`. -/
structure LoginForm where
  emailText : String
  passwordText : String
  validationEmailLabel : Label
  requests : List (String × String)
  screen : LoginScreen

inductive LoginFormEvent where
  | emailChanged (text : String)
  | passwordChanged (text : String)
  /-- An event of the screen; a tap on the login button goes through `validateFields`. -/
  | screen (event : LoginEvent)

namespace LoginForm

/-- The form after `viewDidLoad`. -/
def launched (cached : Option String) : LoginForm where
  emailText := ""
  passwordText := ""
  validationEmailLabel := ⟨"", true⟩
  requests := []
  screen := .launched cached

/-- `emailChanged`, on the text of the field. -/
def emailChanged (s : LoginForm) : LoginForm :=
  match invalidEmail s.emailText with
  | some errorMessage => { s with validationEmailLabel := ⟨errorMessage, false⟩ }
  | none => { s with validationEmailLabel := { s.validationEmailLabel with isHidden := true } }

/-- `validateFields`. -/
def validateFields (s : LoginForm) : LoginForm :=
  if s.emailText.isEmpty then s
  else if s.passwordText.isEmpty then s
  else
    { s with
      requests := s.requests ++ [(s.emailText, s.passwordText)]
      screen := s.screen.login }

/-- One event. -/
def step (codec : ImageCodec) (s : LoginForm) : LoginFormEvent → Option LoginForm
  | .emailChanged text => some { s with emailText := text }.emailChanged
  -- `passwordChanged` has no body
  | .passwordChanged text => some { s with passwordText := text }
  | .screen .didTapLogin => some s.validateFields
  | .screen event => (s.screen.step codec event).map fun screen => { s with screen := screen }

/-- A tap on the form asks for a sign-in. -/
def isFilled (email password : String) : Bool := !email.isEmpty && !password.isEmpty

theorem validateFields_eq (s : LoginForm) :
    s.validateFields = if isFilled s.emailText s.passwordText then
      { s with
        requests := s.requests ++ [(s.emailText, s.passwordText)]
        screen := s.screen.login }
      else s := by
  unfold validateFields isFilled
  cases s.emailText.isEmpty <;> cases s.passwordText.isEmpty <;> rfl

/-! ### The screen under the form -/

/-- The events of the screen in a run of the form, given the texts it starts with. -/
def handled : (email password : String) → List LoginFormEvent → List LoginEvent
  | _, _, [] => []
  | _, password, .emailChanged text :: events => handled text password events
  | email, _, .passwordChanged text :: events => handled email text events
  | email, password, .screen .didTapLogin :: events =>
      if isFilled email password then .didTapLogin :: handled email password events
      else handled email password events
  | email, password, .screen event :: events => event :: handled email password events

/-- The sign-ins a run of the form asks for. -/
def requested : (email password : String) → List LoginFormEvent → List (String × String)
  | _, _, [] => []
  | _, password, .emailChanged text :: events => requested text password events
  | email, _, .passwordChanged text :: events => requested email text events
  | email, password, .screen .didTapLogin :: events =>
      if isFilled email password then (email, password) :: requested email password events
      else requested email password events
  | email, password, .screen _ :: events => requested email password events

section Facts

variable {codec : ImageCodec} {s t : LoginForm}

theorem emailChanged_eq (s : LoginForm) :
    s.emailChanged.emailText = s.emailText ∧ s.emailChanged.passwordText = s.passwordText ∧
      s.emailChanged.requests = s.requests ∧ s.emailChanged.screen = s.screen := by
  unfold emailChanged
  split <;> exact ⟨rfl, rfl, rfl, rfl⟩

/-- The events of the screen in one event of the form, and what follows it. -/
theorem handled_cons_of_ne (email password : String) {event : LoginEvent}
    (other : event ≠ .didTapLogin) (events : List LoginFormEvent) :
    handled email password (.screen event :: events) = event :: handled email password events ∧
      requested email password (.screen event :: events) = requested email password events := by
  cases event with
  | didTapLogin => exact absurd rfl other
  | viewDidAppear | signOut | callback _ _ => exact ⟨rfl, rfl⟩

theorem step_screen_of_ne {event : LoginEvent} (other : event ≠ .didTapLogin) :
    step codec s (.screen event) =
      (s.screen.step codec event).map fun screen => { s with screen := screen } := by
  cases event with
  | didTapLogin => exact absurd rfl other
  | viewDidAppear | signOut | callback _ _ => rfl

/-- The form refines the screen: a run of the form is a run of the screen on the events that
reach it, and it asks for the sign-ins of the taps on the filled form. -/
theorem screen_run {events : List LoginFormEvent} (reached : run (step codec) s events = some t) :
    run (LoginScreen.step codec) s.screen (handled s.emailText s.passwordText events) =
        some t.screen ∧
      t.requests = s.requests ++ requested s.emailText s.passwordText events := by
  induction events generalizing s with
  | nil =>
      cases reached
      exact ⟨rfl, (List.append_nil _).symm⟩
  | cons event events ih =>
      obtain ⟨m, stepped, tail⟩ := run_cons_eq_some.mp reached
      obtain ⟨ran, asked⟩ := ih tail
      cases event with
      | emailChanged text =>
          cases stepped
          obtain ⟨email, password, requests, screen⟩ := emailChanged_eq { s with emailText := text }
          rw [email, password, screen] at ran
          rw [email, password, requests] at asked
          exact ⟨ran, asked⟩
      | passwordChanged text =>
          cases stepped
          exact ⟨ran, asked⟩
      | screen event =>
          by_cases tap : event = .didTapLogin
          · subst tap
            cases stepped
            rw [validateFields_eq] at ran asked
            simp only [handled, requested]
            cases filled : isFilled s.emailText s.passwordText with
            | true =>
                simp only [filled, if_true] at ran asked
                refine ⟨run_cons_eq_some.mpr ⟨s.screen.login, rfl, ran⟩, ?_⟩
                simpa using asked
            | false =>
                simp only [filled, Bool.false_eq_true, if_false] at ran asked
                exact ⟨ran, asked⟩
          · rw [step_screen_of_ne tap] at stepped
            obtain ⟨screen, moved, rfl⟩ := Option.map_eq_some_iff.mp stepped
            obtain ⟨sameEvents, sameRequests⟩ :=
              handled_cons_of_ne s.emailText s.passwordText tap events
            rw [sameEvents, sameRequests]
            exact ⟨run_cons_eq_some.mpr ⟨screen, moved, ran⟩, asked⟩

/-- A sign-in is asked for with two texts that are not empty. -/
theorem isFilled_of_mem_requested {email password : String} {events : List LoginFormEvent}
    {request : String × String} (member : request ∈ requested email password events) :
    isFilled request.1 request.2 = true := by
  induction events generalizing email password with
  | nil => cases member
  | cons event events ih =>
      cases event with
      | emailChanged text | passwordChanged text => exact ih member
      | screen event =>
          by_cases tap : event = .didTapLogin
          · subst tap
            simp only [requested] at member
            split at member
            · rename_i filled
              rcases List.mem_cons.mp member with rfl | later
              · exact filled
              · exact ih later
            · exact ih member
          · rw [(handled_cons_of_ne email password tap events).2] at member
            exact ih member

end Facts

end LoginForm

/-! ### Sign-ins asked for and answered -/

/-- The task waits for the answer to a sign-in. -/
def Task.isSignIn : Task → Bool
  | .signIn => true
  | _ => false

namespace LoginScreen

/-- The sign-ins that are outstanding. -/
def outstanding (s : LoginScreen) : Nat :=
  s.callbacks.countP fun callback => callback.task.isSignIn

/-- The event is a tap that asks for a sign-in. -/
def asks : LoginEvent → Bool
  | .didTapLogin => true
  | _ => false

/-- The event answers a sign-in. -/
def answers : LoginEvent → Bool
  | .callback _ (.signIn _) => true
  | _ => false

/-- The event refuses a sign-in for its password. -/
def refuses : LoginEvent → Bool
  | .callback _ (.signIn (.error .wrongPassword)) => true
  | _ => false

section Facts

variable {codec : ImageCodec} {s t : LoginScreen}

@[simp] theorem outstanding_present (controller : Presented) (s : LoginScreen) :
    (s.present controller).outstanding = s.outstanding := rfl

@[simp] theorem outstanding_didDismissView (s : LoginScreen) :
    s.didDismissView.outstanding = s.outstanding := rfl

theorem outstanding_enqueue (signIns : Nat) (tasks : List Task) (s : LoginScreen) :
    (s.enqueue signIns tasks).outstanding =
      s.outstanding + tasks.countP Task.isSignIn := by
  simp only [outstanding, enqueue, List.countP_append, List.countP_map]
  rfl

theorem outstanding_onCheckUserIsLogin (s : LoginScreen) :
    s.onCheckUserIsLogin.outstanding = s.outstanding := by
  unfold onCheckUserIsLogin
  split
  · rfl
  · rw [outstanding_enqueue]
    rfl

/-- No callback asks for a sign-in. -/
theorem outstanding_deliver {callback : Callback} {outcome : Outcome}
    (delivered : deliver codec callback outcome s = some t) : t.outstanding = s.outstanding := by
  rcases deliver_cases delivered with ⟨-, result, -, rfl⟩ | ⟨id, result, -, -, rfl⟩ |
    ⟨profile, data, -, -, rfl⟩ | ⟨user, -, -, rfl⟩ | ⟨message, -, -, rfl⟩
  · unfold signedIn
    split
    · rfl
    · rw [outstanding_didDismissView, outstanding_enqueue]
      rfl
    · rw [outstanding_onCheckUserIsLogin]
      rfl
  · unfold gotDocuments
    split
    · rfl
    · rename_i documents
      have none : ((profiles id documents).map Task.getData).countP
          Task.isSignIn = 0 := by simp [Task.isSignIn]
      rw [outstanding_enqueue, none, Nat.add_zero]
  · rw [gotData, outstanding_present, outstanding_enqueue]
    rfl
  · rfl
  · rfl

/-- A sign-in that is asked for is outstanding until it is answered. -/
theorem asked_step {event : LoginEvent} (stepped : step codec s event = some t) :
    t.outstanding + (answers event).toNat = s.outstanding + (asks event).toNat := by
  cases event with
  | viewDidAppear =>
      cases stepped
      exact outstanding_onCheckUserIsLogin s
  | didTapLogin =>
      cases stepped
      exact outstanding_enqueue ..
  | signOut =>
      cases stepped
      rfl
  | callback position outcome =>
      obtain ⟨callback, found, delivered⟩ := step_callback_eq_some.mp stepped
      have removed := Lists.countP_eraseIdx (fun callback : Callback => callback.task.isSignIn)
        found
      have after : t.outstanding = (s.callbacks.eraseIdx position).countP
          fun callback => callback.task.isSignIn := outstanding_deliver delivered
      have kind : answers (.callback position outcome) = callback.task.isSignIn := by
        rcases deliver_cases delivered with ⟨task, _, rfl, -⟩ | ⟨_, _, task, rfl, -⟩ |
          ⟨_, _, task, rfl, -⟩ | ⟨_, task, rfl, -⟩ | ⟨_, task, rfl, -⟩ <;> rw [task] <;> rfl
      rw [after, kind]
      exact removed

/-- Every sign-in that was asked for is answered or outstanding. -/
theorem asked_run {events : List LoginEvent} (reached : run (step codec) s events = some t) :
    t.outstanding + events.countP answers = s.outstanding + events.countP asks := by
  induction events generalizing s with
  | nil =>
      cases reached
      rfl
  | cons event events ih =>
      obtain ⟨m, stepped, tail⟩ := run_cons_eq_some.mp reached
      have now := asked_step stepped
      have later := ih tail
      rw [List.countP_cons, List.countP_cons]
      cases answered : answers event <;> cases asked : asks event <;>
        simp_all <;> omega

/-- The label under the password is shown by a refused sign-in and never hidden. -/
theorem label_step {event : LoginEvent} (stepped : step codec s event = some t) :
    t.validationPasswordLabel.isSome = (s.validationPasswordLabel.isSome || refuses event) := by
  cases event with
  | viewDidAppear =>
      cases stepped
      unfold onCheckUserIsLogin
      split <;> exact (Bool.or_false _).symm
  | didTapLogin | signOut =>
      cases stepped
      exact (Bool.or_false _).symm
  | callback position outcome =>
      obtain ⟨callback, -, delivered⟩ := step_callback_eq_some.mp stepped
      rcases deliver_cases delivered with ⟨-, result, rfl, rfl⟩ | ⟨id, result, -, rfl, rfl⟩ |
        ⟨profile, data, -, rfl, rfl⟩ | ⟨user, -, rfl, rfl⟩ | ⟨message, -, rfl, rfl⟩
      · unfold signedIn
        split
        · exact (Bool.or_true _).symm
        · exact (Bool.or_false _).symm
        · exact (Bool.or_false _).symm
      · unfold gotDocuments
        split <;> exact (Bool.or_false _).symm
      · exact (Bool.or_false _).symm
      · exact (Bool.or_false _).symm
      · exact (Bool.or_false _).symm

theorem label_run {events : List LoginEvent} (reached : run (step codec) s events = some t) :
    t.validationPasswordLabel.isSome =
      (s.validationPasswordLabel.isSome || events.any refuses) := by
  induction events generalizing s with
  | nil =>
      cases reached
      exact (Bool.or_false _).symm
  | cons event events ih =>
      obtain ⟨m, stepped, tail⟩ := run_cons_eq_some.mp reached
      rw [ih tail, label_step stepped, List.any_cons, Bool.or_assoc]

end Facts

end LoginScreen

/-! ### Whole runs of the form -/

namespace LoginForm

/-- A condition on the events of the screen, for the events of the form. -/
def onScreen (p : LoginEvent → Bool) : LoginFormEvent → Bool
  | .screen event => p event
  | _ => false

/-- The last address that was typed. -/
def lastEmail (last : Option String) : List LoginFormEvent → Option String
  | [] => last
  | .emailChanged text :: events => lastEmail (some text) events
  | _ :: events => lastEmail last events

/-- The field has the address typed last, and the label shows its error, or is hidden when it
has none or nothing was typed. -/
structure EmailShown (last : Option String) (s : LoginForm) : Prop where
  emailText : s.emailText = last.getD ""
  isHidden : s.validationEmailLabel.isHidden = (last.bind invalidEmail).isNone
  text : ∀ message ∈ last.bind invalidEmail, s.validationEmailLabel.text = message

section Facts

variable {codec : ImageCodec} {s t : LoginForm}

theorem emailShown_emailChanged (s : LoginForm) (text : String) :
    EmailShown (some text) { s with emailText := text }.emailChanged := by
  unfold emailChanged
  split
  · rename_i message invalid
    have found : (some text).bind invalidEmail = some message := invalid
    refine ⟨rfl, by rw [found]; rfl, ?_⟩
    rw [found]
    rintro _ ⟨⟩
    rfl
  · rename_i valid
    have found : (some text).bind invalidEmail = none := valid
    refine ⟨rfl, by rw [found]; rfl, ?_⟩
    rw [found]
    rintro _ ⟨⟩

theorem emailShown_run {last : Option String} (shown : EmailShown last s)
    {events : List LoginFormEvent} (reached : run (step codec) s events = some t) :
    EmailShown (lastEmail last events) t := by
  induction events generalizing s last with
  | nil =>
      cases reached
      exact shown
  | cons event events ih =>
      obtain ⟨m, stepped, tail⟩ := run_cons_eq_some.mp reached
      cases event with
      | emailChanged text =>
          cases stepped
          exact ih (emailShown_emailChanged s text) tail
      | passwordChanged text =>
          cases stepped
          have same : EmailShown last { s with passwordText := text } :=
            ⟨shown.emailText, shown.isHidden, shown.text⟩
          exact ih same tail
      | screen event =>
          have same : EmailShown last m := by
            by_cases tap : event = .didTapLogin
            · subst tap
              cases stepped
              rw [validateFields_eq]
              split
              · exact ⟨shown.emailText, shown.isHidden, shown.text⟩
              · exact shown
            · rw [step_screen_of_ne tap] at stepped
              obtain ⟨screen, -, rfl⟩ := Option.map_eq_some_iff.mp stepped
              exact ⟨shown.emailText, shown.isHidden, shown.text⟩
          exact ih same tail

/-- Events of the screen other than taps all reach it. -/
theorem countP_handled {p : LoginEvent → Bool} (noTap : p .didTapLogin = false)
    (email password : String) (events : List LoginFormEvent) :
    (handled email password events).countP p = events.countP (onScreen p) := by
  induction events generalizing email password with
  | nil => rfl
  | cons event events ih =>
      cases event with
      | emailChanged text | passwordChanged text => simp [handled, onScreen, ih]
      | screen event =>
          by_cases tap : event = .didTapLogin
          · subst tap
            simp only [handled]
            split <;> simp [onScreen, noTap, ih]
          · rw [(handled_cons_of_ne email password tap events).1, List.countP_cons,
              List.countP_cons, ih]
            rfl

/-- The taps that reach the screen are those that ask for a sign-in. -/
theorem countP_asks_handled (email password : String) (events : List LoginFormEvent) :
    (handled email password events).countP LoginScreen.asks =
      (requested email password events).length := by
  induction events generalizing email password with
  | nil => rfl
  | cons event events ih =>
      cases event with
      | emailChanged text | passwordChanged text => simp [handled, requested, ih]
      | screen event =>
          by_cases tap : event = .didTapLogin
          · subst tap
            simp only [handled, requested]
            split
            · rw [List.countP_cons_of_pos rfl, List.length_cons, ih]
            · exact ih email password
          · obtain ⟨sameEvents, sameRequests⟩ := handled_cons_of_ne email password tap events
            have none : LoginScreen.asks event = false := by
              cases event with
              | didTapLogin => exact absurd rfl tap
              | viewDidAppear | signOut | callback _ _ => rfl
            rw [sameEvents, sameRequests, List.countP_cons_of_neg (by simp [none]), ih]

end Facts

/-- **The login form.** After every run of edits, taps, sign-outs and callbacks: the address is
the one typed last, and its label shows the error of that address, or is hidden when it has none
or nothing was typed; the label under the password is shown exactly if some sign-in was refused
for its password, however long ago; and every sign-in that was asked for had two texts, and is
outstanding or was answered once. -/
theorem login_form_run (codec : ImageCodec) (cached : Option String)
    (events : List LoginFormEvent) (t : LoginForm)
    (reached : run (step codec) (launched cached) events = some t) :
    EmailShown (lastEmail none events) t ∧
      t.screen.validationPasswordLabel.isSome = events.any (onScreen LoginScreen.refuses) ∧
      (∀ request ∈ t.requests, request.1.isEmpty = false ∧ request.2.isEmpty = false) ∧
      t.requests.length = t.screen.outstanding + events.countP (onScreen LoginScreen.answers) := by
  have start : EmailShown none (launched cached) := ⟨rfl, rfl, by rintro _ ⟨⟩⟩
  obtain ⟨ran, asked⟩ := screen_run reached
  refine ⟨emailShown_run start reached, ?_, ?_, ?_⟩
  · rw [LoginScreen.label_run ran, Bool.eq_iff_iff, List.any_eq_true, ← List.countP_pos_iff,
      ← countP_handled rfl, List.countP_pos_iff, ← List.any_eq_true]
    rfl
  · intro request member
    rw [asked] at member
    simpa [isFilled] using isFilled_of_mem_requested member
  · have balance := LoginScreen.asked_run ran
    rw [countP_handled rfl, countP_asks_handled] at balance
    have none : (launched cached).screen.outstanding = 0 := rfl
    rw [asked]
    have empty : (launched cached).requests = [] := rfl
    rw [empty, List.nil_append]
    omega

/-- An address without a domain, taps before and after the password is typed, and a refusal. -/
def badAddress : List LoginFormEvent :=
  [.emailChanged "alice", .screen .didTapLogin, .passwordChanged "secret", .screen .didTapLogin,
    .screen (.callback 0 (.signIn (.error .wrongPassword)))]

/-- The second tap has asked for a sign-in, in spite of the address. -/
theorem login_form_run_bad_address :
    ∃ t, run (step .raw) (launched none) badAddress = some t ∧
      t.validationEmailLabel.isHidden = false ∧
      t.screen.validationPasswordLabel.isSome = true ∧
      t.requests.length = t.screen.outstanding + 1 := by
  refine ⟨_, rfl, ?_⟩
  obtain ⟨email, password, -, requests⟩ := login_form_run .raw none badAddress _ rfl
  exact ⟨by rw [email.isHidden]; decide, password, requests⟩

end LoginForm

end PetApp
