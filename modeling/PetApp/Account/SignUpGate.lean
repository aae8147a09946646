import PetApp.Account.SignUp

/-!
The gate of the sign-up form when the form is filled in order.

A label that is hidden says nothing before the first edit of its field, and the label
of the confirmation says nothing about a password edited after it. `Synced` is the
case in which a label can be trusted: it is hidden exactly when the check of its field
accepts the text that stands there now.

* `synced_edited` — an edit syncs the label of its own field.
* `synced_afterEdits` — a field stays synced after its edit, as long as no edit that its
  check depends on follows.
* `gate_exact_in_order` — with every field edited, and the confirmation after the
  password, the button is enabled exactly on a form whose five checks accept.
-/

namespace PetApp

open Runs

namespace SignUp

/-- The form after a list of edits. -/
def afterEdits (foundation : Foundation) (edits : List (Field × String)) (s : SignUp) : SignUp :=
  edits.foldl (fun s edit => s.edited foundation edit.1 edit.2) s

/-- The label of the field is hidden exactly when its check accepts its text. -/
def Synced (foundation : Foundation) (field : Field) (s : SignUp) : Prop :=
  (s.label field).isHidden = true ↔ invalid foundation s.text field (s.text field) = none

section Gate

variable {foundation : Foundation} {s : SignUp} {field other : Field} {text : String}
  {edits : List (Field × String)}

/-- Edits are never refused. -/
theorem run_edits :
    run (step foundation) s (edits.map fun edit => .edit edit.1 edit.2) =
      some (s.afterEdits foundation edits) := by
  induction edits generalizing s with
  | nil => rfl
  | cons edit edits ih => exact ih

/-- An edit syncs the label of its own field. -/
theorem synced_edited : Synced foundation field (s.edited foundation field text) := by
  rw [Synced, text_edited, Function.update_self]
  exact isHidden_edited_iff

/-- An edit of another field keeps a label synced, unless it edits the password under
the confirmation. -/
theorem synced_edited_of_ne (synced : Synced foundation other s) (ne : other ≠ field)
    (keeps : other = .confirmPassword → field ≠ .password) :
    Synced foundation other (s.edited foundation field text) := by
  rw [Synced, text_edited, label_edited_of_ne ne, Function.update_of_ne ne]
  have same : invalid foundation (Function.update s.text field text) other =
      invalid foundation s.text other := by
    by_cases confirmation : other = .confirmPassword
    · subst confirmation
      have password : Function.update s.text field text .password = s.text .password :=
        Function.update_of_ne (keeps rfl).symm _ _
      rw [invalid, invalid, password]
    · exact invalid_congr _ _ confirmation
  rw [same]
  exact synced

/-- A field stays synced through edits that its check does not depend on. -/
theorem synced_afterEdits (synced : Synced foundation field s)
    (keeps : ∀ edit ∈ edits, field = .confirmPassword → edit.1 ≠ .password) :
    Synced foundation field (s.afterEdits foundation edits) := by
  induction edits generalizing s with
  | nil => exact synced
  | cons edit edits ih =>
      obtain ⟨here, later⟩ := List.forall_mem_cons.mp keeps
      refine ih ?_ later
      by_cases same : field = edit.1
      · subst same
        exact synced_edited
      · exact synced_edited_of_ne synced same here

/-- A field is synced from its last edit on, however many edits came before. -/
theorem synced_of_edit {before after : List (Field × String)}
    (keeps : ∀ edit ∈ after, field = .confirmPassword → edit.1 ≠ .password) :
    Synced foundation field (s.afterEdits foundation (before ++ (field, text) :: after)) := by
  rw [afterEdits, List.foldl_append, List.foldl_cons]
  exact synced_afterEdits synced_edited keeps

/-- After every edit the button tells whether the form is valid. -/
theorem isEnabled_afterEdits (checked : s.isEnabled = s.isValidForm) :
    (s.afterEdits foundation edits).isEnabled = (s.afterEdits foundation edits).isValidForm := by
  induction edits generalizing s with
  | nil => exact checked
  | cons edit edits ih => exact ih isEnabled_edited

/-- With every label synced, a valid form is one whose five checks accept. -/
theorem isValidForm_iff_of_synced (synced : ∀ field, Synced foundation field s) :
    s.isValidForm = true ↔ ∀ field, invalid foundation s.text field (s.text field) = none := by
  rw [isValidForm_iff]
  constructor
  · rintro ⟨hidden, -⟩ field
    exact (synced field).mp (hidden field)
  · intro accepted
    refine ⟨fun field => (synced field).mpr (accepted field), ?_⟩
    -- an empty confirmation is not accepted
    intro empty
    have confirmation := accepted .confirmPassword
    rw [empty] at confirmation
    exact invalid_empty s.text .confirmPassword confirmation

end Gate

/-- **The gate is exact on a form filled in order.** After edits of the empty form, with
every field edited at least once and the confirmation edited after the last edit of the
password, the button is enabled exactly when the five checks accept the texts. -/
theorem gate_exact_in_order (foundation : Foundation) (edits : List (Field × String))
    (everyField : ∀ field, ∃ text, (field, text) ∈ edits)
    (confirmedLast : ∃ before text after, edits = before ++ (.confirmPassword, text) :: after ∧
      ∀ edit ∈ after, edit.1 ≠ .password) :
    ∃ t, run (step foundation) loaded (edits.map fun edit => .edit edit.1 edit.2) = some t ∧
      (t.isEnabled = true ↔
        invalidFullName (t.text .fullName) = none ∧
          invalidPhoneNumber foundation (t.text .phone) = none ∧
          invalidEmail (t.text .email) = none ∧
          invalidPassword foundation (t.text .password) = none ∧
          invalidConfirmPassword (t.text .password) (t.text .confirmPassword) = none) := by
  refine ⟨loaded.afterEdits foundation edits, run_edits, ?_⟩
  have synced : ∀ field, Synced foundation field (loaded.afterEdits foundation edits) := by
    intro field
    by_cases confirmation : field = .confirmPassword
    · subst confirmation
      obtain ⟨before, text, after, rfl, noPassword⟩ := confirmedLast
      exact synced_of_edit fun edit member _ => noPassword edit member
    · obtain ⟨text, member⟩ := everyField field
      obtain ⟨before, after, rfl⟩ := List.append_of_mem member
      exact synced_of_edit fun edit _ same => absurd same confirmation
  have checked : loaded.isEnabled = loaded.isValidForm := rfl
  rw [isEnabled_afterEdits checked, isValidForm_iff_of_synced synced]
  constructor
  · intro accepted
    exact ⟨accepted .fullName, accepted .phone, accepted .email, accepted .password,
      accepted .confirmPassword⟩
  · rintro ⟨fullName, phone, email, password, confirmPassword⟩ field
    cases field <;> assumption

/-- A form filled from top to bottom, with the phone number corrected at the end. -/
theorem gate_exact_top_to_bottom :
    ∃ t, run (step .ascii) loaded ([(.fullName, "An"), (.phone, "091"), (.email, "an@gmail.com"),
        (.password, "Passw0rd"), (.confirmPassword, "Passw0rd"), (.phone, "0912345678")].map
          fun edit => .edit edit.1 edit.2) = some t ∧ t.isEnabled = true := by
  obtain ⟨t, reached, gate⟩ := gate_exact_in_order .ascii [(.fullName, "An"), (.phone, "091"),
    (.email, "an@gmail.com"), (.password, "Passw0rd"), (.confirmPassword, "Passw0rd"),
    (.phone, "0912345678")]
    (by
      intro field
      cases field <;> simp)
    ⟨[(.fullName, "An"), (.phone, "091"), (.email, "an@gmail.com"), (.password, "Passw0rd")],
      "Passw0rd", [(.phone, "0912345678")], rfl, by simp⟩
  refine ⟨t, reached, gate.mpr ?_⟩
  cases reached
  exact ⟨rfl, rfl, rfl, rfl, rfl⟩

end SignUp

end PetApp
