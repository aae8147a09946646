import Mathlib.Tactic.Linarith
import Mathlib.Tactic.NormNum
import PetApp.Pet.Records

/-!
The form of a new pet: `AddPetViewController.swift` and the cells of its table.

What is entered lives in the cells alone. `didTapDoneAddPetButton` asks the table for the
cell of each row, and the table answers only with cells that are on the screen; for a row
that is not, the default text is stored.

* `string_document` — what is stored for a row.
* `saved_pet_keeps_iff` — the entered texts are stored exactly when every row that is off
  the screen was left empty.
* `allVisible_iff` — which scroll positions have the five rows on the screen.
* `keeps_everywhere_iff` — no scroll position loses a text exactly when the table is
  higher than 640 points, of the 720 its rows take.
-/

namespace PetApp

/-- The rows of the table with a text. -/
inductive PetRow where
  | name
  | species
  | birthday
  | sex
  | color
deriving DecidableEq

namespace PetRow

/-- The position of the row in the table, as `didTapDoneAddPetButton` asks for it. -/
def row : PetRow → Nat
  | name => 1
  | species => 2
  | birthday => 3
  | sex => 4
  | color => 5

/-- The key under which the text is stored. -/
def key : PetRow → String
  | name => "name"
  | species => "species"
  | birthday => "birthday"
  | sex => "sex"
  | color => "color"

end PetRow

/-- The form when the button is tapped: the text in the cell of each row, on the screen or
not, and the positions that are on the screen. -/
structure AddPetForm where
  text : PetRow → String
  isVisible : Nat → Bool

namespace AddPetForm

/-- `tableView(_:cellForRowAt:)`: the class of the cell; `none` is the cell of the avatar. -/
def cellForRowAt : Nat → Option PetRow
  | 0 => none
  | 1 => some .name
  | 2 => some .species
  | 3 => some .birthday
  | 4 => some .sex
  | _ => some .color

/-- `cellForRow(at:)` with the cast to the class of the cell, and its `didGet…`. -/
def didGet (form : AddPetForm) (position : Nat) (cell : PetRow) : Option String :=
  if form.isVisible position ∧ cellForRowAt position = some cell then some (form.text cell)
  else none

/-- What `didTapDoneAddPetButton` reads from the table. -/
def request (form : AddPetForm) (uid : Option String) : AddPet where
  uid := uid
  name := form.didGet 1 .name
  species := form.didGet 2 .species
  birthday := form.didGet 3 .birthday
  sex := form.didGet 4 .sex
  color := form.didGet 5 .color

/-- The document added to `myPet`. -/
def document (form : AddPetForm) (uid : Option String) (id : String) : Document :=
  .ofFields id (form.request uid).didTapDoneAddPetButton

/-- The document carries the entered texts. -/
def Keeps (form : AddPetForm) (uid : Option String) (id : String) : Prop :=
  ∀ cell : PetRow, (form.document uid id).string cell.key = some (form.text cell)

/-! ### What is stored -/

/-- The stored text of a row is the entered one if the row is on the screen, and empty
otherwise. -/
theorem string_document (form : AddPetForm) (uid : Option String) (id : String) (cell : PetRow) :
    (form.document uid id).string cell.key =
      some (if form.isVisible cell.row then form.text cell else "") := by
  have stored : (form.document uid id).string cell.key =
      some ((form.didGet cell.row cell).getD "") := by
    cases cell <;> rfl
  have ownRow : cellForRowAt cell.row = some cell := by
    cases cell <;> rfl
  rw [stored, didGet]
  by_cases visible : form.isVisible cell.row = true
  · rw [if_pos ⟨visible, ownRow⟩, if_pos visible, Option.getD_some]
  · rw [if_neg fun shown => visible shown.1, if_neg visible, Option.getD_none]

/-- A row keeps its text exactly when it is on the screen or was left empty. -/
theorem string_document_eq_iff {form : AddPetForm} {uid : Option String} {id : String}
    {cell : PetRow} :
    (form.document uid id).string cell.key = some (form.text cell) ↔
      (form.isVisible cell.row = false → form.text cell = "") := by
  rw [string_document]
  cases form.isVisible cell.row with
  | true => simp
  | false =>
      rw [if_neg Bool.false_ne_true, Option.some.injEq]
      constructor
      · intro empty _
        exact empty.symm
      · intro empty
        exact (empty rfl).symm

end AddPetForm

/-- **When saving a pet keeps every entered text.** The document carries the texts of the
five rows exactly when each of these rows that is not on the screen was left empty. -/
theorem saved_pet_keeps_iff (form : AddPetForm) (uid : Option String) (id : String) :
    form.Keeps uid id ↔
      ∀ cell : PetRow, form.isVisible cell.row = false → form.text cell = "" := by
  apply forall_congr'
  intro cell
  exact AddPetForm.string_document_eq_iff

namespace AddPetForm

/-! ### Which rows are on the screen -/

/-- `tableView(_:heightForRowAt:)`. -/
def heightForRowAt : Nat → ℚ
  | 0 => 150
  | 2 => 250
  | _ => 80

/-- Where a row begins. -/
def top : Nat → ℚ
  | 0 => 0
  | position + 1 => top position + heightForRowAt position

/-- A table of the given height, scrolled by `offset`, shows a part of the row. -/
def onScreen (height offset : ℚ) (position : Nat) : Bool :=
  top position < offset + height && offset < top position + heightForRowAt position

/-- A table of the given height comes to rest between the top and the end of its six
rows. -/
def Rests (height offset : ℚ) : Prop := 0 ≤ offset ∧ offset ≤ max 0 (top 6 - height)

theorem onScreen_iff {height offset : ℚ} {position : Nat} :
    onScreen height offset position = true ↔
      top position < offset + height ∧ offset < top position + heightForRowAt position := by
  simp [onScreen]

/-- The five rows are on the screen exactly when the name is not scrolled away and the
colour is reached. -/
theorem allVisible_iff {height offset : ℚ} :
    (∀ cell : PetRow, onScreen height offset cell.row = true) ↔
      offset < 230 ∧ 640 < offset + height := by
  constructor
  · intro visible
    have name := (onScreen_iff.mp (visible .name)).2
    have color := (onScreen_iff.mp (visible .color)).1
    norm_num [PetRow.row, top, heightForRowAt] at name color
    exact ⟨name, color⟩
  · rintro ⟨name, color⟩ cell
    rw [onScreen_iff]
    cases cell <;> norm_num [PetRow.row, top, heightForRowAt] <;> constructor <;> linarith

/-- **Which tables lose no text.** Whatever is entered and wherever the table rests, the
document carries the entered texts exactly when the table is higher than 640 points. -/
theorem keeps_everywhere_iff (height : ℚ) (uid : Option String) (id : String) :
    (∀ offset, Rests height offset → ∀ text : PetRow → String,
      Keeps ⟨text, onScreen height offset⟩ uid id) ↔ 640 < height := by
  have rows : top 6 = 720 := by norm_num [top, heightForRowAt]
  constructor
  · intro keeps
    -- at rest at the top, with a text in every row
    have visible : ∀ cell : PetRow, onScreen height 0 cell.row = true := by
      intro cell
      by_contra hidden
      have kept := keeps 0 ⟨le_rfl, le_max_left _ _⟩ (fun _ => "x") cell
      have empty := string_document_eq_iff.mp kept (Bool.eq_false_iff.mpr hidden)
      simp at empty
    have reached := (allVisible_iff.mp visible).2
    linarith
  · rintro high offset ⟨nonneg, within⟩ text cell
    have scrolled : offset < 230 ∧ 640 < offset + height := by
      rw [rows] at within
      rcases le_max_iff.mp within with top | bottom
      · exact ⟨by linarith, by linarith⟩
      · exact ⟨by linarith, by linarith⟩
    rw [string_document_eq_iff]
    intro hidden
    have shown := allVisible_iff.mpr scrolled cell
    exact absurd (hidden.symm.trans shown) Bool.false_ne_true

/-- On a table of 500 points that rests at the top, the sex and the colour entered below
are stored as empty. -/
theorem scrolled_to_top_loses_color :
    Rests 500 0 ∧
      (document ⟨fun _ => "entered", onScreen 500 0⟩ (some "an") "1").string "color" = some "" ∧
      ¬Keeps ⟨fun _ => "entered", onScreen 500 0⟩ (some "an") "1" := by
  have hidden : onScreen 500 0 PetRow.color.row = false := by
    rw [← Bool.not_eq_true, onScreen_iff]
    norm_num [PetRow.row, top, heightForRowAt]
  refine ⟨⟨le_rfl, le_max_left _ _⟩, ?_, ?_⟩
  · have stored := string_document ⟨fun _ => "entered", onScreen 500 0⟩ (some "an") "1" .color
    simp only [hidden, Bool.false_eq_true, if_false] at stored
    exact stored
  · intro keeps
    have empty := string_document_eq_iff.mp (keeps .color) hidden
    simp at empty

end AddPetForm

end PetApp
