import PetApp.Pet.AddPetForm
import PetApp.Pet.RecordCells

/-!
From the form to the detail screen: `PetHeathDetailVC.swift` with `DetailCell.swift`
and `InformationPetViewController.swift` with `InforPetTableViewCell.swift`, over the
list screens and the forms that write the records.

A tap on a row of a list hands its record to the detail screen, which is a table of
one row. Its cell replaces three missing texts by "--", but the reader leaves no text
of a record missing. The cells set their labels in a queued block, which runs once.

* `origin_step`, `origin_run` — every document goes back to a save or is foreign.
* `answered_run` — a record that is opened was part of an answer.
* `opened_of_fetches` — so the record opened on a list is one of the user's saves with
  the saved texts, or a foreign document under the user's uid.
* `label_saved` — the label of a row of the pet form: its text if the row was on the
  screen when the pet was saved.
* `details_show_entered` — what the detail screens show of what was entered.
-/

namespace PetApp

open Runs

/-! ### The cells of the detail screens -/

/-- The labels `DetailCell` sets. -/
structure DetailLabels where
  petName : Option String := none
  addressLabel : Option String := none
  startTime : Option String := none
  symptomLabel : Option String := none
  treatmentProcessLabel : Option String := none
  diagnosticLabel : Option String := none
  vaccinationLabel : Option String := none
  vacxinTypeLabel : Option String := none
  noteLabel : Option String := none
deriving DecidableEq

/-- The block of `DetailCell.didSetData`. -/
def DetailCell.didSetData (heatBook : HeathBook) : DetailLabels where
  petName := heatBook.petName
  addressLabel := heatBook.examinationPlace
  startTime := heatBook.createDate
  symptomLabel := heatBook.symptom
  treatmentProcessLabel := heatBook.treatmentProcess
  diagnosticLabel := heatBook.diagnostic
  vaccinationLabel := some (heatBook.vaccination.getD "--")
  vacxinTypeLabel := some (heatBook.vacxinType.getD "--")
  noteLabel := some (heatBook.note.getD "--")

/-- The labels of `InforPetTableViewCell`. -/
structure InforPetLabels where
  birthdayLabel : Option String := none
  colorLabel : Option String := none
  sexLabel : Option String := none
  speciesLabel : Option String := none
  nameLabel : Option String := none
deriving DecidableEq

/-- The block of `InforPetTableViewCell.didSetData`. -/
def InforPetTableViewCell.didSetData (petInfor : PetInformation) : InforPetLabels where
  birthdayLabel := petInfor.birthday
  colorLabel := petInfor.color
  sexLabel := petInfor.sex
  speciesLabel := petInfor.species
  nameLabel := petInfor.name

/-- What was entered on the form of a health record, label by label. -/
def NewPetHeathCell.entered (cell : NewPetHeathCell) : DetailLabels where
  petName := some (cell.petName.getD "")
  addressLabel := cell.examinationPlace
  startTime := some (cell.dayExamination.getD "")
  symptomLabel := some (cell.symptom.getD "")
  treatmentProcessLabel := some (cell.process.getD "")
  diagnosticLabel := some (cell.diagnostic.getD "")
  vaccinationLabel := some (cell.vaccinTimes.getD "")
  vacxinTypeLabel := some (cell.vaccinType.getD "")
  noteLabel := some (cell.note.getD "")

/-- The label for the text of a row of the form. -/
def InforPetLabels.label (labels : InforPetLabels) : PetRow → Option String
  | .name => labels.nameLabel
  | .species => labels.speciesLabel
  | .birthday => labels.birthdayLabel
  | .sex => labels.sexLabel
  | .color => labels.colorLabel

/-- A stored request of a health record has a cell, and its record shows what was
entered there. -/
theorem NewPetHeath.didSetData_saved {request : NewPetHeath} {data : List (String × Value)}
    (stored : request.didAddNewPetHeath = some data) :
    ∃ cell, request.cell = some cell ∧ DetailCell.didSetData request.saved = cell.entered := by
  obtain ⟨cell, place, onScreen, hasPlace⟩ := didAddNewPetHeath_eq_some stored
  refine ⟨cell, onScreen, ?_⟩
  simp [DetailCell.didSetData, saved, text, onScreen, hasPlace, NewPetHeathCell.entered]

namespace AddPetForm

/-- The label of a row shows the text that was stored for it. -/
theorem label_saved (form : AddPetForm) (uid : Option String) (cell : PetRow) :
    (InforPetTableViewCell.didSetData (form.request uid).saved).label cell =
      some (if form.isVisible cell.row then form.text cell else "") := by
  have stored : (InforPetTableViewCell.didSetData (form.request uid).saved).label cell =
      (form.document uid "").string cell.key := by
    cases cell <;> rfl
  rw [stored, string_document]

/-- The detail screen shows everything that was entered exactly when each row off the
screen was left empty. -/
theorem label_saved_eq_text_iff (form : AddPetForm) (uid : Option String) :
    (∀ cell, (InforPetTableViewCell.didSetData (form.request uid).saved).label cell =
      some (form.text cell)) ↔
      ∀ cell : PetRow, form.isVisible cell.row = false → form.text cell = "" := by
  apply forall_congr'
  intro cell
  rw [label_saved, ← string_document form uid "" cell]
  exact string_document_eq_iff

end AddPetForm

/-! ### Where a record comes from -/

namespace RecordFormat

/-- The writer on the larger requests from which it reads its own. -/
def comap {χ χ' ρ : Type} (format : RecordFormat χ ρ) (reads : χ' → χ) : RecordFormat χ' ρ where
  uid := format.uid ∘ reads
  fields := format.fields ∘ reads
  read := format.read
  uId := format.uId
  complete := format.complete ∘ reads
  saved := format.saved ∘ reads
  stored request := format.stored (reads request)
  owner := format.owner
  roundTrip request := format.roundTrip (reads request)

end RecordFormat

/-- The form of a pet and the uid of `UserManager` when the button is tapped. -/
structure PetSave where
  form : AddPetForm
  uid : Option String

/-- Pets, with the whole form of each save. -/
def PetSave.format : RecordFormat PetSave PetInformation :=
  AddPet.format.comap fun save => save.form.request save.uid

namespace RecordFormat

variable {χ ρ : Type} {format : RecordFormat χ ρ}

/-- A document goes back to a save among the events, or is foreign. -/
def Origin (format : RecordFormat χ ρ) (events : List (RecordEvent χ)) (document : Document) : Prop :=
  (∃ request id position data, .save request id position ∈ events ∧
    format.fields request = some data ∧ document = .ofFields id data) ∨
  ∃ position, .foreign document position ∈ events

/-- Every document goes back to an event. -/
theorem origin_step {events : List (RecordEvent χ)} {entries next : List (Entry χ)}
    {event : RecordEvent χ} (member : event ∈ events)
    (known : ∀ entry ∈ entries, format.Origin events entry.document)
    (stepped : format.step entries event = some next) :
    ∀ entry ∈ next, format.Origin events entry.document := by
  intro entry found
  cases event with
  | save request id position =>
      simp only [step] at stepped
      split at stepped
      · cases stepped
        exact known entry found
      · rename_i data wrote
        rcases List.mem_cons.mp ((addEntry_perm stepped).subset found) with rfl | old
        · exact .inl ⟨request, id, position, data, member, wrote, rfl⟩
        · exact known entry old
  | foreign document position =>
      rcases List.mem_cons.mp ((addEntry_perm stepped).subset found) with rfl | old
      · exact .inr ⟨position, member⟩
      · exact known entry old

theorem origin_run {events : List (RecordEvent χ)} {entries : List (Entry χ)}
    (reached : run format.step [] events = some entries) :
    ∀ entry ∈ entries, format.Origin events entry.document := by
  have always : Always format.step
      (fun entries => ∀ entry ∈ entries, format.Origin events entry.document) [] events := by
    apply always_of_steps
    · intro s event member t known stepped
      exact origin_step member known stepped
    · intro entry member
      cases member
  exact always.last reached

/-- A record a user is shown is one of the user's saves, or a foreign document under the
user's uid. -/
theorem read_origin {events : List (RecordEvent χ)} {document : Document} {u : String}
    (named : u ≠ "") (origin : format.Origin events document)
    (owner : format.uId (format.read document) = some u) :
    (∃ request id position data, .save request id position ∈ events ∧
      format.fields request = some data ∧ format.uid request = some u ∧
      format.read document = format.saved request) ∨
    ∃ position, .foreign document position ∈ events := by
  rcases origin with ⟨request, id, position, data, member, wrote, rfl⟩ | foreign
  · obtain ⟨hasUid, read⟩ := format.roundTrip request data id wrote
    refine .inl ⟨request, id, position, data, member, wrote, ?_, read⟩
    rw [format.owner, hasUid, Option.getD_some] at owner
    cases signedIn : format.uid request with
    | some uid =>
        rw [signedIn] at owner
        exact owner
    | none =>
        rw [signedIn] at owner
        exact absurd (Option.some.inj owner).symm named
  · exact .inr foreign

end RecordFormat

/-! ### From the list to the detail screen -/

/-- The record was part of an answer. -/
def Answered {ρ : Type} (events : List (RecordTableEvent ρ)) (record : ρ) : Prop :=
  ∃ records, .setData records ∈ events ∧ record ∈ records

/-- The records of a table and the one it has opened were part of an answer. -/
theorem answered_run {ρ ℓ : Type} {kind : CellKind ρ ℓ} {events : List (RecordTableEvent ρ)}
    {s : RecordTable ρ ℓ} (reached : run (RecordTable.step kind) (.empty kind) events = some s) :
    (∀ record ∈ s.records, Answered events record) ∧
      ∀ record ∈ s.opened, Answered events record := by
  have always : Always (RecordTable.step kind) (fun s =>
      (∀ record ∈ s.records, Answered events record) ∧
        ∀ record ∈ s.opened, Answered events record) (.empty kind) events := by
    apply always_of_steps
    · rintro s event member t ⟨known, opened⟩ stepped
      rcases RecordTable.step_cases stepped with ⟨records, rfl, rfl⟩ |
        ⟨_, _, _, _, _, -, -, -, rfl⟩ | ⟨_, _, -, -, rfl⟩ | ⟨_, -, -, rfl⟩ |
        ⟨row, _, record, -, -, found, rfl⟩
      · exact ⟨fun record here => ⟨records, member, here⟩, opened⟩
      · exact ⟨known, opened⟩
      · exact ⟨known, opened⟩
      · exact ⟨known, opened⟩
      · refine ⟨known, ?_⟩
        rintro _ ⟨⟩
        exact known record (List.mem_of_getElem? found)
    · constructor
      · intro record member
        cases member
      · intro record member
        cases member
  exact always.last reached

namespace RecordFormat

variable {χ ρ ℓ : Type} {format : RecordFormat χ ρ}

/-- An answer to the fetch of a user, at some moment of the run of the collection: what
`setData` makes of the documents of that moment. -/
def FetchedFrom (format : RecordFormat χ ρ) (setData : Option String → List Document → List ρ)
    (u : String) (events : List (RecordEvent χ)) (records : List ρ) : Prop :=
  ∃ pre post entries, events = pre ++ post ∧ run format.step [] pre = some entries ∧
    records = setData (some u) (entries.map Entry.document)

/-- What can be opened on a list whose answers come from the collection. -/
theorem opened_of_fetches {u : String} (named : u ≠ "")
    {setData : Option String → List Document → List ρ}
    (reads : ∀ documents, setData (some u) documents =
      (documents.map format.read).filter fun record => format.uId record == some u)
    {events : List (RecordEvent χ)} {kind : CellKind ρ ℓ} {tableEvents : List (RecordTableEvent ρ)}
    (fetches : ∀ records, .setData records ∈ tableEvents →
      format.FetchedFrom setData u events records)
    {s : RecordTable ρ ℓ} (reached : run (RecordTable.step kind) (.empty kind) tableEvents = some s)
    {record : ρ} (opened : s.opened = some record) :
    format.uId record = some u ∧
      ((∃ request id position data, .save request id position ∈ events ∧
        format.fields request = some data ∧ format.uid request = some u ∧
        record = format.saved request) ∨
      ∃ document position, .foreign document position ∈ events ∧ record = format.read document) := by
  obtain ⟨records, answered, member⟩ := (answered_run reached).2 record opened
  obtain ⟨pre, post, entries, rfl, ran, rfl⟩ := fetches records answered
  rw [reads] at member
  obtain ⟨inDocuments, owner⟩ := List.mem_filter.mp member
  obtain ⟨document, inEntries, rfl⟩ := List.mem_map.mp inDocuments
  obtain ⟨entry, inCollection, rfl⟩ := List.mem_map.mp inEntries
  have owns := beq_iff_eq.mp owner
  refine ⟨owns, ?_⟩
  rcases read_origin named (origin_run ran entry inCollection) owns with
    ⟨request, id, position, data, saved, wrote, signedIn, read⟩ | ⟨position, foreign⟩
  · exact .inl ⟨request, id, position, data, List.mem_append_left _ saved, wrote, signedIn, read⟩
  · exact .inr ⟨entry.document, position, List.mem_append_left _ foreign, rfl⟩

end RecordFormat

/-- **What the detail screens show of what was entered.** For every user, every run of saves
by any users and of foreign documents, and every run of a list screen of the user whose answers
come from that run at any moments: the record a tap hands to the detail screen is under the
user's uid. If it is not a foreign document then the user saved it. The detail screen of a
health record shows the texts of the form, label by label. That of a pet shows the texts of the
rows that were on the screen when the pet was saved, and an empty text for the others, so all
that was entered exactly when each row off the screen was left empty. -/
theorem details_show_entered (u : String) (named : u ≠ "") :
    (∀ events nib tableEvents s record,
      (∀ records, .setData records ∈ tableEvents →
        NewPetHeath.format.FetchedFrom PetHealthBookViewController.setData u events records) →
      run (RecordTable.step (HealthBookTableViewCell.kind nib))
        (.empty (HealthBookTableViewCell.kind nib)) tableEvents = some s →
      s.opened = some record →
      record.uId = some u ∧
        ((∃ request cell id position, .save request id position ∈ events ∧ request.uid = some u ∧
          request.cell = some cell ∧ DetailCell.didSetData record = cell.entered) ∨
        ∃ document position, .foreign document position ∈ events ∧
          record = .ofDocument document)) ∧
    ∀ events nib tableEvents s record,
      (∀ records, .setData records ∈ tableEvents →
        PetSave.format.FetchedFrom ListPetViewController.setPetData u events records) →
      run (RecordTable.step (ListPetTableViewCell.kind nib))
        (.empty (ListPetTableViewCell.kind nib)) tableEvents = some s →
      s.opened = some record →
      record.uId = some u ∧
        ((∃ form id position, .save ⟨form, some u⟩ id position ∈ events ∧
          (∀ cell, (InforPetTableViewCell.didSetData record).label cell =
            some (if form.isVisible cell.row then form.text cell else "")) ∧
          ((∀ cell, (InforPetTableViewCell.didSetData record).label cell =
            some (form.text cell)) ↔
            ∀ cell : PetRow, form.isVisible cell.row = false → form.text cell = "")) ∨
        ∃ document position, .foreign document position ∈ events ∧
          record = .ofDocument document) := by
  constructor
  · intro events nib tableEvents s record fetches reached opened
    obtain ⟨owns, ⟨request, id, position, data, saved, wrote, signedIn, rfl⟩ | foreign⟩ :=
      RecordFormat.opened_of_fetches named (fun _ => rfl) fetches reached opened
    · obtain ⟨cell, onScreen, shows⟩ := NewPetHeath.didSetData_saved wrote
      exact ⟨owns, .inl ⟨request, cell, id, position, saved, signedIn, onScreen, shows⟩⟩
    · exact ⟨owns, .inr foreign⟩
  · intro events nib tableEvents s record fetches reached opened
    obtain ⟨owns, ⟨⟨form, uid⟩, id, position, data, saved, -, signedIn, rfl⟩ | foreign⟩ :=
      RecordFormat.opened_of_fetches named (fun _ => rfl) fetches reached opened
    · cases (signedIn : uid = some u)
      exact ⟨owns, .inl ⟨form, id, position, saved, form.label_saved (some u),
        form.label_saved_eq_text_iff (some u)⟩⟩
    · exact ⟨owns, .inr foreign⟩

/-- A list is loaded, its first row comes to the screen and is tapped. -/
def opensFirst {ρ : Type} (records : List ρ) : List (RecordTableEvent ρ) :=
  [.setData records, .cellForRowAt 0 none, .didSelectRowAt 0]

theorem setData_mem_opensFirst {ρ : Type} {records answer : List ρ} :
    .setData answer ∈ opensFirst records ↔ answer = records := by
  simp [opensFirst]

/-- A form whose last row, the colour, was scrolled off the screen. -/
def rexForm : AddPetForm where
  text
    | .name => "Rex"
    | .species => "dog"
    | .birthday => "1/2/2020"
    | .sex => "male"
    | .color => "brown"
  isVisible position := position < 5

/-- A pet of each of two users. -/
def rexAndTom : List (RecordEvent PetSave) :=
  [.save ⟨rexForm, some "alice"⟩ "p" 0, .save ⟨⟨fun _ => "Tom", fun _ => true⟩, some "bob"⟩ "q" 0]

/-- The pets of Alice. -/
def aliceRex : List PetInformation :=
  [⟨some "1/2/2020", some "", some "Rex", some "male", some "dog", some "alice"⟩]

/-- A health record of each of two users. -/
def rexIll : List (RecordEvent NewPetHeath) :=
  [.save ⟨some "bob", some ⟨some "Tom", none, some "home", none, none, none, none, none, none⟩⟩
      "q" 0,
    .save ⟨some "alice", some ⟨some "Rex", some "1/2/2022", some "clinic", some "cough",
      some "flu", some "2", some "rabies", some "rest", none⟩⟩ "p" 0]

/-- The health records of Alice. -/
def aliceRexIll : List HeathBook :=
  [⟨some "Rex", some "1/2/2022", some "rest", some "alice", some "flu", some "clinic",
    some "cough", some "", some "2", some "rabies"⟩]

/-- The detail screens show Alice the health record and the pet she entered; the colour, off
the screen when she saved the pet, is empty. -/
theorem details_show_entered_rex :
    (∃ s record, run (RecordTable.step (HealthBookTableViewCell.kind {}))
        (.empty (HealthBookTableViewCell.kind {})) (opensFirst aliceRexIll) = some s ∧
      s.opened = some record ∧ record.uId = some "alice" ∧
      DetailCell.didSetData record = ⟨some "Rex", some "clinic", some "1/2/2022", some "cough",
        some "rest", some "flu", some "2", some "rabies", some ""⟩) ∧
    ∃ s record, run (RecordTable.step (ListPetTableViewCell.kind {}))
        (.empty (ListPetTableViewCell.kind {})) (opensFirst aliceRex) = some s ∧
      s.opened = some record ∧ record.uId = some "alice" ∧
      InforPetTableViewCell.didSetData record =
        ⟨some "1/2/2020", some "", some "male", some "dog", some "Rex"⟩ := by
  have heathFetches : ∀ records, .setData records ∈ opensFirst aliceRexIll →
      NewPetHeath.format.FetchedFrom PetHealthBookViewController.setData "alice" rexIll records := by
    intro records member
    rw [setData_mem_opensFirst.mp member]
    exact ⟨rexIll, [], _, rfl, rfl, rfl⟩
  have petFetches : ∀ records, .setData records ∈ opensFirst aliceRex →
      PetSave.format.FetchedFrom ListPetViewController.setPetData "alice" rexAndTom records := by
    intro records member
    rw [setData_mem_opensFirst.mp member]
    exact ⟨rexAndTom, [], _, rfl, rfl, rfl⟩
  obtain ⟨heaths, pets⟩ := details_show_entered "alice" (by decide)
  obtain ⟨heathOwner, -⟩ := heaths rexIll {} (opensFirst aliceRexIll) _ _ heathFetches rfl rfl
  obtain ⟨petOwner, -⟩ := pets rexAndTom {} (opensFirst aliceRex) _ _ petFetches rfl rfl
  exact ⟨⟨_, _, rfl, rfl, heathOwner, rfl⟩, ⟨_, _, rfl, rfl, petOwner, rfl⟩⟩

end PetApp
