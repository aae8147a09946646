import PetApp.Lib.Runs
import PetApp.Platform.Firestore

/-!
Pets and health records in the database: `AddPetViewController.swift` and
`NewPetHeathVC.swift` write them, `ListPetViewController.swift` and
`PetHealthBookViewController.swift` read them back.

Writer and reader each list the keys by hand, the reader defaults every missing
field to the empty text and keeps the records whose `uId` is that of the signed-in
user. The collections are shared by all users and may hold documents the app
never wrote.

`RecordFormat` is a writer with the reader of the same collection.

* `AddPet.format`, `NewPetHeath.format` — the two pairs; their fields `stored` and
  `roundTrip` say which requests are written, and that the reader returns every text
  of the form.
* `kept_step`, `kept_run` — a run of saves and foreign documents stores each save
  once, as the writer wrote it.
* `readsBack_of_kept` — so a user reads, in order, the documents under the user's
  uid, among them exactly the user's own saves.
* `records_read_back` — the two collections together, for every run.
-/

namespace PetApp

open Runs

/-! ### Writers with their readers -/

/-- A writer of documents and the reader of its collection. -/
structure RecordFormat (χ ρ : Type) where
  /-- The uid `UserManager` holds when the save is requested. -/
  uid : χ → Option String
  /-- The map passed to `addDocument`; `none` when the request is dropped. -/
  fields : χ → Option (List (String × Value))
  /-- The record made of a document. -/
  read : Document → ρ
  uId : ρ → Option String
  /-- The form has every text without which the request is dropped. -/
  complete : χ → Bool
  /-- The record with the texts of the request. -/
  saved : χ → ρ
  stored : ∀ request, (fields request).isSome = complete request
  owner : ∀ document, uId (read document) = some ((document.string "uId").getD "")
  roundTrip : ∀ request data id, fields request = some data →
    (Document.ofFields id data).string "uId" = some ((uid request).getD "") ∧
      read (.ofFields id data) = saved request

/-- What `AddPetViewController` reads when the button is tapped: the uid, and the
text of each cell, `none` for a cell that is not on the screen. -/
structure AddPet where
  uid : Option String
  name : Option String
  species : Option String
  birthday : Option String
  sex : Option String
  color : Option String
deriving DecidableEq

/-- `PetInformation.swift`. -/
structure PetInformation where
  birthday : Option String
  color : Option String
  name : Option String
  sex : Option String
  species : Option String
  uId : Option String
deriving DecidableEq

namespace AddPet

/-- The map `didTapDoneAddPetButton` stores. -/
def didTapDoneAddPetButton (request : AddPet) : List (String × Value) :=
  [("name", .string (request.name.getD "")),
    ("sex", .string (request.sex.getD "")),
    ("color", .string (request.color.getD "")),
    ("birthday", .string (request.birthday.getD "")),
    ("species", .string (request.species.getD "")),
    ("uId", .string (request.uid.getD ""))]

/-- The five texts that are stored, and the uid. -/
def saved (request : AddPet) : PetInformation where
  birthday := some (request.birthday.getD "")
  color := some (request.color.getD "")
  name := some (request.name.getD "")
  sex := some (request.sex.getD "")
  species := some (request.species.getD "")
  uId := some (request.uid.getD "")

end AddPet

/-- The record `setPetData` makes of a document. -/
def PetInformation.ofDocument (document : Document) : PetInformation where
  name := some ((document.string "name").getD "")
  birthday := some ((document.string "birthday").getD "")
  color := some ((document.string "color").getD "")
  sex := some ((document.string "sex").getD "")
  species := some ((document.string "species").getD "")
  uId := some ((document.string "uId").getD "")

/-- `ListPetViewController.setPetData` with the given uid signed in. -/
def ListPetViewController.setPetData (uid : Option String) (documents : List Document) :
    List PetInformation :=
  (documents.map PetInformation.ofDocument).filter fun petInfor => petInfor.uId == uid

/-- Pets. -/
def AddPet.format : RecordFormat AddPet PetInformation where
  uid := AddPet.uid
  fields request := some request.didTapDoneAddPetButton
  read := PetInformation.ofDocument
  uId := PetInformation.uId
  complete _ := true
  saved := AddPet.saved
  stored _ := rfl
  owner _ := rfl
  roundTrip := by
    rintro request data id ⟨⟩
    exact ⟨rfl, rfl⟩

/-- `HeathBook.swift`. -/
structure HeathBook where
  petName : Option String := none
  createDate : Option String := none
  treatmentProcess : Option String := none
  uId : Option String := none
  diagnostic : Option String := none
  examinationPlace : Option String := none
  symptom : Option String := none
  note : Option String := none
  vaccination : Option String := none
  vacxinType : Option String := none
deriving DecidableEq

/-- The texts of `NewPetHeathCell`, `none` for a field without one. -/
structure NewPetHeathCell where
  petName : Option String
  dayExamination : Option String
  examinationPlace : Option String
  symptom : Option String
  diagnostic : Option String
  vaccinTimes : Option String
  vaccinType : Option String
  process : Option String
  note : Option String
deriving DecidableEq

/-- `didGetData`. The place of the examination is the only text without a
default. -/
def NewPetHeathCell.didGetData (cell : NewPetHeathCell) : HeathBook where
  vacxinType := some (cell.vaccinType.getD "")
  vaccination := some (cell.vaccinTimes.getD "")
  petName := some (cell.petName.getD "")
  note := some (cell.note.getD "")
  treatmentProcess := some (cell.process.getD "")
  createDate := some (cell.dayExamination.getD "")
  diagnostic := some (cell.diagnostic.getD "")
  symptom := some (cell.symptom.getD "")
  examinationPlace := cell.examinationPlace

/-- What `NewPetHeathVC` reads when a record is added: the uid, and its cell when
that is on the screen. -/
structure NewPetHeath where
  uid : Option String
  cell : Option NewPetHeathCell
deriving DecidableEq

namespace NewPetHeath

/-- `data` of `didAddNewPetHeath`. -/
def data (request : NewPetHeath) : HeathBook :=
  (request.cell.map NewPetHeathCell.didGetData).getD {}

/-- The map `didAddNewPetHeath` stores; nothing is stored when a text is missing. -/
def didAddNewPetHeath (request : NewPetHeath) : Option (List (String × Value)) := do
  let petName ← request.data.petName
  let examinationPlace ← request.data.examinationPlace
  let symptom ← request.data.symptom
  let createDate ← request.data.createDate
  let diagnostic ← request.data.diagnostic
  let note ← request.data.note
  let vaccination ← request.data.vaccination
  let vacxinType ← request.data.vacxinType
  let treatmentProcess ← request.data.treatmentProcess
  return [("petName", .string petName),
    ("examinationPlace", .string examinationPlace),
    ("symptom", .string symptom),
    ("createDate", .string createDate),
    ("diagnostic", .string diagnostic),
    ("note", .string note),
    ("vaccination", .string vaccination),
    ("vacxinType", .string vacxinType),
    ("treatmentProcess", .string treatmentProcess),
    ("uId", .string (request.uid.getD ""))]

/-- The text of a field of the form; empty for a field without one. -/
def text (request : NewPetHeath) (field : NewPetHeathCell → Option String) : String :=
  (request.cell.bind field).getD ""

/-- The cell is on the screen, with a text for the place of the examination. -/
def complete (request : NewPetHeath) : Bool := (request.cell.bind (·.examinationPlace)).isSome

/-- The nine texts of the form, and the uid. -/
def saved (request : NewPetHeath) : HeathBook where
  petName := some (request.text (·.petName))
  createDate := some (request.text (·.dayExamination))
  treatmentProcess := some (request.text (·.process))
  uId := some (request.uid.getD "")
  diagnostic := some (request.text (·.diagnostic))
  examinationPlace := some (request.text (·.examinationPlace))
  symptom := some (request.text (·.symptom))
  note := some (request.text (·.note))
  vaccination := some (request.text (·.vaccinTimes))
  vacxinType := some (request.text (·.vaccinType))

end NewPetHeath

/-- The record `setData` makes of a document. -/
def HeathBook.ofDocument (document : Document) : HeathBook where
  petName := some ((document.string "petName").getD "")
  createDate := some ((document.string "createDate").getD "")
  treatmentProcess := some ((document.string "treatmentProcess").getD "")
  diagnostic := some ((document.string "diagnostic").getD "")
  examinationPlace := some ((document.string "examinationPlace").getD "")
  symptom := some ((document.string "symptom").getD "")
  uId := some ((document.string "uId").getD "")
  note := some ((document.string "note").getD "")
  vaccination := some ((document.string "vaccination").getD "")
  vacxinType := some ((document.string "vacxinType").getD "")

/-- `PetHealthBookViewController.setData` with the given uid signed in. -/
def PetHealthBookViewController.setData (uid : Option String) (documents : List Document) :
    List HeathBook :=
  (documents.map HeathBook.ofDocument).filter fun heathBook => heathBook.uId == uid

/-- Nothing but a missing cell or place of the examination drops a request. -/
theorem NewPetHeath.isSome_didAddNewPetHeath (request : NewPetHeath) :
    request.didAddNewPetHeath.isSome = request.complete := by
  obtain ⟨uid, _ | ⟨_, _, _ | place, _, _, _, _, _, _⟩⟩ := request
  · rfl
  · rfl
  · rfl

/-- A request that is stored has a cell with a place of the examination. -/
theorem NewPetHeath.didAddNewPetHeath_eq_some {request : NewPetHeath} {data : List (String × Value)}
    (stored : request.didAddNewPetHeath = some data) :
    ∃ cell place, request.cell = some cell ∧ cell.examinationPlace = some place := by
  have complete : request.complete = true := by
    rw [← isSome_didAddNewPetHeath, stored, Option.isSome_some]
  obtain ⟨place, found⟩ := Option.isSome_iff_exists.mp complete
  obtain ⟨cell, onScreen, hasPlace⟩ := Option.bind_eq_some_iff.mp found
  exact ⟨cell, place, onScreen, hasPlace⟩

/-- Health records. -/
def NewPetHeath.format : RecordFormat NewPetHeath HeathBook where
  uid := NewPetHeath.uid
  fields := NewPetHeath.didAddNewPetHeath
  read := HeathBook.ofDocument
  uId := HeathBook.uId
  complete := NewPetHeath.complete
  saved := NewPetHeath.saved
  stored := isSome_didAddNewPetHeath
  owner _ := rfl
  roundTrip := by
    intro request data id stored
    obtain ⟨cell, place, onScreen, hasPlace⟩ := didAddNewPetHeath_eq_some stored
    obtain ⟨uid, _⟩ := request
    obtain ⟨_, _, _, _, _, _, _, _, _⟩ := cell
    cases onScreen
    cases hasPlace
    cases stored
    exact ⟨rfl, rfl⟩

/-! ### A collection with its history -/

/-- A document of a collection, with the request of the app it comes from, if it
comes from one. -/
structure Entry (χ : Type) where
  document : Document
  request : Option χ

inductive RecordEvent (χ : Type) where
  /-- A save; Firestore chooses the id and so the place in query order. -/
  | save (request : χ) (id : String) (position : Nat)
  /-- A document that is not written by the app. -/
  | foreign (document : Document) (position : Nat)

/-- The collection with one more entry; an id in use cannot be used again. -/
def addEntry {χ : Type} (entry : Entry χ) (position : Nat) (entries : List (Entry χ)) :
    Option (List (Entry χ)) :=
  if entry.document.id ∈ entries.map (fun e => e.document.id) then none
  else some (entries.take position ++ entry :: entries.drop position)

theorem addEntry_perm {χ : Type} {entry : Entry χ} {position : Nat} {entries next : List (Entry χ)}
    (added : addEntry entry position entries = some next) : next.Perm (entry :: entries) := by
  unfold addEntry at added
  split at added
  · cases added
  · cases added
    exact Lists.perm_take_cons_drop position entry entries

namespace RecordFormat

variable {χ ρ : Type} (format : RecordFormat χ ρ)

/-- One event of the collection. -/
def step (entries : List (Entry χ)) : RecordEvent χ → Option (List (Entry χ))
  | .save request id position =>
      match format.fields request with
      | none => some entries
      | some data => addEntry ⟨.ofFields id data, some request⟩ position entries
  | .foreign document position => addEntry ⟨document, none⟩ position entries

/-- The request an event has to store. -/
def stores : RecordEvent χ → Option χ
  | .save request _ _ => if format.complete request then some request else none
  | .foreign _ _ => none

/-- The collection holds each of the requests once, as the writer wrote it. -/
structure Kept (requests : List χ) (entries : List (Entry χ)) : Prop where
  once : (entries.filterMap Entry.request).Perm requests
  written : ∀ entry ∈ entries, ∀ request ∈ entry.request,
    ∃ data id, format.fields request = some data ∧ entry.document = .ofFields id data

/-- What a user is shown of a collection: one record per document under the
user's uid, in order, each of the user's saves with the texts that were saved,
and no record of anyone else. -/
structure ReadsBack (u : String) (requests : List χ) (entries : List (Entry χ))
    (records : List ρ) : Prop where
  once : (entries.filterMap Entry.request).Perm requests
  perDocument : records = ((entries.map Entry.document).filter fun document =>
    document.string "uId" == some u).map format.read
  own : ∀ entry ∈ entries, ∀ request ∈ entry.request, format.uid request = some u →
    entry.document.string "uId" = some u ∧ format.read entry.document = format.saved request
  others : ∀ entry ∈ entries, ∀ request ∈ entry.request, format.uid request ≠ some u →
    entry.document.string "uId" ≠ some u
  noLeak : ∀ record ∈ records, format.uId record = some u

section Facts

variable {format : RecordFormat χ ρ} {requests : List χ} {entries next : List (Entry χ)}

theorem kept_add (kept : format.Kept requests entries) {entry : Entry χ} {position : Nat}
    (written : ∀ request ∈ entry.request, ∃ data id, format.fields request = some data ∧
      entry.document = .ofFields id data)
    (added : addEntry entry position entries = some next) :
    format.Kept (requests ++ entry.request.toList) next := by
  have perm := addEntry_perm added
  constructor
  · have once : (next.filterMap Entry.request).Perm
        (entry.request.toList ++ entries.filterMap Entry.request) := by
      have moved := perm.filterMap Entry.request
      cases asked : entry.request <;> simpa [List.filterMap_cons, asked] using moved
    exact once.trans ((kept.once.append_left _).trans List.perm_append_comm)
  · intro e member
    rcases List.mem_cons.mp (perm.subset member) with rfl | old
    · exact written
    · exact kept.written e old

/-- One event stores what it asks for, once. -/
theorem kept_step (kept : format.Kept requests entries) {event : RecordEvent χ}
    (stepped : format.step entries event = some next) :
    format.Kept (requests ++ (format.stores event).toList) next := by
  cases event with
  | save request id position =>
      simp only [step] at stepped
      split at stepped
      · rename_i dropped
        cases stepped
        have incomplete : format.complete request = false := by
          rw [← format.stored, dropped, Option.isSome_none]
        simpa [stores, incomplete] using kept
      · rename_i data wrote
        have asked : format.stores (.save request id position) = some request := by
          simp [stores, ← format.stored, wrote]
        rw [asked]
        have written : ∀ request' ∈ some request, ∃ data' id', format.fields request' = some data' ∧
            Document.ofFields id data = .ofFields id' data' := by
          rintro request' ⟨⟩
          exact ⟨data, id, wrote, rfl⟩
        exact kept_add kept written stepped
  | foreign document position =>
      have written : ∀ request ∈ (none : Option χ), ∃ data id, format.fields request = some data ∧
          document = .ofFields id data := by
        rintro request ⟨⟩
      exact kept_add kept written stepped

/-- The reader keeps the documents under the uid. -/
theorem filter_read (format : RecordFormat χ ρ) {u : String} (named : u ≠ "")
    (documents : List Document) :
    (documents.map format.read).filter (fun record => format.uId record == some u) =
      (documents.filter fun document => document.string "uId" == some u).map format.read := by
  rw [List.filter_map]
  congr 1
  apply List.filter_congr
  intro document _
  simp only [Function.comp_apply, format.owner]
  cases document.string "uId" with
  | none => simp [Ne.symm named]
  | some uId => rfl

theorem readsBack_of_kept (kept : format.Kept requests entries) {u : String} (named : u ≠ "") :
    format.ReadsBack u requests entries
      (((entries.map Entry.document).map format.read).filter fun record =>
        format.uId record == some u) := by
  refine ⟨kept.once, filter_read format named _, ?_, ?_, ?_⟩
  · intro entry member request asked own
    obtain ⟨data, id, wrote, document⟩ := kept.written entry member request asked
    obtain ⟨owner, read⟩ := format.roundTrip request data id wrote
    rw [document]
    exact ⟨by rw [owner, own]; rfl, read⟩
  · intro entry member request asked other
    obtain ⟨data, id, wrote, document⟩ := kept.written entry member request asked
    rw [document, (format.roundTrip request data id wrote).1]
    -- a request without a uid is stored under the empty one
    cases signedIn : format.uid request with
    | none => simpa using Ne.symm named
    | some uid =>
        rw [signedIn] at other
        exact other
  · intro record member
    exact beq_iff_eq.mp (List.mem_filter.mp member).2

end Facts

end RecordFormat

/-! ### Both collections -/

/-- The collections `myPet` and `heathBook`. -/
structure PetDatabase where
  myPet : List (Entry AddPet) := []
  heathBook : List (Entry NewPetHeath) := []

inductive PetEvent where
  | pet (event : RecordEvent AddPet)
  | heath (event : RecordEvent NewPetHeath)

namespace PetDatabase

def step (s : PetDatabase) : PetEvent → Option PetDatabase
  | .pet event => (AddPet.format.step s.myPet event).map fun entries => { s with myPet := entries }
  | .heath event =>
      (NewPetHeath.format.step s.heathBook event).map fun entries => { s with heathBook := entries }

/-- The pets a run stores. -/
def petSaves (events : List PetEvent) : List AddPet :=
  events.filterMap fun
    | .pet event => AddPet.format.stores event
    | .heath _ => none

/-- The health records a run stores. -/
def heathSaves (events : List PetEvent) : List NewPetHeath :=
  events.filterMap fun
    | .pet _ => none
    | .heath event => NewPetHeath.format.stores event

/-- A run keeps each of its saves in both collections. -/
theorem kept_run {s t : PetDatabase} {pets : List AddPet} {heaths : List NewPetHeath}
    (keptPets : AddPet.format.Kept pets s.myPet)
    (keptHeaths : NewPetHeath.format.Kept heaths s.heathBook) {events : List PetEvent}
    (reached : run step s events = some t) :
    AddPet.format.Kept (pets ++ petSaves events) t.myPet ∧
      NewPetHeath.format.Kept (heaths ++ heathSaves events) t.heathBook := by
  induction events generalizing s pets heaths with
  | nil =>
      cases reached
      simpa [petSaves, heathSaves] using ⟨keptPets, keptHeaths⟩
  | cons event events ih =>
      obtain ⟨m, stepped, tail⟩ := run_cons_eq_some.mp reached
      cases event with
      | pet event =>
          obtain ⟨entries, changed, rfl⟩ := Option.map_eq_some_iff.mp stepped
          have next := RecordFormat.kept_step keptPets changed
          have later := ih (s := { s with myPet := entries }) next keptHeaths tail
          cases asked : AddPet.format.stores event <;>
            simpa [petSaves, heathSaves, asked] using later
      | heath event =>
          obtain ⟨entries, changed, rfl⟩ := Option.map_eq_some_iff.mp stepped
          have next := RecordFormat.kept_step keptHeaths changed
          have later := ih (s := { s with heathBook := entries }) keptPets next tail
          cases asked : NewPetHeath.format.stores event <;>
            simpa [petSaves, heathSaves, asked] using later

/-- **Pets and health records are read back as they were saved.** After every run
of saves by any users, mixed with any foreign documents, each user is shown one
record per document under the user's uid, in order: each of the user's own saves
with every text that was saved, and no record of anyone else. -/
theorem records_read_back (events : List PetEvent) (t : PetDatabase)
    (reached : run step {} events = some t) (u : String) (named : u ≠ "") :
    AddPet.format.ReadsBack u (petSaves events) t.myPet
        (ListPetViewController.setPetData (some u) (t.myPet.map Entry.document)) ∧
      NewPetHeath.format.ReadsBack u (heathSaves events) t.heathBook
        (PetHealthBookViewController.setData (some u) (t.heathBook.map Entry.document)) := by
  have noPets : AddPet.format.Kept [] ({} : PetDatabase).myPet := ⟨.nil, by simp⟩
  have noHeaths : NewPetHeath.format.Kept [] ({} : PetDatabase).heathBook := ⟨.nil, by simp⟩
  obtain ⟨pets, heaths⟩ := kept_run noPets noHeaths reached
  exact ⟨RecordFormat.readsBack_of_kept pets named, RecordFormat.readsBack_of_kept heaths named⟩

/-- A pet and a health record of each of two users, around documents the app did not
write. The second user's record has no place of the examination. -/
def twoPets : List PetEvent :=
  [.pet (.save ⟨some "alice", some "Rex", some "dog", none, some "male", none⟩ "p" 0),
    .pet (.foreign (.ofFields "q" [("uId", .number 1)]) 0),
    .heath (.save ⟨some "alice", some ⟨some "Rex", some "1/2/2022", some "clinic", some "cough",
      some "flu", some "2", some "rabies", some "rest", none⟩⟩ "h" 0),
    .heath (.foreign (.ofFields "i" [("petName", .string "Tom"), ("uId", .string "bob")]) 0),
    .heath (.save ⟨some "bob", some ⟨some "Tom", none, none, none, none, none, none, none, none⟩⟩
      "j" 0),
    .pet (.save ⟨some "bob", some "Tom", some "cat", none, none, none⟩ "r" 1)]

/-- Of the pets, the health records and the foreign documents the first user is shown the
own pet and the own health record alone, each with the texts that were saved. -/
theorem records_read_back_two_pets :
    ∃ t, run step {} twoPets = some t ∧
      ListPetViewController.setPetData (some "alice") (t.myPet.map Entry.document) =
        [⟨some "", some "", some "Rex", some "male", some "dog", some "alice"⟩] ∧
      PetHealthBookViewController.setData (some "alice") (t.heathBook.map Entry.document) =
        [⟨some "Rex", some "1/2/2022", some "rest", some "alice", some "flu", some "clinic",
          some "cough", some "", some "2", some "rabies"⟩] ∧
      AddPet.format.ReadsBack "alice" (petSaves twoPets) t.myPet
        (ListPetViewController.setPetData (some "alice") (t.myPet.map Entry.document)) ∧
      NewPetHeath.format.ReadsBack "alice" (heathSaves twoPets) t.heathBook
        (PetHealthBookViewController.setData (some "alice") (t.heathBook.map Entry.document)) := by
  obtain ⟨t, reached⟩ : ∃ t, run step {} twoPets = some t := ⟨_, rfl⟩
  refine ⟨t, reached, ?_, ?_, records_read_back twoPets t reached "alice" (by decide)⟩
  · cases reached
    rfl
  · cases reached
    rfl

end PetDatabase

end PetApp
