import PetApp.Lib.Lists
import PetApp.Platform.Foundation

/-!
Firestore documents and collections as the app sees them.

A document has an id and a map from field names to values; a field may be
missing or have any type, and the app reads it with a conditional cast
(`Document.string`, `Document.bool`). A collection lists its documents in the
order a query returns them, under pairwise distinct ids. `Collection.updateData`
merges fields into the document with a given id and fails when there is none;
`Collection.add` stores a new document under an id that is not in use.
-/

namespace PetApp

/-- The value of a document field. Types the app never reads are `other`. -/
inductive Value where
  | null
  | bool (b : Bool)
  | number (q : ℚ)
  | string (s : String)
  | other (tag : Nat)
deriving DecidableEq

/-- `value as? String`. -/
def Value.asString : Value → Option String
  | .string s => some s
  | _ => none

/-- `value as? Bool`. A stored number is an `NSNumber`, which casts to `Bool`
when it is zero or one. -/
def Value.asBool : Value → Option Bool
  | .bool b => some b
  | .number q => if q = 0 then some false else if q = 1 then some true else none
  | _ => none

/-- A document of a collection. -/
structure Document where
  id : String
  data : String → Option Value

namespace Document

/-- `document[key] as? String`. -/
def string (document : Document) (key : String) : Option String :=
  (document.data key).bind Value.asString

/-- `document[key] as? Bool`. -/
def bool (document : Document) (key : String) : Option Bool :=
  (document.data key).bind Value.asBool

/-- The document with the given fields and no others. -/
def ofFields (id : String) (fields : List (String × Value)) : Document :=
  ⟨id, fun key => fields.lookup key⟩

/-- The document after the given fields have been written to it. -/
def merge (document : Document) (fields : List (String × Value)) : Document :=
  { document with data := fun key => (fields.lookup key).or (document.data key) }

end Document

/-- A collection: its documents in query order, under distinct ids. -/
structure Collection where
  documents : List Document
  distinct : (documents.map Document.id).Nodup

namespace Collection

theorem ext_documents {c c' : Collection} (h : c.documents = c'.documents) : c = c' := by
  cases c
  cases c'
  cases h
  rfl

/-- Two documents of a collection with one id are one document. -/
theorem eq_of_id_eq {c : Collection} {d d' : Document} (member : d ∈ c.documents)
    (member' : d' ∈ c.documents) (same : d.id = d'.id) : d = d' :=
  List.inj_on_of_nodup_map c.distinct member member' same

/-- `collection.document(id).updateData(fields)`: `none` is the error Firestore
reports when no document has the id. -/
def updateData (id : String) (fields : List (String × Value)) (c : Collection) : Option Collection :=
  if id ∈ c.documents.map Document.id then
    some
      { documents := c.documents.map fun d => if d.id = id then d.merge fields else d
        distinct := by
          have ids : (fun d : Document => (if d.id = id then d.merge fields else d).id) =
              Document.id := by
            funext d
            split <;> rfl
          rw [List.map_map, Function.comp_def, ids]
          exact c.distinct }
  else none

theorem updateData_eq_some {id : String} {fields : List (String × Value)} {c c' : Collection} :
    c.updateData id fields = some c' ↔
      (∃ d ∈ c.documents, d.id = id) ∧
        c'.documents = c.documents.map fun d => if d.id = id then d.merge fields else d := by
  unfold updateData
  split
  · rename_i present
    obtain ⟨d, member, same⟩ := List.mem_map.mp present
    constructor
    · intro h
      cases h
      exact ⟨⟨d, member, same⟩, rfl⟩
    · rintro ⟨-, h⟩
      exact congrArg some (ext_documents h.symm)
  · rename_i absent
    simp only [reduceCtorEq, false_iff, not_and]
    rintro ⟨d, member, same⟩
    exact absurd (List.mem_map.mpr ⟨d, member, same⟩) absent

/-- The collection with a new document. Its id is generated, so it may come
anywhere in query order. -/
def add (position : Nat) (document : Document) (c : Collection)
    (fresh : document.id ∉ c.documents.map Document.id) : Collection where
  documents := c.documents.take position ++ document :: c.documents.drop position
  distinct := by
    have moved := Lists.perm_take_cons_drop position document c.documents
    rw [(moved.map Document.id).nodup_iff]
    exact List.nodup_cons.mpr ⟨fresh, c.distinct⟩

end Collection

/-- What a fetch hands its callback: an error, or the documents of the snapshot. -/
abbrev Fetched := Except String (List Document)

/-- `collection.getDocuments`; `error` is that of a request that fails. -/
def Collection.getDocuments (error : Option String) (c : Collection) : Fetched :=
  match error with
  | some error => .error error
  | none => .ok c.documents

/-- The collections of the database by name. -/
abbrev Database := String → Collection

end PetApp
