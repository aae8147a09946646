import Mathlib.Algebra.Ring.Parity
import Mathlib.Tactic.Tauto
import PetApp.Favorite.DetailItem

/-!
Favourites over whole visits: detail screens opened on any animals one after the
other, each with any number of heart taps.

A visit opens `DetailItemViewController` on an animal, where `configUI` takes the
snapshot, handles taps, each after the refresh of the tap before has run, and
leaves the screen. A refresh that is still queued when the screen is left finds
no controller and does nothing.

* `toggles_tapped` — on a fresh snapshot a tap inserts the missing row or erases
  the only one, and keeps the rows of every other species.
* `step_cases` — what one event can do.
* `agrees_step` — whenever no refresh is pending the snapshot is the store, and
  the heart is red exactly when the species is stored.
* `stores_run` — a species is stored after a run exactly if it was stored before
  and tapped an even number of times, or was not and tapped an odd number.
* `favorites_toggle` — the three together, for every store with at most one row
  per species.
-/

namespace PetApp

open Runs

namespace Context

/-- The stored rows with the given value of the attribute `species`. -/
def rowsOf (ctx : Context) (species : Option String) : List Favorite :=
  ctx.objects.filter fun favorite => favorite.species == species

/-- A row of the species is stored. -/
def Stores (ctx : Context) (species : String) : Prop :=
  ∃ favorite ∈ ctx.objects, favorite.species = some species

/-- At most one row per species. -/
def OnePerSpecies (ctx : Context) : Prop :=
  ∀ species : String, (ctx.rowsOf (some species)).length ≤ 1

theorem speciesRows_eq_rowsOf (ctx : Context) (animal : Animal) :
    ctx.speciesRows animal = ctx.rowsOf (some animal.species) := rfl

theorem stores_iff {ctx : Context} {species : String} :
    ctx.Stores species ↔ ctx.rowsOf (some species) ≠ [] := by
  simp [Stores, rowsOf, List.filter_eq_nil_iff]

theorem mem_rowsOf {ctx : Context} {species : Option String} {favorite : Favorite} :
    favorite ∈ ctx.rowsOf species ↔ favorite ∈ ctx.objects ∧ favorite.species = species := by
  simp [rowsOf]

end Context

/-- The row holds the ten fields of the animal, under the user's uid. -/
structure Favorite.Records (codec : ImageCodec) (animal : Animal) (uid : String)
    (row : Favorite) : Prop where
  height : row.height = some animal.height
  weight : row.weight = some animal.weight
  age : row.age = some animal.age
  origin : row.origin = some animal.origin
  type : row.type = some animal.type
  species : row.species = some animal.species
  information : row.information = some animal.information
  history : row.history = some animal.history
  image : row.image = codec.pngData animal.image
  animal : row.animal = some animal.animal
  uid : row.uid = some uid

/-- What a tap does to the store: it adds the row of the animal when its species
has none, else it removes that row; other rows stay, and the result is saved. -/
structure Toggles (codec : ImageCodec) (animal : Animal) (uid : String)
    (before after : Context) : Prop where
  added : ¬ before.Stores animal.species →
    ∃ row : Favorite, row.Records codec animal uid ∧ after.objects = before.objects ++ [row]
  removed : before.Stores animal.species →
    ∃ row, before.rowsOf (some animal.species) = [row] ∧ after.objects = before.objects.erase row
  others : ∀ species, species ≠ some animal.species → after.rowsOf species = before.rowsOf species
  saved : after.persisted = after.objects

namespace HeartScreen

variable {codec : ImageCodec} {deleted : Favorite → Option String} {animal : Animal}
  {uid : Option String} {s : HeartScreen}

theorem persisted_tapped (codec : ImageCodec) (deleted : Favorite → Option String)
    (animal : Animal) (uid : Option String) (s : HeartScreen) :
    (tapped codec deleted animal uid s).context.persisted =
      (tapped codec deleted animal uid s).context.objects := by
  simp only [tapped, DetailItem.heartButtonClousure_eq]
  split <;> simp

/-- On a fresh snapshot of a store with at most one row of the species, a tap
toggles the species. -/
theorem toggles_tapped (fresh : Fresh s) (rows : (s.context.speciesRows animal).length ≤ 1) :
    Toggles codec animal (uid.getD "") s.context (tapped codec deleted animal uid s).context := by
  have objects := DetailItem.animalObject_of_fresh deleted animal fresh
  rcases speciesRows_cases rows with none | ⟨favorite, only⟩
  · have missing : ¬ s.context.Stores animal.species := by
      rw [Context.stores_iff, ← Context.speciesRows_eq_rowsOf]
      exact not_not.mpr none
    obtain ⟨appended, -⟩ := tap_insert codec uid (objects.trans none)
    refine ⟨fun _ => ⟨_, ?_, appended⟩, fun stored => absurd stored missing, ?_,
      persisted_tapped ..⟩
    · exact ⟨rfl, rfl, rfl, rfl, rfl, rfl, rfl, rfl, rfl, rfl, rfl⟩
    · intro species other
      simp [Context.rowsOf, appended, List.filter_append, favoriteOf, Ne.symm other]
  · have stored : s.context.Stores animal.species := by
      rw [Context.stores_iff, ← Context.speciesRows_eq_rowsOf, only]
      simp
    obtain ⟨member, hasSpecies⟩ := mem_of_speciesRows only
    obtain ⟨filtered, -⟩ := tap_delete codec uid (objects.trans only)
    have erased := filtered.trans (Context.filter_objectID_eq_erase member)
    refine ⟨fun missing => absurd stored missing, fun _ => ⟨favorite, only, erased⟩, ?_,
      persisted_tapped ..⟩
    intro species other
    unfold Context.rowsOf
    -- the erased row has the animal's species, so the filter drops it anyway
    rw [filtered, List.filter_filter]
    apply List.filter_congr
    intro o stored
    by_cases same : o.objectID = favorite.objectID
    · have here : o = favorite := s.context.eq_of_objectID_eq stored member same
      simp [here, hasSpecies, Ne.symm other]
    · simp [same]

end HeartScreen

/-! ### What follows from one tap -/

namespace Toggles

variable {codec : ImageCodec} {animal : Animal} {uid : String} {before after : Context}

/-- The tapped species is stored after the tap exactly if it was not before. -/
theorem stores_tapped (toggles : Toggles codec animal uid before after) :
    after.Stores animal.species ↔ ¬ before.Stores animal.species := by
  by_cases stored : before.Stores animal.species
  · obtain ⟨row, only, erased⟩ := toggles.removed stored
    refine iff_of_false ?_ (not_not.mpr stored)
    rintro ⟨favorite, member, hasSpecies⟩
    rw [erased] at member
    obtain ⟨ne, old⟩ := before.nodup_objects.mem_erase_iff.mp member
    have inRows := Context.mem_rowsOf.mpr ⟨old, hasSpecies⟩
    rw [only] at inRows
    exact ne (List.mem_singleton.mp inRows)
  · obtain ⟨row, records, appended⟩ := toggles.added stored
    refine iff_of_true ⟨row, ?_, records.species⟩ stored
    simp [appended]

/-- A species that is not tapped is stored as before. -/
theorem stores_other (toggles : Toggles codec animal uid before after) {species : String}
    (other : species ≠ animal.species) : after.Stores species ↔ before.Stores species := by
  rw [Context.stores_iff, Context.stores_iff,
    toggles.others (some species) fun same => other (Option.some.inj same)]

/-- A tap keeps at most one row per species. -/
theorem onePerSpecies (toggles : Toggles codec animal uid before after)
    (rows : before.OnePerSpecies) : after.OnePerSpecies := by
  intro species
  by_cases tapped : species = animal.species
  · subst tapped
    by_cases stored : before.Stores animal.species
    · have gone : after.rowsOf (some animal.species) = [] := by
        have : ¬ after.Stores animal.species := fun h => toggles.stores_tapped.mp h stored
        rwa [Context.stores_iff, not_not] at this
      simp [gone]
    · obtain ⟨row, records, appended⟩ := toggles.added stored
      have none : before.rowsOf (some animal.species) = [] := by
        rwa [Context.stores_iff, not_not] at stored
      unfold Context.rowsOf at none ⊢
      rw [appended, List.filter_append, none, List.nil_append]
      exact List.length_filter_le _ [row]
  · rw [toggles.others (some species) fun same => tapped (Option.some.inj same)]
    exact rows species

end Toggles

/-! ### Visits -/

/-- A detail screen on an animal, with the refreshes still queued. -/
structure Visit where
  animal : Animal
  detail : DetailItem
  pending : Nat

/-- The store and the detail screen that is open, if there is one. -/
structure Browsing where
  context : Context
  visit : Option Visit

inductive BrowsingEvent where
  | opens (animal : Animal)
  /-- A tap by the user whose uid `UserManager` holds. -/
  | tap (uid : Option String)
  | refresh
  | leave
deriving DecidableEq

namespace Browsing

section Machine

variable (codec : ImageCodec) (deleted : Favorite → Option String)

/-- One event. A screen is opened when none is open, and a tap waits for the
refresh of the tap before. -/
def step (s : Browsing) : BrowsingEvent → Option Browsing
  | .opens animal =>
      match s.visit with
      | some _ => none
      | none => some ⟨s.context, some ⟨animal, DetailItem.opened deleted s.context animal, 0⟩⟩
  | .tap uid =>
      match s.visit with
      | some ⟨animal, detail, 0⟩ =>
          let after := HeartScreen.tapped codec deleted animal uid ⟨s.context, detail, 0⟩
          some ⟨after.context, some ⟨animal, after.detail, after.pending⟩⟩
      | _ => none
  | .refresh =>
      match s.visit with
      | some ⟨animal, detail, pending + 1⟩ =>
          some ⟨s.context, some ⟨animal, detail.refresh s.context, pending⟩⟩
      | _ => none
  | .leave =>
      match s.visit with
      | some _ => some ⟨s.context, none⟩
      | none => none

/-- What is asked of every tap: it toggles the species of the open screen. -/
def TapToggles (s : Browsing) : BrowsingEvent → Prop
  | .tap uid => ∀ visit ∈ s.visit, ∀ t, step codec deleted s (.tap uid) = some t →
      Toggles codec visit.animal (uid.getD "") s.context t.context
  | _ => True

end Machine

/-- What is asked of every state: at most one row per species, and a heart that
is red exactly when the species of the open screen is stored. -/
structure Faithful (s : Browsing) : Prop where
  rows : s.context.OnePerSpecies
  heart : ∀ visit ∈ s.visit,
    (visit.detail.heartButton = .red ↔ s.context.Stores visit.animal.species)

/-- The taps on a species; `animal` is the one whose screen is open. -/
def taps (species : String) : (animal : Option Animal) → List BrowsingEvent → Nat
  | _, [] => 0
  | _, .opens animal :: events => taps species (some animal) events
  | some animal, .tap _ :: events =>
      (if animal.species = species then 1 else 0) + taps species (some animal) events
  | none, .tap _ :: events => taps species none events
  | animal, .refresh :: events => taps species animal events
  | _, .leave :: events => taps species none events

/-- The invariant of the visits: the state is faithful, and the snapshot is the
store whenever no refresh is pending. -/
structure Agrees (s : Browsing) : Prop extends Faithful s where
  fresh : ∀ visit ∈ s.visit, visit.pending = 0 → visit.detail.favorites = s.context.objects

section Facts

variable {codec : ImageCodec} {deleted : Favorite → Option String} {s t : Browsing}

/-- The heart of a screen just opened. -/
theorem heartButton_opened (ctx : Context) (animal : Animal) :
    (DetailItem.opened deleted ctx animal).heartButton = .red ↔ ctx.Stores animal.species := by
  let snapshot : DetailItem := ⟨some animal, ctx.objects, .white⟩
  have objects : DetailItem.animalObject deleted ctx animal snapshot = ctx.speciesRows animal :=
    DetailItem.animalObject_of_fresh deleted animal rfl
  have colour : (DetailItem.opened deleted ctx animal).heartButton =
      if DetailItem.isInclude deleted ctx animal snapshot then .red else .white := rfl
  rw [Context.stores_iff, ← Context.speciesRows_eq_rowsOf, ← objects, ne_eq,
    ← DetailItem.isInclude_eq_false_iff, colour]
  cases DetailItem.isInclude deleted ctx animal snapshot <;> simp

/-- The heart after a tap on a fresh snapshot. -/
theorem heartButton_tapped {animal : Animal} {uid : Option String} {h : HeartScreen}
    (fresh : HeartScreen.Fresh h) (rows : (h.context.speciesRows animal).length ≤ 1) :
    (HeartScreen.tapped codec deleted animal uid h).detail.heartButton = .red ↔
      (HeartScreen.tapped codec deleted animal uid h).context.Stores animal.species := by
  rw [Context.stores_iff, ← Context.speciesRows_eq_rowsOf]
  have safe : HeartScreen.TapSafe codec deleted animal uid h .tap :=
    HeartScreen.tapSafe_of_fresh fresh rows
  exact safe.2.2

/-- What one event can do: open a screen when none is open, toggle on a screen
with no refresh pending, run a pending refresh, or leave the screen. -/
theorem step_cases {event : BrowsingEvent} (stepped : step codec deleted s event = some t) :
    (∃ animal, event = .opens animal ∧ s.visit = none ∧
      t = ⟨s.context, some ⟨animal, DetailItem.opened deleted s.context animal, 0⟩⟩) ∨
    (∃ uid animal detail, event = .tap uid ∧ s.visit = some ⟨animal, detail, 0⟩ ∧
      t.context = (HeartScreen.tapped codec deleted animal uid ⟨s.context, detail, 0⟩).context ∧
      t.visit = some ⟨animal,
        (HeartScreen.tapped codec deleted animal uid ⟨s.context, detail, 0⟩).detail, 1⟩) ∨
    (∃ animal detail pending, event = .refresh ∧ s.visit = some ⟨animal, detail, pending + 1⟩ ∧
      t = ⟨s.context, some ⟨animal, detail.refresh s.context, pending⟩⟩) ∨
    (event = .leave ∧ t = ⟨s.context, none⟩) := by
  cases event with
  | opens animal =>
      simp only [step] at stepped
      split at stepped
      · cases stepped
      · rename_i closed
        cases stepped
        exact .inl ⟨animal, rfl, closed, rfl⟩
  | tap uid =>
      simp only [step] at stepped
      split at stepped
      · rename_i animal detail opened
        cases stepped
        exact .inr (.inl ⟨uid, animal, detail, rfl, opened, rfl, rfl⟩)
      · cases stepped
  | refresh =>
      simp only [step] at stepped
      split at stepped
      · rename_i animal detail pending opened
        cases stepped
        exact .inr (.inr (.inl ⟨animal, detail, pending, rfl, opened, rfl⟩))
      · cases stepped
  | leave =>
      simp only [step] at stepped
      split at stepped
      · cases stepped
        exact .inr (.inr (.inr ⟨rfl, rfl⟩))
      · cases stepped

/-- In a state that agrees, a tap toggles the species of the open screen. -/
theorem toggles_of_agrees (agrees : Agrees s) {animal : Animal} {detail : DetailItem}
    {uid : Option String} (opened : s.visit = some ⟨animal, detail, 0⟩)
    (context : t.context =
      (HeartScreen.tapped codec deleted animal uid ⟨s.context, detail, 0⟩).context) :
    Toggles codec animal (uid.getD "") s.context t.context := by
  rw [context]
  exact HeartScreen.toggles_tapped (s := ⟨s.context, detail, 0⟩) (agrees.fresh _ opened rfl)
    (agrees.rows animal.species)

theorem tapToggles_of_agrees (agrees : Agrees s) (event : BrowsingEvent) :
    TapToggles codec deleted s event := by
  cases event with
  | tap uid =>
      intro visit here t stepped
      obtain ⟨_, ⟨⟩, -⟩ | ⟨_, animal, detail, ⟨⟩, opened, context, -⟩ | ⟨_, _, _, ⟨⟩, -⟩ | ⟨⟨⟩, -⟩ :=
        step_cases stepped
      cases opened.symm.trans here
      exact toggles_of_agrees agrees opened context
  | _ => trivial

/-- Every event keeps the invariant. -/
theorem agrees_step (agrees : Agrees s) {event : BrowsingEvent}
    (stepped : step codec deleted s event = some t) : Agrees t := by
  rcases step_cases stepped with ⟨animal, -, -, rfl⟩ |
    ⟨uid, animal, detail, -, opened, context, visiting⟩ |
    ⟨animal, detail, pending, -, opened, rfl⟩ | ⟨-, rfl⟩
  · refine ⟨⟨agrees.rows, ?_⟩, ?_⟩
    · rintro visit ⟨⟩
      exact heartButton_opened s.context animal
    · rintro visit ⟨⟩ -
      rfl
  · have toggles := toggles_of_agrees agrees opened context
    refine ⟨⟨toggles.onePerSpecies agrees.rows, ?_⟩, ?_⟩
    · intro visit here
      cases visiting.symm.trans here
      rw [context]
      exact heartButton_tapped (h := ⟨s.context, detail, 0⟩) (agrees.fresh _ opened rfl)
        (agrees.rows animal.species)
    · intro visit here idle
      cases visiting.symm.trans here
      cases idle
  · refine ⟨⟨agrees.rows, ?_⟩, ?_⟩
    · rintro visit ⟨⟩
      -- a refresh leaves the heart alone
      have heart : detail.heartButton = .red ↔ s.context.Stores animal.species :=
        agrees.heart _ opened
      exact heart
    · rintro visit ⟨⟩ -
      rfl
  · exact ⟨⟨agrees.rows, by rintro visit ⟨⟩⟩, by rintro visit ⟨⟩⟩

/-- One event toggles a species exactly if it is a tap on a screen of it. -/
theorem stores_step (agrees : Agrees s) {event : BrowsingEvent}
    (stepped : step codec deleted s event = some t) (species : String)
    (events : List BrowsingEvent) :
    (Xor (t.context.Stores species) (Odd (taps species (t.visit.map Visit.animal) events)) ↔
      Xor (s.context.Stores species)
        (Odd (taps species (s.visit.map Visit.animal) (event :: events)))) := by
  rcases step_cases stepped with ⟨animal, rfl, -, rfl⟩ |
    ⟨uid, animal, detail, rfl, opened, context, visiting⟩ |
    ⟨animal, detail, pending, rfl, opened, rfl⟩ | ⟨rfl, rfl⟩
  · rfl
  · have toggled := toggles_of_agrees agrees opened context
    simp only [opened, visiting, Option.map_some, taps]
    by_cases same : animal.species = species
    · subst same
      rw [toggled.stores_tapped, if_pos rfl, Nat.add_comm, Nat.odd_add_one]
      unfold Xor
      tauto
    · rw [toggled.stores_other (Ne.symm same), if_neg same, Nat.zero_add]
  · simp only [opened, Option.map_some, taps]
  · rfl

/-- The species stored after a run: those stored before, each toggled by the
parity of its taps. -/
theorem stores_run (agrees : Agrees s) {events : List BrowsingEvent}
    (reached : run (step codec deleted) s events = some t) (species : String) :
    t.context.Stores species ↔
      Xor (s.context.Stores species) (Odd (taps species (s.visit.map Visit.animal) events)) := by
  induction events generalizing s with
  | nil =>
      cases reached
      simp [taps, Xor]
  | cons event events ih =>
      obtain ⟨m, stepped, tail⟩ := run_cons_eq_some.mp reached
      rw [ih (agrees_step agrees stepped) tail]
      exact stores_step agrees stepped species events

end Facts

/-- **Favourites toggle.** From any store with at most one row per species and
for every sequence of visits and taps: every state keeps at most one row per
species and a heart that is red exactly when the species is stored; every tap
adds the row of the animal when its species has none, else removes that row, and
leaves the rows of other species unchanged; and the species stored in the end
are those stored first, each toggled by the parity of its taps. -/
theorem favorites_toggle (codec : ImageCodec) (deleted : Favorite → Option String)
    (ctx : Context) (rows : ctx.OnePerSpecies) (events : List BrowsingEvent) :
    Always (step codec deleted) Faithful ⟨ctx, none⟩ events ∧
      Meets (step codec deleted) (TapToggles codec deleted) ⟨ctx, none⟩ events ∧
      ∀ t, run (step codec deleted) ⟨ctx, none⟩ events = some t → ∀ species,
        (t.context.Stores species ↔ Xor (ctx.Stores species) (Odd (taps species none events))) := by
  have start : Agrees ⟨ctx, none⟩ := ⟨⟨rows, by rintro visit ⟨⟩⟩, by rintro visit ⟨⟩⟩
  have agree : Always (step codec deleted) Agrees ⟨ctx, none⟩ events := by
    apply always_of_steps
    · intro s event _ t before stepped
      exact agrees_step before stepped
    · exact start
  refine ⟨agree.imp fun t h => h.toFaithful, ?_, fun t reached => stores_run start reached⟩
  exact agree.meets fun s e h => tapToggles_of_agrees h e

/-- Two visits to the husky with a visit to the corgi between them. -/
def threeVisits : List BrowsingEvent :=
  [.opens .husky, .tap (some "alice"), .leave, .opens .corgi, .tap none, .refresh, .tap none, .leave,
    .opens .husky, .tap none, .refresh, .tap none]

/-- From an empty store the husky is tapped three times and stays, the corgi
twice and goes. -/
theorem favorites_toggle_three_visits :
    Context.empty.OnePerSpecies ∧
      ∃ t, run (step .raw fun _ => none) ⟨.empty, none⟩ threeVisits = some t ∧
        t.context.Stores "Husky" ∧ ¬ t.context.Stores "Corgi" := by
  have rows : Context.empty.OnePerSpecies := fun species => by simp [Context.rowsOf, Context.empty]
  have notStored (species : String) : ¬ Context.empty.Stores species := by
    rintro ⟨_, ⟨⟩, _⟩
  obtain ⟨t, reached⟩ : ∃ t, run (step .raw fun _ => none) ⟨.empty, none⟩ threeVisits = some t :=
    ⟨_, rfl⟩
  have toggled := (favorites_toggle .raw (fun _ => none) .empty rows threeVisits).2.2 t reached
  refine ⟨rows, t, reached, (toggled "Husky").mpr (.inr ⟨by decide, notStored _⟩), ?_⟩
  rw [toggled "Corgi"]
  rintro (⟨stored, -⟩ | ⟨odd, -⟩)
  · exact notStored _ stored
  · revert odd
    decide

end Browsing

end PetApp
