import Mathlib.Tactic.SplitIfs
import PetApp.Favorite.Toggle

/-!
Visits to a store that holds a species more than once.

Quick taps leave several rows of one species, and nothing removes the surplus. A later tap,
handled on a fresh snapshot, deletes the first row of the species and turns the heart white,
whether or not other rows remain.

* `rowsOf_tapped` — a tap takes the first row of its species away, or adds the missing one.
* `remaining`, `remaining_tapCount` — how many rows any number of taps leave.
* `rows_step`, `rows_run` — the rows of every species after a run of visits.
* `duplicates_drain` — surplus rows go one by one, in store order, and then the species toggles.
* `heart_tells_iff` — the heart tells the truth along a run exactly when no tap meets a species
  that is stored more than once.
-/

namespace PetApp

open Runs

/-! ### One tap -/

/-- The rows a tap leaves of its species; `row` is the one it adds when there is none. -/
def afterTap (row : Favorite) : List Favorite → List Favorite
  | [] => [row]
  | _ :: rest => rest

/-- The deletion of the first row of a species leaves the rest of them. -/
theorem Context.filter_rowsOf_head {ctx : Context} {species : Option String} {favorite : Favorite}
    {rest : List Favorite} (rows : ctx.rowsOf species = favorite :: rest) :
    (ctx.rowsOf species).filter (fun o => o.objectID ≠ favorite.objectID) = rest := by
  have distinct : ((favorite :: rest).map Favorite.objectID).Nodup := by
    rw [← rows]
    exact ctx.distinct.sublist (List.filter_sublist.map _)
  rw [List.map_cons, List.nodup_cons] at distinct
  rw [rows, List.filter_cons_of_neg (by simp), List.filter_eq_self]
  intro o member
  have other : o.objectID ≠ favorite.objectID := by
    intro same
    exact distinct.1 (same ▸ List.mem_map_of_mem member)
  simpa using other

namespace HeartScreen

variable {s : HeartScreen}

/-- A tap on a fresh snapshot changes the rows of its own species only, whatever their
number. -/
theorem rowsOf_tapped (codec : ImageCodec) (deleted : Favorite → Option String) (animal : Animal)
    (uid : Option String) (fresh : Fresh s) (species : Option String) :
    (tapped codec deleted animal uid s).context.rowsOf species =
      if species = some animal.species then
        afterTap (favoriteOf codec animal (uid.getD "") s.context.nextID)
          (s.context.rowsOf species)
      else s.context.rowsOf species := by
  have found := DetailItem.animalObject_of_fresh deleted animal fresh
  rw [Context.speciesRows_eq_rowsOf] at found
  cases rows : s.context.rowsOf (some animal.species) with
  | nil =>
      obtain ⟨appended, -⟩ := tap_insert codec uid (found.trans rows)
      by_cases own : species = some animal.species
      · subst own
        rw [if_pos rfl, rows, afterTap]
        unfold Context.rowsOf at rows ⊢
        rw [appended, List.filter_append, rows]
        simp [favoriteOf]
      · rw [if_neg own]
        simp [Context.rowsOf, appended, List.filter_append, favoriteOf, Ne.symm own]
  | cons favorite rest =>
      obtain ⟨filtered, -⟩ := tap_delete codec uid (found.trans rows)
      have swapped : (tapped codec deleted animal uid s).context.rowsOf species =
          (s.context.rowsOf species).filter fun o => o.objectID ≠ favorite.objectID := by
        unfold Context.rowsOf
        rw [filtered, List.filter_comm]
      rw [swapped]
      by_cases own : species = some animal.species
      · subst own
        rw [if_pos rfl, Context.filter_rowsOf_head rows, rows, afterTap]
      · rw [if_neg own, List.filter_eq_self]
        intro o member
        obtain ⟨stored, hasSpecies⟩ := Context.mem_rowsOf.mp member
        have first : favorite ∈ s.context.rowsOf (some animal.species) := by simp [rows]
        obtain ⟨stored', hasSpecies'⟩ := Context.mem_rowsOf.mp first
        have other : o.objectID ≠ favorite.objectID := by
          intro same
          rw [s.context.eq_of_objectID_eq stored stored' same] at hasSpecies
          exact own (hasSpecies.symm.trans hasSpecies')
        simpa using other

/-- The heart after a tap on a fresh snapshot: red exactly if the species had no row. -/
theorem heartButton_tapped_iff (codec : ImageCodec) (deleted : Favorite → Option String)
    (animal : Animal) (uid : Option String) (fresh : Fresh s) :
    (tapped codec deleted animal uid s).detail.heartButton = .red ↔
      s.context.rowsOf (some animal.species) = [] := by
  have found := DetailItem.animalObject_of_fresh deleted animal fresh
  rw [Context.speciesRows_eq_rowsOf] at found
  cases rows : s.context.rowsOf (some animal.species) with
  | nil => simp [(tap_insert codec uid (found.trans rows)).2]
  | cons favorite rest => simp [(tap_delete codec uid (found.trans rows)).2]

end HeartScreen

/-! ### How many rows remain -/

/-- What a tap makes of a number of rows. -/
def tapCount (k : Nat) : Nat := if k = 0 then 1 else k - 1

/-- The rows that `n` taps leave of `k`: they go one by one, then one comes and goes. -/
def remaining (k n : Nat) : Nat := if n ≤ k then k - n else (n - k) % 2

theorem length_afterTap (row : Favorite) (rows : List Favorite) :
    (afterTap row rows).length = tapCount rows.length := by
  cases rows with
  | nil => rfl
  | cons favorite rest => simp [afterTap, tapCount]

theorem remaining_tapCount (k n : Nat) : remaining (tapCount k) n = remaining k (n + 1) := by
  unfold remaining tapCount
  split_ifs <;> omega

namespace Browsing

section Facts

variable {codec : ImageCodec} {deleted : Favorite → Option String} {s t : Browsing}

/-- The snapshot of the open screen is the store whenever no refresh is pending. -/
def Snapshot (s : Browsing) : Prop :=
  ∀ visit ∈ s.visit, visit.pending = 0 → visit.detail.favorites = s.context.objects

/-- Every event leaves such a snapshot. -/
theorem snapshot_of_step {event : BrowsingEvent} (stepped : step codec deleted s event = some t) :
    Snapshot t := by
  rcases step_cases stepped with ⟨animal, -, -, rfl⟩ |
    ⟨uid, animal, detail, -, opened, context, visiting⟩ |
    ⟨animal, detail, pending, -, opened, rfl⟩ | ⟨-, rfl⟩
  · rintro visit ⟨⟩ -
    rfl
  · intro visit here idle
    cases visiting.symm.trans here
    cases idle
  · rintro visit ⟨⟩ -
    rfl
  · rintro visit ⟨⟩

/-- One event and the rows of one species: a tap on a screen of the species changes them, and
no other event does. -/
theorem rows_step (snapshot : Snapshot s) {event : BrowsingEvent}
    (stepped : step codec deleted s event = some t) (species : String)
    (events : List BrowsingEvent) :
    (t.context.rowsOf (some species) = s.context.rowsOf (some species) ∧
      taps species (t.visit.map Visit.animal) events =
        taps species (s.visit.map Visit.animal) (event :: events)) ∨
    (∃ row, t.context.rowsOf (some species) = afterTap row (s.context.rowsOf (some species)) ∧
      taps species (t.visit.map Visit.animal) events + 1 =
        taps species (s.visit.map Visit.animal) (event :: events)) := by
  rcases step_cases stepped with ⟨animal, rfl, -, rfl⟩ |
    ⟨uid, animal, detail, rfl, opened, context, visiting⟩ |
    ⟨animal, detail, pending, rfl, opened, rfl⟩ | ⟨rfl, rfl⟩
  · exact .inl ⟨rfl, rfl⟩
  · have rows := HeartScreen.rowsOf_tapped codec deleted animal uid (s := ⟨s.context, detail, 0⟩)
      (snapshot _ opened rfl) (some species)
    rw [← context] at rows
    simp only [opened, visiting, Option.map_some, taps]
    by_cases own : animal.species = species
    · rw [if_pos (by rw [own])] at rows
      exact .inr ⟨_, rows, by rw [if_pos own, Nat.add_comm]⟩
    · rw [if_neg (by simpa using Ne.symm own)] at rows
      exact .inl ⟨rows, by rw [if_neg own, Nat.zero_add]⟩
  · exact .inl ⟨rfl, by simp only [opened, Option.map_some, taps]⟩
  · exact .inl ⟨rfl, rfl⟩

/-- The rows of a species after a run: their number, and which of the first rows they are
while taps only take rows away. -/
theorem rows_run (snapshot : Snapshot s) {events : List BrowsingEvent}
    (reached : run (step codec deleted) s events = some t) (species : String) :
    (t.context.rowsOf (some species)).length =
        remaining (s.context.rowsOf (some species)).length
          (taps species (s.visit.map Visit.animal) events) ∧
      (taps species (s.visit.map Visit.animal) events ≤
          (s.context.rowsOf (some species)).length →
        t.context.rowsOf (some species) = (s.context.rowsOf (some species)).drop
          (taps species (s.visit.map Visit.animal) events)) := by
  induction events generalizing s with
  | nil =>
      cases reached
      simp [taps, remaining]
  | cons event events ih =>
      obtain ⟨m, stepped, tail⟩ := run_cons_eq_some.mp reached
      obtain ⟨number, suffix⟩ := ih (snapshot_of_step stepped) tail
      rcases rows_step snapshot stepped species events with ⟨rows, counted⟩ | ⟨row, rows, counted⟩
      · rw [← counted, ← rows]
        exact ⟨number, suffix⟩
      · rw [rows, length_afterTap] at number
        rw [← counted]
        refine ⟨number.trans (remaining_tapCount _ _), fun enough => ?_⟩
        -- a row is left to take away, so the tap took the first one
        cases before : s.context.rowsOf (some species) with
        | nil => simp [before] at enough
        | cons favorite rest =>
            rw [before, List.length_cons] at enough
            rw [rows, before, afterTap] at suffix
            rw [List.drop_succ_cons]
            exact suffix (by omega)

end Facts

/-- **Surplus rows go one by one.** For every store, with any number of rows of each species,
and every run of visits and taps: `n` taps on a species with `k` rows leave `k - n` of them,
the last ones in store order, as long as `n ≤ k`; from then on one row comes and goes. -/
theorem duplicates_drain (codec : ImageCodec) (deleted : Favorite → Option String) (ctx : Context)
    (events : List BrowsingEvent) (t : Browsing)
    (reached : run (step codec deleted) ⟨ctx, none⟩ events = some t) (species : String) :
    (t.context.rowsOf (some species)).length =
        remaining (ctx.rowsOf (some species)).length (taps species none events) ∧
      (taps species none events ≤ (ctx.rowsOf (some species)).length →
        t.context.rowsOf (some species) =
          (ctx.rowsOf (some species)).drop (taps species none events)) := by
  have start : Snapshot ⟨ctx, none⟩ := by rintro visit ⟨⟩
  exact rows_run start reached species

/-- A store with two rows of the husky. -/
def twoHuskies : Context :=
  (insertFavorite .raw .husky "alice" true (insertFavorite .raw .husky "alice" true .empty).2).2

/-- One visit with one tap. -/
def tapHusky : List BrowsingEvent := [.opens .husky, .tap none, .refresh]

/-- The tap leaves the second of the two rows. -/
theorem duplicates_drain_two_huskies :
    ∃ t, run (step .raw fun _ => none) ⟨twoHuskies, none⟩ tapHusky = some t ∧
      t.context.rowsOf (some "Husky") = (twoHuskies.rowsOf (some "Husky")).drop 1 := by
  refine ⟨_, rfl, ?_⟩
  exact (duplicates_drain .raw (fun _ => none) twoHuskies tapHusky _ rfl "Husky").2 (by decide)

/-- The heart of the open screen is red exactly when its species is stored. -/
def HeartTells (s : Browsing) : Prop :=
  ∀ visit ∈ s.visit, (visit.detail.heartButton = .red ↔ s.context.Stores visit.animal.species)

/-- A tap meets a species that is stored at most once. -/
def TapsSingle (s : Browsing) : BrowsingEvent → Prop
  | .tap _ => ∀ visit ∈ s.visit, visit.pending = 0 →
      (s.context.rowsOf (some visit.animal.species)).length ≤ 1
  | _ => True

section Facts

variable {codec : ImageCodec} {deleted : Favorite → Option String} {s t : Browsing}

/-- Only a tap that meets a species stored more than once makes the heart lie: it turns the
heart white and leaves rows. -/
theorem heartTells_step_iff (snapshot : Snapshot s) (tells : HeartTells s) {event : BrowsingEvent}
    (stepped : step codec deleted s event = some t) : HeartTells t ↔ TapsSingle s event := by
  rcases step_cases stepped with ⟨animal, rfl, -, rfl⟩ |
    ⟨uid, animal, detail, rfl, opened, context, visiting⟩ |
    ⟨animal, detail, pending, rfl, opened, rfl⟩ | ⟨rfl, rfl⟩
  · refine iff_of_true ?_ trivial
    rintro visit ⟨⟩
    exact heartButton_opened s.context animal
  · have fresh : HeartScreen.Fresh ⟨s.context, detail, 0⟩ := snapshot _ opened rfl
    have rows := HeartScreen.rowsOf_tapped codec deleted animal uid fresh (some animal.species)
    have heart := HeartScreen.heartButton_tapped_iff codec deleted animal uid fresh
    rw [if_pos rfl] at rows
    rw [← context] at rows
    simp only [HeartTells, TapsSingle, visiting, opened, Option.mem_def, Option.some.injEq,
      forall_eq', true_implies, Context.stores_iff, rows, heart]
    cases before : s.context.rowsOf (some animal.species) with
    | nil => simp [afterTap]
    | cons favorite rest => cases rest <;> simp [afterTap]
  · refine iff_of_true ?_ trivial
    rintro visit ⟨⟩
    -- a refresh leaves the heart and the store alone
    have heart : detail.heartButton = .red ↔ s.context.Stores animal.species := tells _ opened
    exact heart
  · refine iff_of_true ?_ trivial
    rintro visit ⟨⟩

theorem tapsSingle_of_refused {event : BrowsingEvent}
    (refused : step codec deleted s event = none) : TapsSingle s event := by
  cases event with
  | tap uid =>
      rintro ⟨animal, detail, pending⟩ opened idle
      cases idle
      simp [step, Option.mem_def.mp opened] at refused
  | _ => trivial

end Facts

/-- **When the heart tells the truth.** From any store, in every state of a run the heart of
the open screen is red exactly when its species is stored, if and only if no tap of the run
meets a species that is stored more than once. -/
theorem heart_tells_iff (codec : ImageCodec) (deleted : Favorite → Option String) (ctx : Context)
    (events : List BrowsingEvent) :
    Always (step codec deleted) HeartTells ⟨ctx, none⟩ events ↔
      Meets (step codec deleted) TapsSingle ⟨ctx, none⟩ events := by
  apply always_iff_meets Snapshot
  · intro s event t _ _ stepped
    exact snapshot_of_step stepped
  · intro s event t snapshot tells stepped
    exact heartTells_step_iff snapshot tells stepped
  · intro s event refused
    exact tapsSingle_of_refused refused
  · rintro visit ⟨⟩
  · rintro visit ⟨⟩

end Browsing

end PetApp
