import PetApp.Lib.Runs
import PetApp.Favorite.Store

/-!
The detail screen of an animal: `DetailItemViewController.swift`.

`configUI` takes a snapshot of the favourites; `initNameCell` colours the heart
and `heartButtonClousure` handles a tap, both on that snapshot. The closure
inserts or deletes at once and leaves the refresh of the snapshot to the main
queue, so a second tap can be handled on the snapshot of the first.

* `heartButtonClousure_eq` — a tap deletes the first snapshot object of the
  species, or inserts the animal when there is none.
* `tap_insert`, `tap_delete` — on a fresh snapshot of a store with at most one
  row of the species, a tap inserts the missing row or deletes the only one.
* `second_tap_unsafe` — the next tap, handled before the refresh, inserts a
  second row or deletes a row that is gone.
* `heart_taps_safe_iff` — so a run of taps and refreshes is safe exactly when no
  tap is handled while a refresh is pending.

What `value(forKey:)` answers on an object whose deletion has been saved is the
parameter `deleted`: Core Data may answer the old value or `nil`.
-/

namespace PetApp

open Runs

/-- The tint of the heart button. -/
inductive HeartColor where
  | red
  | white
deriving DecidableEq, Repr

/-- `favorite.value(forKey: "species")`. -/
def Context.species (deleted : Favorite → Option String) (ctx : Context) (favorite : Favorite) :
    Option String :=
  if ctx.isStored favorite then favorite.species else deleted favorite

/-- The state of a `DetailItemViewController` and of its name cell. -/
structure DetailItem where
  animal : Option Animal
  favorites : List Favorite
  heartButton : HeartColor

namespace DetailItem

section Controller

variable (codec : ImageCodec) (deleted : Favorite → Option String)

/-- The snapshot objects of the animal's species: `animalObject` of the closure. -/
def animalObject (ctx : Context) (animal : Animal) (detail : DetailItem) : List Favorite :=
  detail.favorites.filter fun favorite => ctx.species deleted favorite == some animal.species

/-- `favorites.contains` with the same test: `isContains` and `isInclude`. -/
def isInclude (ctx : Context) (animal : Animal) (detail : DetailItem) : Bool :=
  detail.favorites.any fun favorite => ctx.species deleted favorite == some animal.species

/-- The snapshot that `configUI` takes and that a refresh takes again. -/
def refresh (ctx : Context) (detail : DetailItem) : DetailItem :=
  { detail with favorites := getFavoriteOfCurrentUser ctx }

/-- The colour `initNameCell` gives the heart. -/
def initNameCell (ctx : Context) (detail : DetailItem) : DetailItem :=
  match detail.animal with
  | none => detail
  | some animal =>
      { detail with heartButton := if isInclude deleted ctx animal detail then .red else .white }

/-- The screen after `setAnimal` and `viewDidLoad`, with its name cell shown. -/
def opened (ctx : Context) (animal : Animal) : DetailItem :=
  initNameCell deleted ctx (refresh ctx ⟨some animal, [], .white⟩)

/-- `heartButtonClousure` up to its deferred refresh. -/
def heartButtonClousure (animal : Animal) (uid : Option String) (saves : Bool) (ctx : Context)
    (detail : DetailItem) : Context × DetailItem :=
  if isInclude deleted ctx animal detail then
    match (animalObject deleted ctx animal detail).head? with
    -- `animalObject[0]` exists because `isInclude` found an object
    | none => (ctx, detail)
    | some favorite =>
        ((deleteFavorite favorite saves ctx).2, { detail with heartButton := .white })
  else
    ((insertFavorite codec animal (uid.getD "") saves ctx).2, { detail with heartButton := .red })

end Controller

section Facts

variable {codec : ImageCodec} {deleted : Favorite → Option String}
  {ctx : Context} {animal : Animal} {uid : Option String} {detail : DetailItem}

theorem isInclude_eq_false_iff :
    isInclude deleted ctx animal detail = false ↔ animalObject deleted ctx animal detail = [] := by
  simp [isInclude, animalObject, List.filter_eq_nil_iff]

/-- A tap deletes the first snapshot object of the species, or inserts the
animal when the snapshot has none. -/
theorem heartButtonClousure_eq (saves : Bool) :
    heartButtonClousure codec deleted animal uid saves ctx detail =
      match animalObject deleted ctx animal detail with
      | [] => ((insertFavorite codec animal (uid.getD "") saves ctx).2,
          { detail with heartButton := .red })
      | favorite :: _ => ((deleteFavorite favorite saves ctx).2,
          { detail with heartButton := .white }) := by
  cases objects : animalObject deleted ctx animal detail with
  | nil => simp [heartButtonClousure, isInclude_eq_false_iff.mpr objects]
  | cons favorite rest =>
      have included : isInclude deleted ctx animal detail = true := by
        rw [← Bool.not_eq_false, isInclude_eq_false_iff, objects]
        simp
      simp [heartButtonClousure, included, objects]

/-- A stored object answers its own species. -/
theorem species_of_mem {favorite : Favorite} (member : favorite ∈ ctx.objects) :
    ctx.species deleted favorite = favorite.species := by
  simp [Context.species, Context.isStored_of_mem member]

end Facts

end DetailItem

/-- The stored rows of the animal's species. -/
def Context.speciesRows (ctx : Context) (animal : Animal) : List Favorite :=
  ctx.objects.filter fun favorite => favorite.species == some animal.species

/-- On a fresh snapshot the closure finds exactly the stored rows. -/
theorem DetailItem.animalObject_of_fresh (deleted : Favorite → Option String) (animal : Animal)
    {ctx : Context} {detail : DetailItem} (fresh : detail.favorites = ctx.objects) :
    animalObject deleted ctx animal detail = ctx.speciesRows animal := by
  unfold animalObject Context.speciesRows
  rw [fresh]
  exact List.filter_congr fun favorite member => by rw [species_of_mem member]

/-- With objects that keep their values after deletion, the objects the closure
finds depend on the snapshot alone. -/
theorem DetailItem.animalObject_of_kept (animal : Animal) (ctx ctx' : Context)
    {detail detail' : DetailItem} (same : detail'.favorites = detail.favorites) :
    animalObject Favorite.species ctx' animal detail' =
      animalObject Favorite.species ctx animal detail := by
  have reads : ∀ (ctx : Context) (favorite : Favorite),
      ctx.species Favorite.species favorite = favorite.species := by
    intro ctx favorite
    unfold Context.species
    split <;> rfl
  simp only [animalObject, reads, same]

/-! ### Taps and deferred refreshes -/

/-- A detail screen, the store, and the number of refreshes the main queue still
has to run. -/
structure HeartScreen where
  context : Context
  detail : DetailItem
  pending : Nat

inductive HeartEvent where
  | tap
  | refresh
deriving DecidableEq, Repr

namespace HeartScreen

section Machine

variable (codec : ImageCodec) (deleted : Favorite → Option String) (animal : Animal)
  (uid : Option String)

/-- The screen just opened on the animal. -/
def opened (ctx : Context) : HeartScreen := ⟨ctx, DetailItem.opened deleted ctx animal, 0⟩

/-- The screen after a tap whose save succeeds. -/
def tapped (s : HeartScreen) : HeartScreen :=
  let after := DetailItem.heartButtonClousure codec deleted animal uid true s.context s.detail
  ⟨after.1, after.2, s.pending + 1⟩

/-- Handle a tap, or run the next refresh of the main queue. -/
def step (s : HeartScreen) : HeartEvent → Option HeartScreen
  | .tap => some (tapped codec deleted animal uid s)
  | .refresh =>
      match s.pending with
      | 0 => none
      | pending + 1 => some { s with detail := s.detail.refresh s.context, pending := pending }

/-- What is asked of every tap: it deletes only a stored row, it leaves at most
one row of the species, and it leaves the heart red exactly if there is one. -/
def TapSafe (s : HeartScreen) : HeartEvent → Prop
  | .tap =>
      (∀ favorite ∈ (DetailItem.animalObject deleted s.context animal s.detail).head?,
        s.context.isStored favorite = true) ∧
      let after := tapped codec deleted animal uid s
      (after.context.speciesRows animal).length ≤ 1 ∧
        (after.detail.heartButton = .red ↔ after.context.speciesRows animal ≠ [])
  | .refresh => True

end Machine

/-- No tap is handled while a refresh is pending; `pending` counts the refreshes
still to run. A refresh with none pending cannot happen. -/
def TapsWait : (pending : Nat) → List HeartEvent → Prop
  | _, [] => True
  | pending, .tap :: events => pending = 0 ∧ TapsWait (pending + 1) events
  | 0, .refresh :: _ => True
  | pending + 1, .refresh :: events => TapsWait pending events

section Facts

variable {codec : ImageCodec} {deleted : Favorite → Option String} {animal : Animal}
  {uid : Option String} {s : HeartScreen}

/-- The snapshot is the store. -/
def Fresh (s : HeartScreen) : Prop := s.detail.favorites = s.context.objects

theorem fresh_opened (ctx : Context) : Fresh (opened deleted animal ctx) := rfl

/-- A tap that finds no object of the species inserts a row. -/
theorem tap_insert (codec : ImageCodec) (uid : Option String)
    (none : DetailItem.animalObject deleted s.context animal s.detail = []) :
    (tapped codec deleted animal uid s).context.objects =
        s.context.objects ++ [favoriteOf codec animal (uid.getD "") s.context.nextID] ∧
      (tapped codec deleted animal uid s).detail.heartButton = .red := by
  simp only [tapped, DetailItem.heartButtonClousure_eq, none]
  exact ⟨objects_insertFavorite .., trivial⟩

/-- A tap that finds an object of the species deletes the first one. -/
theorem tap_delete (codec : ImageCodec) (uid : Option String) {favorite : Favorite}
    {rest : List Favorite}
    (found : DetailItem.animalObject deleted s.context animal s.detail = favorite :: rest) :
    (tapped codec deleted animal uid s).context.objects =
        s.context.objects.filter (fun o => o.objectID ≠ favorite.objectID) ∧
      (tapped codec deleted animal uid s).detail.heartButton = .white := by
  simp only [tapped, DetailItem.heartButtonClousure_eq, found]
  exact ⟨objects_deleteFavorite .., trivial⟩

theorem tapped_favorites (codec : ImageCodec) (deleted : Favorite → Option String)
    (animal : Animal) (uid : Option String) (s : HeartScreen) :
    (tapped codec deleted animal uid s).detail.favorites = s.detail.favorites := by
  simp only [tapped, DetailItem.heartButtonClousure_eq]
  split <;> rfl

/-- The rows of the species after an insertion. -/
theorem speciesRows_of_append {ctx : Context} {uid : String} {objectID : Nat}
    (appended : ctx.objects = s.context.objects ++ [favoriteOf codec animal uid objectID]) :
    ctx.speciesRows animal =
      s.context.speciesRows animal ++ [favoriteOf codec animal uid objectID] := by
  simp [Context.speciesRows, appended, List.filter_append, favoriteOf]

/-- The rows of the species after the deletion of the only one. -/
theorem speciesRows_of_filter {ctx : Context} {favorite : Favorite}
    (filtered : ctx.objects = s.context.objects.filter fun o => o.objectID ≠ favorite.objectID)
    (only : s.context.speciesRows animal = [favorite]) : ctx.speciesRows animal = [] := by
  have swapped : ctx.speciesRows animal =
      (s.context.speciesRows animal).filter fun o => o.objectID ≠ favorite.objectID := by
    unfold Context.speciesRows
    rw [filtered, List.filter_comm]
  simp [swapped, only]

theorem speciesRows_cases (rows : (s.context.speciesRows animal).length ≤ 1) :
    s.context.speciesRows animal = [] ∨ ∃ favorite, s.context.speciesRows animal = [favorite] := by
  cases found : s.context.speciesRows animal with
  | nil => exact .inl rfl
  | cons favorite rest =>
      rw [found, List.length_cons] at rows
      exact .inr ⟨favorite, by rw [List.eq_nil_of_length_eq_zero (l := rest) (by omega)]⟩

theorem mem_of_speciesRows {favorite : Favorite} (only : s.context.speciesRows animal = [favorite]) :
    favorite ∈ s.context.objects ∧ favorite.species = some animal.species := by
  have member : favorite ∈ s.context.speciesRows animal := by simp [only]
  simpa [Context.speciesRows] using member

/-- A tap on a fresh snapshot is safe, whatever deleted objects answer. -/
theorem tapSafe_of_fresh (fresh : Fresh s) (rows : (s.context.speciesRows animal).length ≤ 1) :
    TapSafe codec deleted animal uid s .tap := by
  have objects := DetailItem.animalObject_of_fresh deleted animal fresh
  rcases speciesRows_cases rows with none | ⟨favorite, only⟩
  · rw [none] at objects
    obtain ⟨appended, red⟩ := tap_insert codec uid objects
    have now := speciesRows_of_append appended
    rw [none] at now
    exact ⟨by simp [objects], by simp [now], by simp [red, now]⟩
  · rw [only] at objects
    obtain ⟨filtered, white⟩ := tap_delete codec uid objects
    have now := speciesRows_of_filter filtered only
    refine ⟨?_, by simp [now], by simp [white, now]⟩
    simp only [objects, List.head?_cons, Option.mem_def, Option.some.injEq]
    rintro _ rfl
    exact Context.isStored_of_mem (mem_of_speciesRows only).1

/-- With objects that keep their values after deletion, the tap that follows a
tap on a fresh snapshot is unsafe when it is handled before the refresh: it
inserts a second row, or deletes a row that is no longer stored. -/
theorem second_tap_unsafe (fresh : Fresh s) (rows : (s.context.speciesRows animal).length ≤ 1) :
    ¬ TapSafe codec Favorite.species animal uid
        (tapped codec Favorite.species animal uid s) .tap := by
  have before := DetailItem.animalObject_of_fresh Favorite.species animal fresh
  -- the snapshot is still the one of the first tap
  have snapshot := DetailItem.animalObject_of_kept animal s.context
    (tapped codec Favorite.species animal uid s).context
    (tapped_favorites codec Favorite.species animal uid s)
  rw [before] at snapshot
  rcases speciesRows_cases rows with none | ⟨favorite, only⟩
  · rintro ⟨-, atMostOne, -⟩
    rw [none] at before snapshot
    have first := speciesRows_of_append (tap_insert codec uid before).1
    have second := speciesRows_of_append (tap_insert codec uid snapshot).1
    rw [second, first, none] at atMostOne
    simp at atMostOne
  · rintro ⟨stored, -⟩
    rw [only] at before snapshot
    have filtered := (tap_delete codec uid before).1
    obtain ⟨o, member, same⟩ :=
      Context.isStored_iff.mp (stored favorite (by simp [snapshot]))
    rw [filtered] at member
    simp [same] at member

/-- A run that waits for every refresh is safe, whatever deleted objects answer.
The snapshot is fresh whenever no refresh is pending. -/
theorem meets_of_tapsWait (codec : ImageCodec) (deleted : Favorite → Option String)
    (uid : Option String) {s : HeartScreen} (rows : (s.context.speciesRows animal).length ≤ 1)
    (fresh : s.pending = 0 → Fresh s) {events : List HeartEvent} (waits : TapsWait s.pending events) :
    Meets (step codec deleted animal uid) (TapSafe codec deleted animal uid) s events := by
  induction events generalizing s with
  | nil => trivial
  | cons event events ih =>
      cases event with
      | tap =>
          obtain ⟨idle, later⟩ := waits
          have safe : TapSafe codec deleted animal uid s .tap := tapSafe_of_fresh (fresh idle) rows
          refine ⟨safe, fun t stepped => ?_⟩
          cases stepped
          exact ih safe.2.1 (fun h => absurd h (Nat.succ_ne_zero _)) later
      | refresh =>
          refine ⟨trivial, fun t stepped => ?_⟩
          cases pending : s.pending with
          | zero => simp [step, pending] at stepped
          | succ n =>
              rw [pending] at waits
              simp only [step, pending, Option.some.injEq] at stepped
              subst stepped
              exact ih rows (fun _ => rfl) waits

/-- With objects that keep their values after deletion, a safe run waits for
every refresh. Either the snapshot is fresh, or one refresh is pending and a tap
would be unsafe. -/
theorem tapsWait_of_meets (codec : ImageCodec) (uid : Option String) {s : HeartScreen}
    (rows : (s.context.speciesRows animal).length ≤ 1)
    (state : s.pending = 0 ∧ Fresh s ∨
      s.pending = 1 ∧ ¬ TapSafe codec Favorite.species animal uid s .tap)
    {events : List HeartEvent}
    (safe : Meets (step codec Favorite.species animal uid)
      (TapSafe codec Favorite.species animal uid) s events) :
    TapsWait s.pending events := by
  induction events generalizing s with
  | nil =>
      cases s.pending <;> trivial
  | cons event events ih =>
      cases event with
      | tap =>
          rcases state with ⟨idle, fresh⟩ | ⟨-, unsafeTap⟩
          · refine ⟨idle, ih (s := tapped codec Favorite.species animal uid s) safe.1.2.1
              (.inr ⟨?_, second_tap_unsafe fresh rows⟩) (safe.2 _ rfl)⟩
            simp [tapped, idle]
          · exact absurd safe.1 unsafeTap
      | refresh =>
          rcases state with ⟨idle, -⟩ | ⟨one, -⟩
          · rw [idle]
            trivial
          · rw [one]
            exact ih (s := { s with detail := s.detail.refresh s.context, pending := 0 }) rows
              (.inl ⟨rfl, rfl⟩) (safe.2 _ (by simp [step, one]))

end Facts

/-- **Heart taps are safe exactly when they wait for the refresh.** From any
store with at most one row of the animal's species, a run of taps and refreshes
keeps at most one row, deletes only stored rows and shows the right colour after
every tap, whatever deleted objects answer, exactly when no tap is handled while
a refresh is pending. -/
theorem heart_taps_safe_iff (codec : ImageCodec) (animal : Animal) (uid : Option String)
    (ctx : Context) (rows : (ctx.speciesRows animal).length ≤ 1) (events : List HeartEvent) :
    (∀ deleted, Meets (step codec deleted animal uid) (TapSafe codec deleted animal uid)
        (opened deleted animal ctx) events) ↔ TapsWait 0 events := by
  constructor
  · intro safe
    exact tapsWait_of_meets codec uid (s := opened Favorite.species animal ctx) rows
      (.inl ⟨rfl, fresh_opened ctx⟩) (safe Favorite.species)
  · intro waits deleted
    exact meets_of_tapsWait codec deleted uid (s := opened deleted animal ctx) rows
      (fun _ => fresh_opened ctx) waits

/-- Waiting for each refresh, two taps on an empty store are safe. -/
theorem heart_taps_safe_tap_refresh_tap :
    (Context.empty.speciesRows Animal.husky).length ≤ 1 ∧
      ∀ deleted, Meets (step .raw deleted .husky (some "alice"))
        (TapSafe .raw deleted .husky (some "alice")) (opened deleted .husky .empty)
        [.tap, .refresh, .tap] :=
  ⟨by decide, (heart_taps_safe_iff .raw .husky (some "alice") .empty (by decide)
    [.tap, .refresh, .tap]).mpr ⟨rfl, rfl, trivial⟩⟩

/-- Two taps before the refresh of the first store the species twice. -/
theorem two_quick_taps_store_twice :
    (Context.empty.speciesRows Animal.husky).length ≤ 1 ∧
      ¬ Meets (step .raw (fun _ => none) .husky (some "alice"))
        (TapSafe .raw (fun _ => none) .husky (some "alice")) (opened (fun _ => none) .husky .empty)
        [.tap, .tap] := by
  refine ⟨by decide, ?_⟩
  rintro ⟨-, later⟩
  have atMostOne := (later _ rfl).1.2.1
  revert atMostOne
  decide

end HeartScreen

end PetApp
