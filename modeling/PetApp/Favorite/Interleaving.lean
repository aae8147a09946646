import PetApp.Lib.Lists
import PetApp.Lib.Traces
import PetApp.Favorite.Toggle

/-!
Heart taps and refreshes in any order, counted.

The taps on a detail screen are handled on a snapshot, and any number of them can be handled
before a refresh replaces it. How many rows of the species the store then holds depends on what
Core Data answers for a deleted object. If it keeps its values, a tap that has deleted the first
object of the snapshot is followed by taps that delete it again; if it answers `nil`, the next
tap deletes the next object.

* `HeartCounter` — the abstract screen: rows stored, rows the snapshot still finds, and whether
  the snapshot starts with a deleted object.
* `animalObject_of_not_stuck`, `exists_of_stuck` — what a tap finds.
* `counter_step` — the view of the screen as a counter takes every step with it.
* `rows_run_taps` — what any number of taps before the first refresh leave.
* `taps_refine_counter` — so a screen is its counter, in every order of taps and refreshes.
* `heart_true_iff` — a red heart never lies, and a white one exactly when a tap takes one of
  several rows, or one that is gone while others are stored.
-/

namespace PetApp

open Runs

/-! ### The abstract screen -/

/-- The rows of the species in the store, the rows of the snapshot that are still stored, and
whether the snapshot starts with an object that is deleted and keeps its values. -/
structure HeartCounter where
  rows : Nat
  live : Nat
  stuck : Bool
  heartButton : HeartColor
  pending : Nat
deriving DecidableEq, Repr

namespace HeartCounter

/-- What a tap does. -/
def tapped (kept : Bool) (c : HeartCounter) : HeartCounter :=
  if c.stuck then { c with heartButton := .white, pending := c.pending + 1 }
  else if c.live = 0 then
    { c with rows := c.rows + 1, heartButton := .red, pending := c.pending + 1 }
  else
    { rows := c.rows - 1
      live := c.live - 1
      stuck := kept
      heartButton := .white
      pending := c.pending + 1 }

/-- A tap, or the next refresh. `kept`: a deleted object keeps its values. -/
def step (kept : Bool) (c : HeartCounter) : HeartEvent → Option HeartCounter
  | .tap => some (c.tapped kept)
  | .refresh =>
      match c.pending with
      | 0 => none
      | pending + 1 => some { c with live := c.rows, stuck := false, pending := pending }

section Facts

variable {c : HeartCounter}

theorem tapped_of_stuck (kept : Bool) (stuck : c.stuck = true) :
    c.tapped kept = ⟨c.rows, c.live, c.stuck, .white, c.pending + 1⟩ := by
  simp [tapped, stuck]

theorem tapped_of_missing (kept : Bool) (notStuck : c.stuck = false) (missing : c.live = 0) :
    c.tapped kept = ⟨c.rows + 1, c.live, c.stuck, .red, c.pending + 1⟩ := by
  simp [tapped, notStuck, missing]

theorem tapped_of_live (kept : Bool) (notStuck : c.stuck = false) (live : c.live ≠ 0) :
    c.tapped kept = ⟨c.rows - 1, c.live - 1, kept, .white, c.pending + 1⟩ := by
  simp [tapped, notStuck, live]

end Facts

end HeartCounter

/-! ### The screen as a counter -/

/-- What `value(forKey: "species")` answers on a deleted object. -/
def deletedAnswer (kept : Bool) : Favorite → Option String :=
  if kept then Favorite.species else fun _ => none

/-- The objects of the snapshot that were of the species when it was taken. -/
def DetailItem.snapshotRows (animal : Animal) (detail : DetailItem) : List Favorite :=
  detail.favorites.filter fun favorite => favorite.species == some animal.species

namespace HeartScreen

/-- The objects of the snapshot that are still stored. -/
def liveRows (animal : Animal) (s : HeartScreen) : List Favorite :=
  (s.detail.snapshotRows animal).filter s.context.isStored

/-- The view of a screen as a counter. -/
def counter (kept : Bool) (animal : Animal) (s : HeartScreen) : HeartCounter where
  rows := (s.context.speciesRows animal).length
  live := (s.liveRows animal).length
  stuck := kept && (s.detail.snapshotRows animal).head?.any fun favorite =>
    !s.context.isStored favorite
  heartButton := s.detail.heartButton
  pending := s.pending

/-- The invariant: the snapshot has objects the store has or had, each once, and if deleted
objects keep their values only the first one of the species can be deleted. -/
structure Tracked (kept : Bool) (animal : Animal) (s : HeartScreen) : Prop where
  known : ∀ favorite ∈ s.detail.favorites, favorite.objectID < s.context.nextID
  same : ∀ favorite ∈ s.detail.favorites, s.context.isStored favorite = true →
    favorite ∈ s.context.objects
  distinct : (s.detail.favorites.map Favorite.objectID).Nodup
  tail : kept = true → ∀ favorite ∈ (s.detail.snapshotRows animal).tail,
    s.context.isStored favorite = true

section Facts

variable {codec : ImageCodec} {kept : Bool} {animal : Animal} {uid : Option String}
  {s t : HeartScreen}

/-- A fresh snapshot is tracked. -/
theorem tracked_of_fresh (kept : Bool) (animal : Animal) (fresh : Fresh s) :
    Tracked kept animal s where
  known := by
    rw [fresh]
    exact s.context.registered
  same := by
    rw [fresh]
    exact fun _ member _ => member
  distinct := by
    rw [fresh]
    exact s.context.distinct
  tail := by
    intro _ favorite member
    have inRows := List.mem_of_mem_tail member
    rw [DetailItem.snapshotRows, fresh] at inRows
    exact Context.isStored_of_mem (List.mem_filter.mp inRows).1

/-- What the closure finds: all objects of the snapshot if deleted ones keep their values,
else those that are stored. -/
theorem animalObject_deletedAnswer (kept : Bool) (animal : Animal) (s : HeartScreen) :
    DetailItem.animalObject (deletedAnswer kept) s.context animal s.detail =
      if kept then s.detail.snapshotRows animal else s.liveRows animal := by
  unfold DetailItem.animalObject liveRows DetailItem.snapshotRows
  cases kept with
  | true =>
      refine List.filter_congr fun favorite _ => ?_
      simp [Context.species, deletedAnswer]
  | false =>
      rw [if_neg (by simp), List.filter_filter]
      refine List.filter_congr fun favorite _ => ?_
      cases stored : s.context.isStored favorite <;> simp [Context.species, deletedAnswer, stored]

/-- A snapshot that does not start with a deleted object gives the closure its stored rows. -/
theorem animalObject_of_not_stuck (tracked : Tracked kept animal s)
    (notStuck : (s.counter kept animal).stuck = false) :
    DetailItem.animalObject (deletedAnswer kept) s.context animal s.detail = s.liveRows animal := by
  rw [animalObject_deletedAnswer]
  cases kept with
  | false => rfl
  | true =>
      rw [if_pos rfl, liveRows]
      refine (List.filter_eq_self.mpr ?_).symm
      have tail := tracked.tail rfl
      intro favorite member
      cases rows : s.detail.snapshotRows animal with
      | nil => simp [rows] at member
      | cons first rest =>
          rw [rows] at member tail
          rcases List.mem_cons.mp member with rfl | later
          · simpa [counter, rows] using notStuck
          · exact tail favorite later

/-- A snapshot that starts with a deleted object gives the closure that object. -/
theorem exists_of_stuck (stuck : (s.counter kept animal).stuck = true) :
    ∃ favorite rest,
      DetailItem.animalObject (deletedAnswer kept) s.context animal s.detail = favorite :: rest ∧
        s.context.isStored favorite = false := by
  simp only [counter, Bool.and_eq_true, Option.any_eq_true] at stuck
  obtain ⟨rfl, favorite, first, deleted⟩ := stuck
  rw [animalObject_deletedAnswer, if_pos rfl]
  cases rows : s.detail.snapshotRows animal with
  | nil => simp [rows] at first
  | cons favorite' rest =>
      rw [rows] at first
      cases first
      exact ⟨favorite, rest, rfl, by simpa using deleted⟩

/-! ### One step -/

theorem isStored_of_append {ctx ctx' : Context} {row favorite : Favorite}
    (appended : ctx'.objects = ctx.objects ++ [row]) (other : favorite.objectID ≠ row.objectID) :
    ctx'.isStored favorite = ctx.isStored favorite := by
  simp [Context.isStored, appended, Ne.symm other]

theorem isStored_of_filter {ctx ctx' : Context} {id : Nat} (favorite : Favorite)
    (filtered : ctx'.objects = ctx.objects.filter fun o => o.objectID ≠ id) :
    ctx'.isStored favorite = (ctx.isStored favorite && decide (favorite.objectID ≠ id)) := by
  rw [Bool.eq_iff_iff, Bool.and_eq_true, decide_eq_true_iff, Context.isStored_iff,
    Context.isStored_iff, filtered]
  constructor
  · rintro ⟨o, member, same⟩
    obtain ⟨stored, other⟩ := List.mem_filter.mp member
    exact ⟨⟨o, stored, same⟩, by simpa [same] using other⟩
  · rintro ⟨⟨o, stored, same⟩, other⟩
    exact ⟨o, List.mem_filter.mpr ⟨stored, by simpa [same] using other⟩, same⟩

theorem nextID_tapped (codec : ImageCodec) (deleted : Favorite → Option String) (animal : Animal)
    (uid : Option String) (s : HeartScreen) :
    s.context.nextID ≤ (tapped codec deleted animal uid s).context.nextID := by
  simp only [tapped, DetailItem.heartButtonClousure_eq]
  split
  · exact Nat.le_succ _
  · exact Nat.le_refl _

/-- A tap keeps the snapshot, so it keeps the invariant if the objects of the snapshot that it
leaves stored are rows of the store, and the later ones of the species stay. -/
theorem tracked_of_tapped (tracked : Tracked kept animal s) {deleted : Favorite → Option String}
    (stored : ∀ favorite ∈ s.detail.favorites,
      (tapped codec deleted animal uid s).context.isStored favorite = true →
      favorite ∈ (tapped codec deleted animal uid s).context.objects)
    (tail : kept = true → ∀ favorite ∈ (s.detail.snapshotRows animal).tail,
      (tapped codec deleted animal uid s).context.isStored favorite = true) :
    Tracked kept animal (tapped codec deleted animal uid s) := by
  have favorites := tapped_favorites codec deleted animal uid s
  have rows : (tapped codec deleted animal uid s).detail.snapshotRows animal =
      s.detail.snapshotRows animal := by
    unfold DetailItem.snapshotRows
    rw [favorites]
  refine ⟨?_, ?_, ?_, ?_⟩
  · rw [favorites]
    exact fun favorite member => (tracked.known favorite member).trans_le (nextID_tapped ..)
  · rw [favorites]
    exact stored
  · rw [favorites]
    exact tracked.distinct
  · rw [rows]
    exact tail

/-- The counter after a tap: the snapshot is the one before. -/
theorem counter_tapped {deleted : Favorite → Option String} {rows live : Nat} {stuck : Bool}
    {heart : HeartColor}
    (counted : ((tapped codec deleted animal uid s).context.speciesRows animal).length = rows)
    (remain : ((s.detail.snapshotRows animal).filter
      (tapped codec deleted animal uid s).context.isStored).length = live)
    (first : (kept && (s.detail.snapshotRows animal).head?.any fun favorite =>
      !(tapped codec deleted animal uid s).context.isStored favorite) = stuck)
    (colour : (tapped codec deleted animal uid s).detail.heartButton = heart) :
    (tapped codec deleted animal uid s).counter kept animal =
      ⟨rows, live, stuck, heart, s.pending + 1⟩ := by
  have snapshot : (tapped codec deleted animal uid s).detail.snapshotRows animal =
      s.detail.snapshotRows animal := by
    unfold DetailItem.snapshotRows
    rw [tapped_favorites]
  unfold counter liveRows
  rw [snapshot, counted, remain, first, colour]
  rfl

/-- A tap that finds nothing adds a row that no snapshot knows. -/
theorem tap_of_missing (codec : ImageCodec) (uid : Option String)
    (tracked : Tracked kept animal s)
    (missing : DetailItem.animalObject (deletedAnswer kept) s.context animal s.detail = []) :
    Tracked kept animal (tapped codec (deletedAnswer kept) animal uid s) ∧
      (tapped codec (deletedAnswer kept) animal uid s).counter kept animal =
        (s.counter kept animal).tapped kept := by
  obtain ⟨appended, red⟩ := tap_insert codec uid missing
  have same : ∀ favorite ∈ s.detail.favorites,
      (tapped codec (deletedAnswer kept) animal uid s).context.isStored favorite =
        s.context.isStored favorite := by
    intro favorite member
    exact isStored_of_append appended (tracked.known favorite member).ne
  have notStuck : (s.counter kept animal).stuck = false := by
    by_contra stuck
    obtain ⟨favorite, rest, found, -⟩ := exists_of_stuck (Bool.not_eq_false _ ▸ stuck)
    rw [missing] at found
    cases found
  have none : s.liveRows animal = [] :=
    (animalObject_of_not_stuck tracked notStuck).symm.trans missing
  have inSnapshot : ∀ favorite ∈ s.detail.snapshotRows animal, favorite ∈ s.detail.favorites :=
    fun _ member => (List.mem_filter.mp member).1
  refine ⟨tracked_of_tapped tracked ?_ ?_, ?_⟩
  · intro favorite member stored
    rw [same favorite member] at stored
    rw [appended]
    exact List.mem_append_left _ (tracked.same favorite member stored)
  · intro isKept favorite member
    rw [same favorite (inSnapshot favorite (List.mem_of_mem_tail member))]
    exact tracked.tail isKept favorite member
  · have remain : (s.detail.snapshotRows animal).filter
        (tapped codec (deletedAnswer kept) animal uid s).context.isStored = s.liveRows animal :=
      List.filter_congr fun favorite member => same favorite (inSnapshot favorite member)
    have first : (kept && (s.detail.snapshotRows animal).head?.any fun favorite =>
        !(tapped codec (deletedAnswer kept) animal uid s).context.isStored favorite) =
        (s.counter kept animal).stuck := by
      unfold counter
      cases rows : s.detail.snapshotRows animal with
      | nil => rfl
      | cons favorite rest => simp [same favorite (inSnapshot favorite (by simp [rows]))]
    have counted := congrArg List.length (speciesRows_of_append appended)
    have live : (s.counter kept animal).live = 0 := congrArg List.length none
    rw [HeartCounter.tapped_of_missing kept notStuck live,
      counter_tapped counted (congrArg List.length remain) first red, List.length_append]
    rfl

/-- A tap on a deleted object changes the heart only. -/
theorem tap_of_stuck (codec : ImageCodec) (uid : Option String) (tracked : Tracked kept animal s)
    (stuck : (s.counter kept animal).stuck = true) :
    Tracked kept animal (tapped codec (deletedAnswer kept) animal uid s) ∧
      (tapped codec (deletedAnswer kept) animal uid s).counter kept animal =
        (s.counter kept animal).tapped kept := by
  obtain ⟨favorite, rest, found, gone⟩ := exists_of_stuck stuck
  obtain ⟨filtered, white⟩ := tap_delete codec uid found
  have objects : (tapped codec (deletedAnswer kept) animal uid s).context.objects =
      s.context.objects := by
    rw [filtered, List.filter_eq_self]
    intro o stored
    have other : o.objectID ≠ favorite.objectID := by
      intro same
      rw [Context.isStored_iff.mpr ⟨o, stored, same⟩] at gone
      cases gone
    simpa using other
  have same : (tapped codec (deletedAnswer kept) animal uid s).context.isStored =
      s.context.isStored := by
    funext o
    rw [Context.isStored, Context.isStored, objects]
  refine ⟨tracked_of_tapped tracked ?_ ?_, ?_⟩
  · rw [same, objects]
    exact tracked.same
  · rw [same]
    exact tracked.tail
  · have counted : ((tapped codec (deletedAnswer kept) animal uid s).context.speciesRows
        animal).length = (s.context.speciesRows animal).length := by
      rw [Context.speciesRows, Context.speciesRows, objects]
    rw [HeartCounter.tapped_of_stuck kept stuck,
      counter_tapped counted (by rw [same]) (by rw [same]) white]
    rfl

/-- The deletion of a stored row leaves one row of its species less. -/
theorem length_speciesRows_of_filter {ctx ctx' : Context} {favorite : Favorite}
    (filtered : ctx'.objects = ctx.objects.filter fun o => o.objectID ≠ favorite.objectID)
    (member : favorite ∈ ctx.speciesRows animal) :
    (ctx'.speciesRows animal).length + 1 = (ctx.speciesRows animal).length := by
  have swapped : ctx'.speciesRows animal =
      (ctx.speciesRows animal).filter fun o => o.objectID ≠ favorite.objectID := by
    unfold Context.speciesRows
    rw [filtered, List.filter_comm]
  rw [swapped]
  exact Lists.length_filter_key_ne Favorite.objectID
    (ctx.distinct.sublist (List.filter_sublist.map _)) member

/-- The deletion of a row the snapshot finds leaves it one row less to find. -/
theorem length_liveRows_of_filter (tracked : Tracked kept animal s) {ctx' : Context}
    {favorite : Favorite}
    (filtered : ctx'.objects = s.context.objects.filter fun o => o.objectID ≠ favorite.objectID)
    (isLive : favorite ∈ s.liveRows animal) :
    ((s.detail.snapshotRows animal).filter ctx'.isStored).length + 1 =
      (s.liveRows animal).length := by
  have narrowed : (s.detail.snapshotRows animal).filter ctx'.isStored =
      (s.liveRows animal).filter fun o => o.objectID ≠ favorite.objectID := by
    unfold liveRows
    rw [List.filter_filter]
    exact List.filter_congr fun o _ => by rw [isStored_of_filter o filtered, Bool.and_comm]
  rw [narrowed]
  exact Lists.length_filter_key_ne Favorite.objectID
    (tracked.distinct.sublist ((List.filter_sublist.trans List.filter_sublist).map _)) isLive

/-- A tap on a stored object deletes it. -/
theorem tap_of_live (codec : ImageCodec) (uid : Option String) (tracked : Tracked kept animal s)
    (notStuck : (s.counter kept animal).stuck = false) {favorite : Favorite}
    {rest : List Favorite} (live : s.liveRows animal = favorite :: rest) :
    Tracked kept animal (tapped codec (deletedAnswer kept) animal uid s) ∧
      (tapped codec (deletedAnswer kept) animal uid s).counter kept animal =
        (s.counter kept animal).tapped kept := by
  have found := (animalObject_of_not_stuck tracked notStuck).trans live
  obtain ⟨filtered, white⟩ := tap_delete codec uid found
  have isLive : favorite ∈ s.liveRows animal := by simp [live]
  obtain ⟨inSnapshot, stored⟩ := List.mem_filter.mp isLive
  obtain ⟨inFavorites, ofSpecies⟩ := List.mem_filter.mp inSnapshot
  have member := tracked.same favorite inFavorites stored
  have same : ∀ o, (tapped codec (deletedAnswer kept) animal uid s).context.isStored o =
      (s.context.isStored o && decide (o.objectID ≠ favorite.objectID)) :=
    fun o => isStored_of_filter o filtered
  -- if deleted objects keep their values, the closure finds the whole snapshot
  have whole : kept = true → s.detail.snapshotRows animal = favorite :: rest := by
    rintro rfl
    rw [animalObject_deletedAnswer, if_pos rfl] at found
    exact found
  refine ⟨tracked_of_tapped tracked ?_ ?_, ?_⟩
  · intro o inSnapshot' stored'
    rw [same, Bool.and_eq_true] at stored'
    rw [filtered]
    exact List.mem_filter.mpr ⟨tracked.same o inSnapshot' stored'.1, stored'.2⟩
  · intro isKept o later
    rw [same, tracked.tail isKept o later]
    have distinct : ((s.detail.snapshotRows animal).map Favorite.objectID).Nodup :=
      tracked.distinct.sublist (List.filter_sublist.map _)
    rw [whole isKept, List.map_cons, List.nodup_cons] at distinct
    rw [whole isKept, List.tail_cons] at later
    have other : o.objectID ≠ favorite.objectID :=
      fun equal => distinct.1 (equal ▸ List.mem_map_of_mem later)
    simpa using other
  · have counted := length_speciesRows_of_filter filtered
      (List.mem_filter.mpr ⟨member, ofSpecies⟩)
    have remain := length_liveRows_of_filter tracked filtered isLive
    have first : (kept && (s.detail.snapshotRows animal).head?.any fun o =>
        !(tapped codec (deletedAnswer kept) animal uid s).context.isStored o) = kept := by
      by_cases isKept : kept = true
      · have gone : (tapped codec (deletedAnswer kept) animal uid s).context.isStored favorite =
            false := by
          rw [same]
          simp
        rw [whole isKept, List.head?_cons, Option.any_some, gone]
        exact Bool.and_true _
      · have off : kept = false := by simpa using isKept
        rw [off, Bool.false_and]
    have some : (s.counter kept animal).live ≠ 0 := by simp [counter, live]
    rw [HeartCounter.tapped_of_live kept notStuck some,
      counter_tapped (Nat.eq_sub_of_add_eq counted) (Nat.eq_sub_of_add_eq remain) first white]
    rfl

/-- Every tap on the screen is a tap on its counter, and keeps the invariant. -/
theorem tap_tracked (codec : ImageCodec) (uid : Option String) (tracked : Tracked kept animal s) :
    Tracked kept animal (tapped codec (deletedAnswer kept) animal uid s) ∧
      (tapped codec (deletedAnswer kept) animal uid s).counter kept animal =
        (s.counter kept animal).tapped kept := by
  cases stuck : (s.counter kept animal).stuck with
  | true => exact tap_of_stuck codec uid tracked stuck
  | false =>
      cases live : s.liveRows animal with
      | nil =>
          exact tap_of_missing codec uid tracked
            ((animalObject_of_not_stuck tracked stuck).trans live)
      | cons favorite rest => exact tap_of_live codec uid tracked stuck live

theorem tracked_step (tracked : Tracked kept animal s) {event : HeartEvent}
    (stepped : step codec (deletedAnswer kept) animal uid s event = some t) :
    Tracked kept animal t := by
  cases event with
  | tap =>
      cases stepped
      exact (tap_tracked codec uid tracked).1
  | refresh =>
      cases pending : s.pending with
      | zero => simp [step, pending] at stepped
      | succ n =>
          simp only [step, pending, Option.some.injEq] at stepped
          subst stepped
          exact tracked_of_fresh kept animal rfl

/-- The counter of a screen with a fresh snapshot. -/
theorem counter_of_fresh (kept : Bool) (animal : Animal) (fresh : Fresh s) :
    s.counter kept animal = ⟨(s.context.speciesRows animal).length,
      (s.context.speciesRows animal).length, false, s.detail.heartButton, s.pending⟩ := by
  have snapshot : s.detail.snapshotRows animal = s.context.speciesRows animal := by
    unfold DetailItem.snapshotRows Context.speciesRows
    rw [fresh]
  have stored : ∀ favorite ∈ s.context.speciesRows animal,
      s.context.isStored favorite = true :=
    fun _ member => Context.isStored_of_mem (List.mem_filter.mp member).1
  have live : s.liveRows animal = s.context.speciesRows animal := by
    unfold liveRows
    rw [snapshot]
    exact List.filter_eq_self.mpr stored
  have first : ((s.context.speciesRows animal).head?.any fun favorite =>
      !s.context.isStored favorite) = false := by
    cases rows : s.context.speciesRows animal with
    | nil => rfl
    | cons favorite rest => simp [stored favorite (by simp [rows])]
  unfold counter
  rw [live, snapshot, first, Bool.and_false]

theorem counter_step (codec : ImageCodec) (uid : Option String) (tracked : Tracked kept animal s)
    (event : HeartEvent) :
    (step codec (deletedAnswer kept) animal uid s event).map (counter kept animal) =
      (s.counter kept animal).step kept event := by
  cases event with
  | tap => exact congrArg some (tap_tracked codec uid tracked).2
  | refresh =>
      have same : (s.counter kept animal).pending = s.pending := rfl
      cases pending : s.pending with
      | zero => simp [step, HeartCounter.step, same, pending]
      | succ n =>
          have fresh : Fresh { s with detail := s.detail.refresh s.context, pending := n } := rfl
          simp only [step, HeartCounter.step, same, pending, Option.map_some]
          rw [counter_of_fresh kept animal fresh]
          rfl

end Facts

end HeartScreen

/-- The counter of a screen just opened on a species with `rows` rows. -/
def HeartCounter.opened (rows : Nat) : HeartCounter :=
  ⟨rows, rows, false, if rows = 0 then .white else .red, 0⟩

namespace HeartScreen

theorem counter_opened (kept : Bool) (animal : Animal) (ctx : Context) :
    (opened (deletedAnswer kept) animal ctx).counter kept animal =
      .opened (ctx.speciesRows animal).length := by
  rw [counter_of_fresh kept animal (fresh_opened ctx)]
  have heart : (opened (deletedAnswer kept) animal ctx).detail.heartButton = .red ↔
      ctx.speciesRows animal ≠ [] := by
    rw [Context.speciesRows_eq_rowsOf, ← Context.stores_iff]
    exact Browsing.heartButton_opened ctx animal
  have colour : (opened (deletedAnswer kept) animal ctx).detail.heartButton =
      if (ctx.speciesRows animal).length = 0 then .white else .red := by
    cases shown : (opened (deletedAnswer kept) animal ctx).detail.heartButton <;>
      simp_all [List.length_eq_zero_iff]
  rw [colour]
  rfl

/-- A run of the screen is a run of its counter. -/
theorem run_counter (codec : ImageCodec) (kept : Bool) (animal : Animal) (uid : Option String)
    (ctx : Context) (events : List HeartEvent) :
    (run (step codec (deletedAnswer kept) animal uid) (opened (deletedAnswer kept) animal ctx)
        events).map (counter kept animal) =
      run (HeartCounter.step kept) (.opened (ctx.speciesRows animal).length) events := by
  rw [← counter_opened kept animal ctx]
  apply run_map
  · intro s event t tracked stepped
    exact tracked_step tracked stepped
  · intro s event tracked
    exact counter_step codec uid tracked event
  · exact tracked_of_fresh kept animal (fresh_opened ctx)

end HeartScreen

/-! ### Taps before the first refresh -/

/-- The rows that `n` taps before the first refresh leave of `k`. -/
def quickRows (kept : Bool) (k n : Nat) : Nat :=
  if kept then if k = 0 then n else k - min n 1
  else if n ≤ k then k - n else n - k

namespace HeartCounter

/-- The rows that `n` taps leave of `rows` when the snapshot finds `live` of them. -/
def rowsAfter (kept : Bool) (rows live n : Nat) : Nat :=
  if kept then if live = 0 then rows + n else rows - min n 1
  else if n ≤ live then rows - n else rows - live + (n - live)

theorem rowsAfter_self (kept : Bool) (k n : Nat) : rowsAfter kept k k n = quickRows kept k n := by
  cases kept with
  | true =>
      simp only [rowsAfter, quickRows, if_true]
      split_ifs <;> omega
  | false =>
      simp only [rowsAfter, quickRows, Bool.false_eq_true, if_false]
      split_ifs <;> omega

theorem rows_run_stuck (kept : Bool) {c : HeartCounter} (stuck : c.stuck = true) (n : Nat) :
    ∃ d, run (step kept) c (List.replicate n .tap) = some d ∧ d.rows = c.rows := by
  induction n generalizing c with
  | zero => exact ⟨c, rfl, rfl⟩
  | succ n ih =>
      have next := tapped_of_stuck kept stuck
      obtain ⟨d, ran, rows⟩ := ih (c := c.tapped kept) (by rw [next]; exact stuck)
      rw [next] at rows
      exact ⟨d, run_cons_eq_some.mpr ⟨_, rfl, ran⟩, rows⟩

theorem rows_run_taps (kept : Bool) {c : HeartCounter} (notStuck : c.stuck = false)
    (le : c.live ≤ c.rows) (n : Nat) :
    ∃ d, run (step kept) c (List.replicate n .tap) = some d ∧
      d.rows = rowsAfter kept c.rows c.live n := by
  induction n generalizing c with
  | zero => exact ⟨c, rfl, by simp [rowsAfter]⟩
  | succ n ih =>
      by_cases missing : c.live = 0
      · -- every further tap adds a row
        have next := tapped_of_missing kept notStuck missing
        obtain ⟨d, ran, rows⟩ := ih (c := c.tapped kept) (by rw [next]; exact notStuck)
          (by rw [next]; exact le.trans (Nat.le_succ _))
        refine ⟨d, run_cons_eq_some.mpr ⟨_, rfl, ran⟩, rows.trans ?_⟩
        rw [next]
        simp only [rowsAfter, missing]
        split_ifs <;> omega
      · have next := tapped_of_live kept notStuck missing
        cases kept with
        | true =>
            -- the next taps find the object this one has deleted
            obtain ⟨d, ran, rows⟩ := rows_run_stuck true (c := c.tapped true) (by rw [next]) n
            refine ⟨d, run_cons_eq_some.mpr ⟨_, rfl, ran⟩, rows.trans ?_⟩
            rw [next]
            simp only [rowsAfter, missing, if_true, if_false]
            omega
        | false =>
            obtain ⟨d, ran, rows⟩ := ih (c := c.tapped false) (by rw [next])
              (by rw [next]; exact Nat.sub_le_sub_right le 1)
            refine ⟨d, run_cons_eq_some.mpr ⟨_, rfl, ran⟩, rows.trans ?_⟩
            rw [next]
            simp only [rowsAfter, Bool.false_eq_true, if_false]
            split_ifs <;> omega

end HeartCounter

namespace HeartScreen

/-- **A detail screen is a counter.** For every store and both answers of Core Data for deleted
objects: in every order of taps and refreshes, the rows of the species, the rows the snapshot
still finds, the heart and the pending refreshes are those of the counter, and the screen takes
exactly the events the counter takes. In particular, of `n` taps before the first refresh on a
species with `k` rows: if deleted objects keep their values, the taps add `n` rows to none, and
else delete one; if they answer `nil`, the taps delete the rows one by one and then add one with
every further tap. -/
theorem taps_refine_counter (codec : ImageCodec) (kept : Bool) (animal : Animal)
    (uid : Option String) (ctx : Context) :
    (∀ events, (run (step codec (deletedAnswer kept) animal uid)
        (opened (deletedAnswer kept) animal ctx) events).map (counter kept animal) =
      run (HeartCounter.step kept) (.opened (ctx.speciesRows animal).length) events) ∧
    ∀ n, ∃ t, run (step codec (deletedAnswer kept) animal uid)
        (opened (deletedAnswer kept) animal ctx) (List.replicate n .tap) = some t ∧
      (t.context.speciesRows animal).length =
        quickRows kept (ctx.speciesRows animal).length n := by
  have viewed := run_counter codec kept animal uid ctx
  refine ⟨viewed, fun n => ?_⟩
  obtain ⟨d, ran, rows⟩ := HeartCounter.rows_run_taps kept
    (c := .opened (ctx.speciesRows animal).length) rfl le_rfl n
  have view := viewed (List.replicate n .tap)
  rw [ran] at view
  obtain ⟨t, reached, rfl⟩ := Option.map_eq_some_iff.mp view
  exact ⟨t, reached, rows.trans (HeartCounter.rowsAfter_self kept _ n)⟩

/-! ### What the heart says -/

/-- The heart is red exactly when the species is stored. -/
def HeartTrue (animal : Animal) (s : HeartScreen) : Prop :=
  s.detail.heartButton = .red ↔ s.context.Stores animal.species

/-- A tap that finds an object of the species finds the last one: no other row is stored. -/
def TakesLast (deleted : Favorite → Option String) (animal : Animal) (s : HeartScreen) :
    HeartEvent → Prop
  | .tap => ∀ favorite ∈ (DetailItem.animalObject deleted s.context animal s.detail).head?,
      ∀ row ∈ s.context.speciesRows animal, row.objectID = favorite.objectID
  | .refresh => True

section Heart

variable {codec : ImageCodec} {deleted : Favorite → Option String} {animal : Animal}
  {uid : Option String} {s t : HeartScreen}

/-- A tap that finds nothing leaves a red heart and a row. -/
theorem stores_of_insert (codec : ImageCodec) (uid : Option String)
    (found : DetailItem.animalObject deleted s.context animal s.detail = []) :
    (tapped codec deleted animal uid s).context.Stores animal.species := by
  obtain ⟨appended, -⟩ := tap_insert codec uid found
  refine ⟨favoriteOf codec animal (uid.getD "") s.context.nextID, ?_, rfl⟩
  rw [appended]
  exact List.mem_append_right _ (List.mem_singleton_self _)

/-- A tap that finds an object leaves the other rows. -/
theorem stores_of_delete (codec : ImageCodec) (uid : Option String) {favorite : Favorite}
    {rest : List Favorite}
    (found : DetailItem.animalObject deleted s.context animal s.detail = favorite :: rest) :
    (tapped codec deleted animal uid s).context.Stores animal.species ↔
      ∃ row ∈ s.context.speciesRows animal, row.objectID ≠ favorite.objectID := by
  obtain ⟨filtered, -⟩ := tap_delete codec uid found
  unfold Context.Stores
  rw [filtered]
  constructor
  · rintro ⟨row, member, ofSpecies⟩
    obtain ⟨stored, other⟩ := List.mem_filter.mp member
    exact ⟨row, List.mem_filter.mpr ⟨stored, by simpa using ofSpecies⟩, by simpa using other⟩
  · rintro ⟨row, member, other⟩
    obtain ⟨stored, ofSpecies⟩ := List.mem_filter.mp member
    exact ⟨row, List.mem_filter.mpr ⟨stored, by simpa using other⟩, by simpa using ofSpecies⟩

/-- The heart is true after a tap exactly when the tap took the last row. -/
theorem heartTrue_tapped_iff (codec : ImageCodec) (uid : Option String) :
    HeartTrue animal (tapped codec deleted animal uid s) ↔ TakesLast deleted animal s .tap := by
  unfold HeartTrue TakesLast
  cases found : DetailItem.animalObject deleted s.context animal s.detail with
  | nil =>
      obtain ⟨-, red⟩ := tap_insert codec uid found
      simp [red, stores_of_insert codec uid found]
  | cons favorite rest =>
      obtain ⟨-, white⟩ := tap_delete codec uid found
      simp [white, stores_of_delete codec uid found]

/-- A refresh leaves the heart and the store. -/
theorem refresh_cases (stepped : step codec deleted animal uid s .refresh = some t) :
    t.detail.heartButton = s.detail.heartButton ∧ t.context = s.context := by
  cases pending : s.pending with
  | zero => simp [step, pending] at stepped
  | succ n =>
      simp only [step, pending, Option.some.injEq] at stepped
      subst stepped
      exact ⟨rfl, rfl⟩

/-- A red heart after one event stands over a stored row. -/
theorem red_step {event : HeartEvent}
    (red : s.detail.heartButton = .red → s.context.Stores animal.species)
    (stepped : step codec deleted animal uid s event = some t) :
    t.detail.heartButton = .red → t.context.Stores animal.species := by
  cases event with
  | tap =>
      cases stepped
      cases found : DetailItem.animalObject deleted s.context animal s.detail with
      | nil => exact fun _ => stores_of_insert codec uid found
      | cons favorite rest =>
          intro isRed
          rw [(tap_delete codec uid found).2] at isRed
          cases isRed
  | refresh =>
      obtain ⟨heart, context⟩ := refresh_cases stepped
      rwa [heart, context]

end Heart

/-- **What the heart says.** For every store, every order of taps and refreshes and whatever
deleted objects answer: whenever the heart is red, the species is stored. It is red exactly when
the species is stored, in every state of the run, if and only if every tap of the run that finds
an object of the species finds the last one. -/
theorem heart_true_iff (codec : ImageCodec) (deleted : Favorite → Option String)
    (animal : Animal) (uid : Option String) (ctx : Context) (events : List HeartEvent) :
    Always (step codec deleted animal uid)
        (fun s => s.detail.heartButton = .red → s.context.Stores animal.species)
        (opened deleted animal ctx) events ∧
      (Always (step codec deleted animal uid) (HeartTrue animal) (opened deleted animal ctx) events ↔
        Meets (step codec deleted animal uid) (TakesLast deleted animal)
          (opened deleted animal ctx) events) := by
  have start : HeartTrue animal (opened deleted animal ctx) :=
    Browsing.heartButton_opened ctx animal
  constructor
  · apply always_of_steps
    · intro s event _ t red stepped
      exact red_step red stepped
    · exact start.mp
  · apply always_iff_meets_of_steps
    · intro s event t before stepped
      cases event with
      | tap =>
          cases stepped
          exact heartTrue_tapped_iff codec uid
      | refresh =>
          obtain ⟨heart, context⟩ := refresh_cases stepped
          refine iff_of_true ?_ trivial
          rwa [HeartTrue, heart, context]
    · intro s event refused
      cases event with
      | tap => cases refused
      | refresh => trivial
    · exact start

end HeartScreen

end PetApp
