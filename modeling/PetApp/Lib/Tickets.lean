import Mathlib.Logic.Function.Basic
import PetApp.Lib.Lists

/-!
Slots that are filled by answers to the latest request.

A request shows a waiting value, gives the slot a new ticket and sends the ticket with the
request. An answer is taken only while the slot still has that ticket; the answers to earlier
requests of the slot arrive in any order and are dropped.

* `Sound` — no two requests in flight have one ticket.
* `Awaits` — a slot waits for the answer to its source, or has ended with an accepted value.
* `awaits_request_self` — a request makes its slot wait for its source.
* `awaits_request_of_ne`, `awaits_complete` — requests of other slots and answers to any
  request keep that.
-/

namespace Tickets

universe u v w

/-- A request that has not been answered. -/
structure Request (κ : Type u) (σ : Type v) where
  ticket : Nat
  target : κ
  source : σ

/-- The slots, their tickets, the last ticket issued and the requests in flight. -/
structure Slots (κ : Type u) (σ : Type v) (ν : Type w) where
  value : κ → ν
  ticket : κ → Option Nat
  issued : Nat
  inFlight : List (Request κ σ)

namespace Slots

variable {κ : Type u} {σ : Type v} {ν : Type w} [DecidableEq κ]

/-- Slots with one value and no request. -/
def const (v : ν) : Slots κ σ ν := ⟨fun _ => v, fun _ => none, 0, []⟩

/-- Show a waiting value and ask for a source, if there is one. -/
def request (k : κ) (waiting : ν) (source : Option σ) (s : Slots κ σ ν) : Slots κ σ ν :=
  match source with
  | none =>
      { s with
        value := Function.update s.value k waiting
        ticket := Function.update s.ticket k none }
  | some source =>
      { value := Function.update s.value k waiting
        ticket := Function.update s.ticket k (some (s.issued + 1))
        issued := s.issued + 1
        inFlight := s.inFlight ++ [⟨s.issued + 1, k, source⟩] }

/-- Take the answer to a request: `none` is a failure, which leaves the value. -/
def answer (r : Request κ σ) (result : Option ν) (s : Slots κ σ ν) : Slots κ σ ν :=
  if s.ticket r.target = some r.ticket then
    { s with
      value := Function.update s.value r.target (result.getD (s.value r.target))
      ticket := Function.update s.ticket r.target none }
  else s

/-- The request at a position is answered. -/
def complete (position : Nat) (result : σ → Option ν) (s : Slots κ σ ν) :
    Option (Slots κ σ ν) :=
  s.inFlight[position]?.map fun r =>
    { s with inFlight := s.inFlight.eraseIdx position }.answer r (result r.source)

/-- No two requests in flight have one ticket, and none has a ticket still to be issued. -/
structure Sound (s : Slots κ σ ν) : Prop where
  distinct : (s.inFlight.map Request.ticket).Nodup
  wereIssued : ∀ r ∈ s.inFlight, r.ticket ≤ s.issued

/-- The slot waits for its source, or it has ended with an accepted value. -/
def Awaits (waiting : ν) (accepts : ν → Prop) (k : κ) (source : Option σ) (s : Slots κ σ ν) :
    Prop :=
  (∃ ticket src, source = some src ∧ s.ticket k = some ticket ∧
    ⟨ticket, k, src⟩ ∈ s.inFlight ∧ s.value k = waiting) ∨
  (s.ticket k = none ∧ accepts (s.value k))

section Facts

variable {s t : Slots κ σ ν} {k k' : κ} {waiting : ν} {accepts : ν → Prop}
  {source source' : Option σ}

omit [DecidableEq κ] in
theorem sound_const (v : ν) : (const v : Slots κ σ ν).Sound :=
  ⟨List.nodup_nil, by simp [const]⟩

theorem sound_request (sound : s.Sound) (k : κ) (waiting : ν) (source : Option σ) :
    (s.request k waiting source).Sound := by
  cases source with
  | none => exact ⟨sound.distinct, sound.wereIssued⟩
  | some source =>
      constructor
      · simp only [request, List.map_append, List.map_cons, List.map_nil]
        refine List.nodup_append.mpr ⟨sound.distinct, List.nodup_singleton _, ?_⟩
        rintro ticket before _ now rfl
        obtain ⟨r, member, rfl⟩ := List.mem_map.mp before
        have issued := sound.wereIssued r member
        rw [List.mem_singleton.mp now] at issued
        omega
      · intro r member
        rcases List.mem_append.mp member with before | now
        · exact Nat.le_succ_of_le (sound.wereIssued r before)
        · cases List.mem_singleton.mp now
          exact Nat.le_refl _

/-- A request makes its slot wait. Without a source the waiting value is the end. -/
theorem awaits_request_self (s : Slots κ σ ν) (k : κ) (ends : source = none → accepts waiting) :
    (s.request k waiting source).Awaits waiting accepts k source := by
  cases source with
  | none =>
      refine .inr ⟨Function.update_self .., ?_⟩
      simpa [request] using ends rfl
  | some source =>
      refine .inl ⟨s.issued + 1, source, rfl, Function.update_self .., ?_, Function.update_self ..⟩
      simp [request]

theorem awaits_request_of_ne (other : k' ≠ k) {waiting' : ν}
    (awaits : s.Awaits waiting accepts k' source) :
    (s.request k waiting' source').Awaits waiting accepts k' source := by
  cases source' with
  | none =>
      simpa [Awaits, request, Function.update_of_ne other] using awaits
  | some source' =>
      simp only [Awaits, request, Function.update_of_ne other]
      rcases awaits with ⟨ticket, src, asks, has, sent, shows⟩ | ended
      · exact .inl ⟨ticket, src, asks, has, List.mem_append_left _ sent, shows⟩
      · exact .inr ended

/-- The request that is answered. -/
theorem complete_eq_some {position : Nat} {result : σ → Option ν} :
    s.complete position result = some t ↔ ∃ r, s.inFlight[position]? = some r ∧
      t = { s with inFlight := s.inFlight.eraseIdx position }.answer r (result r.source) := by
  simp only [complete, Option.map_eq_some_iff]
  constructor <;> rintro ⟨r, found, same⟩ <;> exact ⟨r, found, same.symm⟩

theorem inFlight_answer (r : Request κ σ) (result : Option ν) (s : Slots κ σ ν) :
    (s.answer r result).inFlight = s.inFlight ∧ (s.answer r result).issued = s.issued := by
  unfold answer
  split <;> exact ⟨rfl, rfl⟩

theorem sound_complete (sound : s.Sound) {position : Nat} {result : σ → Option ν}
    (completed : s.complete position result = some t) : t.Sound := by
  obtain ⟨r, -, rfl⟩ := complete_eq_some.mp completed
  obtain ⟨inFlight, issued⟩ := inFlight_answer r (result r.source)
    { s with inFlight := s.inFlight.eraseIdx position }
  constructor
  · rw [inFlight]
    exact sound.distinct.sublist ((List.eraseIdx_sublist ..).map _)
  · intro r' member
    rw [inFlight] at member
    rw [issued]
    exact sound.wereIssued r' (List.mem_of_mem_eraseIdx member)

/-- An answer to a request that is not the slot's latest leaves the slot alone. -/
theorem answer_of_other {r : Request κ σ} (other : r.target = k → s.ticket k ≠ some r.ticket)
    (result : Option ν) :
    (s.answer r result).ticket k = s.ticket k ∧ (s.answer r result).value k = s.value k := by
  unfold answer
  split
  · rename_i current
    have ne : k ≠ r.target := by
      rintro rfl
      exact other rfl current
    exact ⟨Function.update_of_ne ne .., Function.update_of_ne ne ..⟩
  · exact ⟨rfl, rfl⟩

/-- An answer to any request leaves a waiting slot waiting, or ends it with what was asked
for. -/
theorem awaits_complete (sound : s.Sound) (awaits : s.Awaits waiting accepts k source)
    {position : Nat} {result : σ → Option ν}
    (ends : ∀ src, source = some src → accepts ((result src).getD waiting))
    (completed : s.complete position result = some t) : t.Awaits waiting accepts k source := by
  obtain ⟨r, found, rfl⟩ := complete_eq_some.mp completed
  have inFlight := (inFlight_answer r (result r.source)
    { s with inFlight := s.inFlight.eraseIdx position }).1
  rcases awaits with ⟨ticket, src, rfl, has, sent, shows⟩ | ⟨has, ended⟩
  · by_cases own : r = ⟨ticket, k, src⟩
    · subst own
      refine .inr ⟨?_, ?_⟩
      · simp [answer, has]
      · simpa [answer, has, shows] using ends src rfl
    · have kept := Lists.mem_eraseIdx_of_ne found sent (Ne.symm own)
      -- tickets are distinct, so the answer is not for the ticket of the slot
      have other : ticket ≠ r.ticket :=
        Lists.key_ne_of_mem_eraseIdx Request.ticket sound.distinct found kept
      obtain ⟨sameTicket, sameValue⟩ :=
        answer_of_other (s := { s with inFlight := s.inFlight.eraseIdx position }) (k := k) (r := r)
          (by rw [has]; simpa using fun _ => other) (result r.source)
      refine .inl ⟨ticket, src, rfl, sameTicket.trans has, ?_, sameValue.trans shows⟩
      rw [inFlight]
      exact kept
  · obtain ⟨sameTicket, sameValue⟩ :=
      answer_of_other (s := { s with inFlight := s.inFlight.eraseIdx position }) (k := k) (r := r)
        (by rw [has]; simp) (result r.source)
    refine .inr ⟨sameTicket.trans has, ?_⟩
    rw [sameValue]
    exact ended

end Facts

end Slots

end Tickets
