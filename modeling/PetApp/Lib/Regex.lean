/-!
Regular expressions over character classes, matched against a whole text.

A class is a decidable set of symbols, so that "any character" and ranges need
no enumeration. The matcher takes the derivative of the expression by each
symbol of the text in turn and asks at the end whether the rest matches the empty
text.

* `fullMatch_seq` — a sequence matches a text exactly when the text can be cut into
  two that its parts match.
* `fullMatch_star_one`, `fullMatch_plus_one`, `fullMatch_between_one` — a repeated
  class matches exactly the texts over the class of the lengths asked for.
* `fullMatch_somewhere` — a class with anything around it asks for one symbol.
-/

/-- A regular expression over symbols of type `α`. -/
inductive Regex (α : Type) where
  | empty
  | epsilon
  | one (among : α → Bool)
  | seq (r s : Regex α)
  | alt (r s : Regex α)
  | star (r : Regex α)

namespace Regex

variable {α : Type}

/-- One or more times. -/
def plus (r : Regex α) : Regex α := seq r (star r)

/-- At most `n` times. -/
def atMost (r : Regex α) : Nat → Regex α
  | 0 => epsilon
  | n + 1 => alt epsilon (seq r (atMost r n))

/-- Exactly `n` times. -/
def exactly (r : Regex α) : Nat → Regex α
  | 0 => epsilon
  | n + 1 => seq r (exactly r n)

/-- At least `least` and at most `most` times. -/
def between (r : Regex α) (least most : Nat) : Regex α :=
  seq (exactly r least) (atMost r (most - least))

/-- The expression matches the empty text. -/
def nullable : Regex α → Bool
  | empty => false
  | epsilon => true
  | one _ => false
  | seq r s => nullable r && nullable s
  | alt r s => nullable r || nullable s
  | star _ => true

/-- What is left to match after the symbol `a`. -/
def deriv (a : α) : Regex α → Regex α
  | empty => empty
  | epsilon => empty
  | one among => if among a then epsilon else empty
  | seq r s => if nullable r then alt (seq (deriv a r) s) (deriv a s) else seq (deriv a r) s
  | alt r s => alt (deriv a r) (deriv a s)
  | star r => seq (deriv a r) (star r)

/-- The expression matches the whole text. -/
def fullMatch (r : Regex α) : List α → Bool
  | [] => nullable r
  | a :: text => fullMatch (deriv a r) text

/-! ### What the matcher accepts -/

section Matcher

variable {r s : Regex α} {among : α → Bool} {text : List α}

theorem fullMatch_empty (text : List α) : fullMatch (empty : Regex α) text = false := by
  induction text with
  | nil => rfl
  | cons a text ih => exact ih

theorem fullMatch_epsilon : fullMatch (epsilon : Regex α) text = true ↔ text = [] := by
  cases text with
  | nil => simp [fullMatch, nullable]
  | cons a text => simp [fullMatch, deriv, fullMatch_empty]

theorem fullMatch_one : fullMatch (one among) text = true ↔ ∃ a, text = [a] ∧ among a = true := by
  cases text with
  | nil => simp [fullMatch, nullable]
  | cons a text =>
      rw [fullMatch, deriv]
      split
      · rename_i accepted
        rw [fullMatch_epsilon]
        constructor
        · rintro rfl
          exact ⟨a, rfl, accepted⟩
        · rintro ⟨b, same, -⟩
          exact (List.cons_eq_cons.mp same).2
      · rename_i rejected
        rw [fullMatch_empty]
        constructor
        · rintro ⟨⟩
        · rintro ⟨b, same, accepted⟩
          obtain ⟨rfl, -⟩ := List.cons_eq_cons.mp same
          exact absurd accepted rejected

theorem fullMatch_alt :
    fullMatch (alt r s) text = true ↔ fullMatch r text = true ∨ fullMatch s text = true := by
  induction text generalizing r s with
  | nil => simp [fullMatch, nullable]
  | cons a text ih => exact ih

/-- A sequence matches a text exactly when the text can be cut into two that its
parts match. -/
theorem fullMatch_seq :
    fullMatch (seq r s) text = true ↔
      ∃ first rest, text = first ++ rest ∧ fullMatch r first = true ∧ fullMatch s rest = true := by
  induction text generalizing r s with
  | nil =>
      constructor
      · intro matched
        obtain ⟨first, second⟩ := Bool.and_eq_true_iff.mp matched
        exact ⟨[], [], rfl, first, second⟩
      · rintro ⟨first, rest, cut, matchedFirst, matchedRest⟩
        obtain ⟨rfl, rfl⟩ := List.append_eq_nil_iff.mp cut.symm
        exact Bool.and_eq_true_iff.mpr ⟨matchedFirst, matchedRest⟩
  | cons a text ih =>
      -- the symbol belongs to the first part, or the first part is empty
      have cuts : (∃ first rest, a :: text = first ++ rest ∧ fullMatch r first = true ∧
          fullMatch s rest = true) ↔
          (∃ first rest, text = first ++ rest ∧ fullMatch (deriv a r) first = true ∧
            fullMatch s rest = true) ∨
          nullable r = true ∧ fullMatch (deriv a s) text = true := by
        constructor
        · rintro ⟨first, rest, cut, matchedFirst, matchedRest⟩
          cases first with
          | nil =>
              cases cut
              exact .inr ⟨matchedFirst, matchedRest⟩
          | cons b first =>
              obtain ⟨rfl, tail⟩ := List.cons_eq_cons.mp cut
              exact .inl ⟨first, rest, tail, matchedFirst, matchedRest⟩
        · rintro (⟨first, rest, rfl, matchedFirst, matchedRest⟩ | ⟨isNullable, matched⟩)
          · exact ⟨a :: first, rest, rfl, matchedFirst, matchedRest⟩
          · exact ⟨[], a :: text, rfl, isNullable, matched⟩
      rw [cuts, fullMatch, deriv]
      split
      · rename_i isNullable
        rw [fullMatch_alt, ih]
        simp [isNullable]
      · rename_i notNullable
        rw [ih]
        simp [notNullable]

/-- A class in front of an expression takes the first symbol. -/
theorem fullMatch_one_seq :
    fullMatch (seq (one among) r) text = true ↔
      ∃ a rest, text = a :: rest ∧ among a = true ∧ fullMatch r rest = true := by
  rw [fullMatch_seq]
  constructor
  · rintro ⟨first, rest, rfl, matchedFirst, matchedRest⟩
    obtain ⟨a, rfl, accepted⟩ := fullMatch_one.mp matchedFirst
    exact ⟨a, rest, rfl, accepted, matchedRest⟩
  · rintro ⟨a, rest, rfl, accepted, matchedRest⟩
    exact ⟨[a], rest, rfl, fullMatch_one.mpr ⟨a, rfl, accepted⟩, matchedRest⟩

/-- A starred class matches the texts over the class. -/
theorem fullMatch_star_one :
    fullMatch (star (one among)) text = true ↔ ∀ a ∈ text, among a = true := by
  induction text with
  | nil => simp [fullMatch, nullable]
  | cons a text ih =>
      rw [fullMatch, deriv, fullMatch_seq, List.forall_mem_cons, ← ih]
      constructor
      · rintro ⟨first, rest, rfl, matchedFirst, matchedRest⟩
        have matchedOne : fullMatch (one among) (a :: first) = true := matchedFirst
        obtain ⟨b, same, accepted⟩ := fullMatch_one.mp matchedOne
        obtain ⟨rfl, rfl⟩ := List.cons_eq_cons.mp same
        exact ⟨accepted, matchedRest⟩
      · rintro ⟨accepted, matched⟩
        refine ⟨[], text, rfl, ?_, matched⟩
        exact fullMatch_one.mpr ⟨a, rfl, accepted⟩

/-- A class repeated at least once matches the texts over the class but the empty
one. -/
theorem fullMatch_plus_one :
    fullMatch (plus (one among)) text = true ↔ text ≠ [] ∧ ∀ a ∈ text, among a = true := by
  rw [plus, fullMatch_one_seq]
  constructor
  · rintro ⟨a, rest, rfl, accepted, matchedRest⟩
    refine ⟨List.cons_ne_nil a rest, ?_⟩
    exact List.forall_mem_cons.mpr ⟨accepted, fullMatch_star_one.mp matchedRest⟩
  · rintro ⟨nonempty, accepted⟩
    obtain ⟨a, rest, rfl⟩ := List.exists_cons_of_ne_nil nonempty
    obtain ⟨here, later⟩ := List.forall_mem_cons.mp accepted
    exact ⟨a, rest, rfl, here, fullMatch_star_one.mpr later⟩

theorem fullMatch_exactly_one {n : Nat} :
    fullMatch (exactly (one among) n) text = true ↔
      text.length = n ∧ ∀ a ∈ text, among a = true := by
  induction n generalizing text with
  | zero =>
      rw [exactly, fullMatch_epsilon]
      constructor
      · rintro rfl
        simp
      · rintro ⟨none, -⟩
        exact List.eq_nil_of_length_eq_zero none
  | succ n ih =>
      rw [exactly, fullMatch_one_seq]
      constructor
      · rintro ⟨a, rest, rfl, accepted, matchedRest⟩
        obtain ⟨length, later⟩ := ih.mp matchedRest
        exact ⟨by simp [length], List.forall_mem_cons.mpr ⟨accepted, later⟩⟩
      · rintro ⟨length, accepted⟩
        obtain ⟨a, text, rfl⟩ := List.exists_cons_of_length_eq_add_one length
        obtain ⟨here, later⟩ := List.forall_mem_cons.mp accepted
        refine ⟨a, text, rfl, here, ih.mpr ⟨?_, later⟩⟩
        exact Nat.succ.inj length

theorem fullMatch_atMost_one {n : Nat} :
    fullMatch (atMost (one among) n) text = true ↔
      text.length ≤ n ∧ ∀ a ∈ text, among a = true := by
  induction n generalizing text with
  | zero =>
      rw [atMost, fullMatch_epsilon]
      constructor
      · rintro rfl
        simp
      · rintro ⟨none, -⟩
        exact List.eq_nil_of_length_eq_zero (Nat.le_zero.mp none)
  | succ n ih =>
      rw [atMost, fullMatch_alt, fullMatch_epsilon, fullMatch_one_seq]
      constructor
      · rintro (rfl | ⟨a, rest, rfl, accepted, matchedRest⟩)
        · simp
        · obtain ⟨length, later⟩ := ih.mp matchedRest
          exact ⟨by simpa using length, List.forall_mem_cons.mpr ⟨accepted, later⟩⟩
      · rintro ⟨length, accepted⟩
        cases text with
        | nil => exact .inl rfl
        | cons a text =>
            obtain ⟨here, later⟩ := List.forall_mem_cons.mp accepted
            refine .inr ⟨a, text, rfl, here, ih.mpr ⟨?_, later⟩⟩
            exact Nat.le_of_succ_le_succ length

/-- With anything before and after it, a repeated class asks for one symbol of the
class. -/
theorem fullMatch_somewhere {any : α → Bool} (all : ∀ a ∈ text, any a = true) :
    fullMatch (seq (star (one any)) (seq (plus (one among)) (star (one any)))) text = true ↔
      ∃ a ∈ text, among a = true := by
  rw [fullMatch_seq]
  constructor
  · rintro ⟨before, rest, rfl, -, matched⟩
    obtain ⟨found, after, rfl, matchedFound, -⟩ := fullMatch_seq.mp matched
    obtain ⟨nonempty, accepted⟩ := fullMatch_plus_one.mp matchedFound
    obtain ⟨a, member⟩ := List.exists_mem_of_ne_nil found nonempty
    exact ⟨a, by simp [member], accepted a member⟩
  · rintro ⟨a, member, accepted⟩
    obtain ⟨before, after, rfl⟩ := List.append_of_mem member
    obtain ⟨allBefore, allRest⟩ := List.forall_mem_append.mp all
    refine ⟨before, a :: after, rfl, fullMatch_star_one.mpr allBefore, fullMatch_seq.mpr ?_⟩
    refine ⟨[a], after, rfl, fullMatch_plus_one.mpr ?_, fullMatch_star_one.mpr ?_⟩
    · exact ⟨List.cons_ne_nil a [], by simpa using accepted⟩
    · exact (List.forall_mem_cons.mp allRest).2

/-- A class repeated a bounded number of times matches the texts over the class of
such a length. -/
theorem fullMatch_between_one {least most : Nat} (le : least ≤ most) :
    fullMatch (between (one among) least most) text = true ↔
      least ≤ text.length ∧ text.length ≤ most ∧ ∀ a ∈ text, among a = true := by
  rw [between, fullMatch_seq]
  constructor
  · rintro ⟨first, rest, rfl, matchedFirst, matchedRest⟩
    obtain ⟨length, accepted⟩ := fullMatch_exactly_one.mp matchedFirst
    obtain ⟨length', accepted'⟩ := fullMatch_atMost_one.mp matchedRest
    rw [List.length_append]
    refine ⟨by omega, by omega, ?_⟩
    exact List.forall_mem_append.mpr ⟨accepted, accepted'⟩
  · rintro ⟨long, short, accepted⟩
    refine ⟨text.take least, text.drop least, (List.take_append_drop least text).symm,
      fullMatch_exactly_one.mpr ⟨?_, ?_⟩, fullMatch_atMost_one.mpr ⟨?_, ?_⟩⟩
    · rw [List.length_take]
      omega
    · intro a member
      exact accepted a (List.mem_of_mem_take member)
    · rw [List.length_drop]
      omega
    · intro a member
      exact accepted a (List.mem_of_mem_drop member)

end Matcher

end Regex
