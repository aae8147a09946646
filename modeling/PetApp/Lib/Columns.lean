import Mathlib.Algebra.Order.BigOperators.Group.Finset
import Mathlib.Data.Nat.ModEq

/-!
Items dealt out to columns.

Item `j` goes to column `j % k`, on top of the items that are there already. The
height of a column is the sum of the sizes of its items, and an item starts at the
height its column has when it is dealt.

* `stacked_succ` — dealing one item raises its own column by its size.
* `stacked_mono` — columns only grow.
* `stacked_add_le` — an item ends below the height of its column at any later time;
  in particular it ends before the next item of the column starts.
* `stacked_skip_of_le`, `stacked_skip_add` — when an item is left out, the items before it
  stay, and those after it go to the column before theirs.
-/

namespace Columns

universe u

section Sums

variable {R : Type u} [AddCommMonoid R] {k : Nat} {size : Nat → R}

/-- The height of a column when `n` items have been dealt. -/
def stacked (k : Nat) (size : Nat → R) (n column : Nat) : R :=
  ∑ j ∈ Finset.range n with j % k = column, size j

@[simp] theorem stacked_zero (column : Nat) : stacked k size 0 column = 0 := by
  simp [stacked]

theorem stacked_succ (n column : Nat) :
    stacked k size (n + 1) column =
      stacked k size n column + if n % k = column then size n else 0 := by
  simp only [stacked, Finset.sum_filter, Finset.sum_range_succ]

/-- The height of the column of the last item. -/
theorem stacked_succ_self (n : Nat) :
    stacked k size (n + 1) (n % k) = stacked k size n (n % k) + size n := by
  rw [stacked_succ, if_pos rfl]

theorem stacked_succ_of_ne {n column : Nat} (other : n % k ≠ column) :
    stacked k size (n + 1) column = stacked k size n column := by
  rw [stacked_succ, if_neg other, add_zero]

/-- The sizes without that of item `d`. -/
def skip (d : Nat) (size : Nat → R) (j : Nat) : R := if j < d then size j else size (j + 1)

omit [AddCommMonoid R] in
theorem skip_of_lt {d j : Nat} (before : j < d) : skip d size j = size j := if_pos before

omit [AddCommMonoid R] in
theorem skip_of_le {d j : Nat} (after : d ≤ j) : skip d size j = size (j + 1) :=
  if_neg (Nat.not_lt.mpr after)

/-- The items before the one left out are dealt as before. -/
theorem stacked_skip_of_le {d n : Nat} (le : n ≤ d) (column : Nat) :
    stacked k (skip d size) n column = stacked k size n column := by
  refine Finset.sum_congr rfl fun j member => ?_
  obtain ⟨inRange, -⟩ := Finset.mem_filter.mp member
  exact skip_of_lt ((Finset.mem_range.mp inRange).trans_le le)

/-- The items after the one left out were dealt to the next column. -/
theorem stacked_skip_add (size : Nat → R) {d n column : Nat} (inRange : column < k) (le : d ≤ n) :
    stacked k (skip d size) n column + stacked k size (d + 1) ((column + 1) % k) =
      stacked k size d column + stacked k size (n + 1) ((column + 1) % k) := by
  induction n, le using Nat.le_induction with
  | base => rw [stacked_skip_of_le le_rfl]
  | succ n le ih =>
      have shifted : (n + 1) % k = (column + 1) % k ↔ n % k = column := by
        have same : n % k = column ↔ n ≡ column [MOD k] := by
          rw [Nat.ModEq, Nat.mod_eq_of_lt inRange]
        rw [same]
        exact Nat.ModEq.add_iff_right rfl
      rw [stacked_succ n column, stacked_succ (n + 1), skip_of_le le, add_right_comm, ih, add_assoc]
      simp only [shifted]

end Sums

section Order

variable {R : Type u} [AddCommMonoid R] [PartialOrder R] [IsOrderedAddMonoid R] {k : Nat}
  {size : Nat → R}

/-- Columns only grow. -/
theorem stacked_mono (nonneg : ∀ j, 0 ≤ size j) {n m : Nat} (le : n ≤ m) (column : Nat) :
    stacked k size n column ≤ stacked k size m column := by
  apply Finset.sum_le_sum_of_subset_of_nonneg
  · exact Finset.filter_subset_filter _ (Finset.range_subset_range.mpr le)
  · intro j _ _
    exact nonneg j

theorem stacked_nonneg (nonneg : ∀ j, 0 ≤ size j) (n column : Nat) :
    0 ≤ stacked k size n column :=
  Finset.sum_nonneg fun j _ => nonneg j

/-- An item ends within its column. -/
theorem stacked_add_le (nonneg : ∀ j, 0 ≤ size j) {i n : Nat} (before : i < n) :
    stacked k size i (i % k) + size i ≤ stacked k size n (i % k) := by
  rw [← stacked_succ_self]
  exact stacked_mono nonneg before (i % k)

end Order

end Columns
