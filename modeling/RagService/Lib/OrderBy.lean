import Mathlib

/-!
# `ORDER BY key LIMIT n`

The rows of a query sorted by ascending key, then cut to the first `n`. SQL leaves the order of
rows with equal keys open; `orderByLimit` keeps them in table order (the sort is stable), which
is one of the orders the database may return.

The rows kept and the rows cut off together are the rows of the table (`orderByLimit_perm`),
the kept ones come in key order, and no row cut off has a smaller key than a kept one
(`orderByLimit_le_rest`): the result is the `n` least rows.
-/

set_option autoImplicit false

namespace OrderBy

variable {α K : Type} [LinearOrder K]

/-- The rows sorted by ascending key. -/
def sortByKey (key : α → K) (rows : List α) : List α :=
  rows.mergeSort fun a b => decide (key a ≤ key b)

/-- `ORDER BY key LIMIT n`. -/
def orderByLimit (key : α → K) (n : Nat) (rows : List α) : List α :=
  (sortByKey key rows).take n

/-- The rows the limit cuts off. -/
def orderByRest (key : α → K) (n : Nat) (rows : List α) : List α :=
  (sortByKey key rows).drop n

theorem sortByKey_pairwise (key : α → K) (rows : List α) :
    (sortByKey key rows).Pairwise fun a b => key a ≤ key b := by
  have h : (sortByKey key rows).Pairwise fun a b => decide (key a ≤ key b) = true := by
    apply List.pairwise_mergeSort
    · intro a b c hab hbc
      simp only [decide_eq_true_eq] at hab hbc ⊢
      exact le_trans hab hbc
    · intro a b
      simpa only [Bool.or_eq_true, decide_eq_true_eq] using le_total (key a) (key b)
  simpa only [decide_eq_true_eq] using h

theorem orderByLimit_perm (key : α → K) (n : Nat) (rows : List α) :
    (orderByLimit key n rows ++ orderByRest key n rows).Perm rows := by
  rw [orderByLimit, orderByRest, List.take_append_drop]
  exact List.mergeSort_perm _ _

theorem mem_of_mem_orderByLimit {key : α → K} {n : Nat} {rows : List α} {a : α}
    (h : a ∈ orderByLimit key n rows) : a ∈ rows :=
  (orderByLimit_perm key n rows).subset (List.mem_append_left _ h)

theorem length_orderByLimit (key : α → K) (n : Nat) (rows : List α) :
    (orderByLimit key n rows).length = min n rows.length := by
  simp [orderByLimit, sortByKey]

theorem orderByLimit_pairwise (key : α → K) (n : Nat) (rows : List α) :
    (orderByLimit key n rows).Pairwise fun a b => key a ≤ key b :=
  (sortByKey_pairwise key rows).sublist (List.take_sublist _ _)

/-- No row the limit cuts off comes before a row it keeps. -/
theorem orderByLimit_le_rest {key : α → K} {n : Nat} {rows : List α} {a b : α}
    (ha : a ∈ orderByLimit key n rows) (hb : b ∈ orderByRest key n rows) : key a ≤ key b := by
  have h := sortByKey_pairwise key rows
  rw [← List.take_append_drop n (sortByKey key rows), List.pairwise_append] at h
  exact h.2.2 a ha b hb

end OrderBy
