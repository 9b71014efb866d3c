import Mathlib
import RagService.Lib.Batches

/-!
# Progress reports

A program that reports its progress as it runs leaves a trace: the entries it sends, some of
which carry a progress value. `Rising value t₀ lo t` says that since the trace stood at `t₀` it
has grown by entries whose values, read in order, do not decrease and stay at most `lo`. An
entry without a value keeps this; an entry with a value `p ≥ lo` moves the bound to `p`
(`Rising.snoc_none`, `Rising.snoc_some`). A run starts from its own trace at any bound
(`Rising.start`), and a bound may be raised (`Rising.mono`), so the three make the invariant
of a triple whose bound rises with the program.

A loop over `n` items in batches reports a percentage `percent done n` of the items done. Of
`percent` it needs what `PercentLaw` says: it grows with `done` and stays at most `100` while
`done ≤ n`; `100 * done / n` has both properties (`percentLaw_div`). Over the batches of
`range(0, n, k)`, the batch after those in `pre` starts at the count `pre` has done and ends
at the count `pre` and it have done (`batchDone_snoc`), and these counts grow.
-/

set_option autoImplicit false

namespace Progress

universe u

section Rising

variable {τ : Type u} (value : τ → Option Nat)

/-- Since the trace stood at `t₀`, it has grown by entries whose values, in order, do not
decrease and are at most `lo`. -/
def Rising (t₀ : List τ) (lo : Nat) (t : List τ) : Prop :=
  ∃ new, t = t₀ ++ new ∧ (new.filterMap value).Pairwise (· ≤ ·) ∧
    ∀ p ∈ new.filterMap value, p ≤ lo

variable {value} {t₀ t : List τ} {lo : Nat}

theorem Rising.start (t₀ : List τ) (lo : Nat) : Rising value t₀ lo t₀ :=
  ⟨[], by simp, by simp, by simp⟩

theorem Rising.mono {hi : Nat} (h : Rising value t₀ lo t) (hle : lo ≤ hi) :
    Rising value t₀ hi t := by
  obtain ⟨new, ht, hsorted, hbound⟩ := h
  exact ⟨new, ht, hsorted, fun p hp => (hbound p hp).trans hle⟩

/-- An entry without a value keeps the bound. -/
theorem Rising.snoc_none {x : τ} (h : Rising value t₀ lo t) (hx : value x = none) :
    Rising value t₀ lo (t ++ [x]) := by
  obtain ⟨new, rfl, hsorted, hbound⟩ := h
  have hvals : (new ++ [x]).filterMap value = new.filterMap value := by
    simp [List.filterMap_append, hx]
  exact ⟨new ++ [x], by simp, hvals ▸ hsorted, hvals ▸ hbound⟩

/-- An entry with a value `p` no smaller than the bound moves the bound to `p`. -/
theorem Rising.snoc_some {x : τ} {p : Nat} (h : Rising value t₀ lo t) (hx : value x = some p)
    (hle : lo ≤ p) : Rising value t₀ p (t ++ [x]) := by
  obtain ⟨new, rfl, hsorted, hbound⟩ := h
  have hvals : (new ++ [x]).filterMap value = new.filterMap value ++ [p] := by
    simp [List.filterMap_append, hx]
  refine ⟨new ++ [x], by simp, ?_, ?_⟩
  · rw [hvals, List.pairwise_append]
    refine ⟨hsorted, List.pairwise_singleton _ _, fun a ha b hb => ?_⟩
    rw [List.mem_singleton.1 hb]
    exact (hbound a ha).trans hle
  · intro q hq
    rw [hvals, List.mem_append, List.mem_singleton] at hq
    rcases hq with hq | rfl
    · exact (hbound q hq).trans hle
    · exact le_rfl

end Rising

/-! ## Percentages over batches -/

/-- What the progress of a loop over `n` items needs of its percentage `percent done n`: it
does not decrease as more is done, and it is at most `100` while `done ≤ n`. -/
structure PercentLaw (percent : Nat → Nat → Nat) : Prop where
  mono : ∀ {p q n : Nat}, p ≤ q → percent p n ≤ percent q n
  le_hundred : ∀ {p n : Nat}, p ≤ n → percent p n ≤ 100

/-- `floor(100 * done / n)`. -/
theorem percentLaw_div : PercentLaw fun p n => 100 * p / n := by
  refine ⟨fun h => Nat.div_le_div_right (Nat.mul_le_mul_left _ h), fun {p n} h => ?_⟩
  rcases Nat.eq_zero_or_pos n with rfl | hn
  · simp
  · calc 100 * p / n ≤ 100 * n / n := Nat.div_le_div_right (Nat.mul_le_mul_left _ h)
      _ = 100 := Nat.mul_div_cancel _ hn

open Batches

/-- The items of `n` done once the batches of `k` starting at the elements of `pre` are. -/
def batchDone (n k : Nat) (pre : List Nat) : Nat := min (pre.length * k) n

theorem batchDone_le (n k : Nat) (pre : List Nat) : batchDone n k pre ≤ n := Nat.min_le_right _ _

/-- The batch after `pre` in `range(0, len(xs), k)` starts where `pre` ended and ends where
`pre` and it end. -/
theorem batchDone_snoc {α : Type u} (xs : List α) {k : Nat} (hk : 0 < k) {pre post : List Nat}
    {i : Nat} (h : pre ++ i :: post = pyRange 0 xs.length k) :
    batchDone xs.length k pre = i ∧
      i + (slice xs i k).length = batchDone xs.length k (pre ++ [i]) := by
  obtain ⟨rfl, hlt⟩ := pyRange_zero_prefix hk h
  refine ⟨Nat.min_eq_left hlt.le, ?_⟩
  rw [add_length_slice xs k hlt.le]
  simp only [batchDone, List.length_append, List.length_singleton, Nat.add_mul, Nat.one_mul]

theorem batchDone_le_snoc (n k : Nat) (pre : List Nat) (i : Nat) :
    batchDone n k pre ≤ batchDone n k (pre ++ [i]) := by
  simp only [batchDone, List.length_append, List.length_singleton, Nat.add_mul, Nat.one_mul]
  omega

end Progress
