import Mathlib.Data.List.Range
import Mathlib.Order.Basic

/-!
# Batches of a list: `range(start, stop, step)` and slices

Python code that processes a list in batches writes
`for i in range(0, len(xs), k): batch = xs[i:i + k]`. This module gives `range` with a
positive step (`pyRange`) and the slice `xs[i:i + k]` (`slice`), and proves what every such
loop relies on: `range` unfolds one start at a time (`pyRange_cons`, `pyRange_of_le`), and the
batches taken at the starts of `range(s, len(xs), k)` are, in order, exactly the elements of
`xs` from `s` on, each once (`flatten_slices`). From `0`, the batch after `j` others starts at
`j * k` (`pyRange_zero_prefix`) and ends at `min(i + k, len(xs))` (`add_length_slice`), which
is how a loop counts the elements it has done; a loop that maps each batch element by element
maps the list (`flatten_map_slices`). Windows longer than the step overlap their
successors, and past the overlap they cut `xs` the same way (`flatten_drop_windows`).

A loop `for i, x in enumerate(xs, k)` visits `xs.zipIdx k`. When what the loop gives at one
index is never given at another, it gives nothing twice (`nodup_flatMap_zipIdx`,
`nodup_filterMap_zipIdx`); this is how names built from a loop counter are shown distinct.
-/

set_option autoImplicit false

namespace Batches

universe u v w

variable {α : Type u}

/-- `range(start, stop, step)` for a positive `step`: `start`, `start + step`, … below `stop`. -/
def pyRange (start stop step : Nat) : List Nat :=
  List.range' start ((stop - start + step - 1) / step) step

/-- The slice `xs[i:i + k]`. -/
def slice (xs : List α) (i k : Nat) : List α := (xs.drop i).take k

example : pyRange 0 85 40 = [0, 40, 80] := by decide

/-- Past its stop, `range` is empty. -/
theorem pyRange_of_le {start stop step : Nat} (h : stop ≤ start) (hstep : 0 < step) :
    pyRange start stop step = [] := by
  have hc : (stop - start + step - 1) / step = 0 :=
    Nat.div_eq_of_lt (by omega)
  rw [pyRange, hc, List.range'_zero]

/-- Below its stop, `range` yields its start and then continues one step further. -/
theorem pyRange_cons {start stop step : Nat} (h : start < stop) (hstep : 0 < step) :
    pyRange start stop step = start :: pyRange (start + step) stop step := by
  -- the number of starts left drops by one: both counts are `(stop - start - 1) / step`
  have hrest : (stop - (start + step) + step - 1) / step = (stop - start - 1) / step := by
    by_cases hs : start + step ≤ stop
    · congr 1
      omega
    · rw [Nat.div_eq_of_lt (by omega), Nat.div_eq_of_lt (by omega)]
  have hcount : (stop - start + step - 1) / step = (stop - start - 1) / step + 1 := by
    rw [show stop - start + step - 1 = stop - start - 1 + step by omega,
      Nat.add_div_right _ hstep]
  rw [pyRange, pyRange, hcount, List.range'_succ, hrest]

/-- Every start of `range(start, stop, step)` lies in `[start, stop)`. -/
theorem mem_pyRange_bounds {start stop step i : Nat} (hstep : 0 < step)
    (h : i ∈ pyRange start stop step) : start ≤ i ∧ i < stop := by
  rw [pyRange, List.mem_range'] at h
  obtain ⟨j, hj, rfl⟩ := h
  have h1 : (j + 1) * step ≤ stop - start + step - 1 := (Nat.le_div_iff_mul_le hstep).mp hj
  rw [Nat.succ_mul, Nat.mul_comm] at h1
  omega

/-- The batch that follows the starts `pre` of `range(0, stop, step)` starts at
`len(pre) * step`, below `stop`. -/
theorem pyRange_zero_prefix {stop step : Nat} (hstep : 0 < step) {pre post : List Nat} {i : Nat}
    (h : pre ++ i :: post = pyRange 0 stop step) : i = pre.length * step ∧ i < stop := by
  have hmem : i ∈ pyRange 0 stop step := by
    rw [← h]
    exact List.mem_append_right _ List.mem_cons_self
  refine ⟨?_, (mem_pyRange_bounds hstep hmem).2⟩
  have hlen : pre.length < (pyRange 0 stop step).length := by
    rw [← h, List.length_append, List.length_cons]
    omega
  have hget : (pyRange 0 stop step)[pre.length] = i := by
    simp only [← h, List.getElem_append_right (Nat.le_refl _), Nat.sub_self, List.getElem_cons_zero]
  simp only [pyRange, List.getElem_range'] at hget
  rw [← hget, Nat.zero_add, Nat.mul_comm]

/-- A batch `xs[i:i + k]` with `i ≤ len(xs)` ends at `min(i + k, len(xs))`. -/
theorem add_length_slice (xs : List α) {i : Nat} (k : Nat) (h : i ≤ xs.length) :
    i + (slice xs i k).length = min (i + k) xs.length := by
  rw [slice, List.length_take, List.length_drop]
  omega

/-- The batches `xs[i:i + k]` at the starts of `range(s, len(xs), k)` are, in order, the
elements of `xs` from position `s` on. -/
theorem flatten_slices (xs : List α) {k : Nat} (hk : 0 < k) (s : Nat) :
    ((pyRange s xs.length k).map (slice xs · k)).flatten = xs.drop s := by
  -- induction on the number of elements left after `s`
  induction h : xs.length - s using Nat.strong_induction_on generalizing s with
  | _ n ih =>
      by_cases hs : s < xs.length
      · rw [pyRange_cons hs hk, List.map_cons, List.flatten_cons,
          ih (xs.length - (s + k)) (by omega) (s + k) rfl, slice, ← List.drop_drop,
          List.take_append_drop]
      · rw [pyRange_of_le (by omega) hk, List.drop_eq_nil_of_le (by omega)]
        rfl

/-- A batch processed element by element: the batches of `range(0, len(xs), k)`, each mapped,
flatten to the mapped list. -/
theorem flatten_map_slices {β : Type v} (f : α → β) (xs : List α) {k : Nat} (hk : 0 < k) :
    ((pyRange 0 xs.length k).map fun i => (slice xs i k).map f).flatten = xs.map f := by
  calc _ = (((pyRange 0 xs.length k).map (slice xs · k)).flatten).map f := by
        rw [List.map_flatten, List.map_map]
        rfl
    _ = xs.map f := by rw [flatten_slices xs hk 0, List.drop_zero]

/-- Every batch at a start of `range(0, len(xs), k)` holds an element. -/
theorem slice_ne_nil_of_mem_pyRange {xs : List α} {k i : Nat} (hk : 0 < k)
    (hi : i ∈ pyRange 0 xs.length k) : slice xs i k ≠ [] := by
  have hlt := (mem_pyRange_bounds hk hi).2
  simp only [slice, ne_eq, List.take_eq_nil_iff, List.drop_eq_nil_iff]
  omega

/-- Windows of `step + o` elements at the starts of `range(s, len(xs), step)`, each without its
first `o` elements, are in order the elements of `xs` from position `s + o` on: consecutive
windows overlap in exactly `o` elements. -/
theorem flatten_drop_windows (xs : List α) {step : Nat} (hstep : 0 < step) (o s : Nat) :
    ((pyRange s xs.length step).map fun i => (slice xs i (step + o)).drop o).flatten =
      xs.drop (s + o) := by
  induction h : xs.length - s using Nat.strong_induction_on generalizing s with
  | _ n ih =>
    by_cases hs : s < xs.length
    · rw [pyRange_cons hs hstep, List.map_cons, List.flatten_cons,
        ih (xs.length - (s + step)) (by omega) (s + step) rfl]
      -- past its overlap, a window is the slice of one step
      have hwin : (slice xs s (step + o)).drop o = (xs.drop (s + o)).take step := by
        rw [slice, List.drop_take, List.drop_drop, Nat.add_sub_cancel]
      have hrest : xs.drop (s + step + o) = (xs.drop (s + o)).drop step := by
        rw [List.drop_drop, show s + o + step = s + step + o by omega]
      rw [hwin, hrest, List.take_append_drop]
    · rw [pyRange_of_le (by omega) hstep, List.drop_eq_nil_of_le (by omega)]
      rfl

/-! ## Numbered loops -/

/-- A numbered loop that gives a list at each index, with no repeats within an index and
nothing shared between two indices, gives no value twice. -/
theorem nodup_flatMap_zipIdx {β : Type v} (f : α → Nat → List β)
    (hnodup : ∀ a i, (f a i).Nodup) (hdisj : ∀ a b i j, i ≠ j → ∀ x ∈ f a i, x ∉ f b j) :
    ∀ (xs : List α) (k : Nat), ((xs.zipIdx k).flatMap fun p => f p.1 p.2).Nodup
  | [], _ => List.nodup_nil
  | a :: xs, k => by
    rw [List.zipIdx_cons, List.flatMap_cons, List.nodup_append]
    refine ⟨hnodup a k, nodup_flatMap_zipIdx f hnodup hdisj xs (k + 1), ?_⟩
    -- the later indices are all past `k`
    intro x hx y hy hxy
    obtain ⟨⟨b, j⟩, hp, hyb⟩ := List.mem_flatMap.1 hy
    have hj := (List.mem_zipIdx hp).1
    exact hdisj a b k j (by omega) x hx (hxy ▸ hyb)

/-- A numbered loop that gives at most one value at each index, whose name is determined by
the index, gives no name twice. -/
theorem nodup_filterMap_zipIdx {β : Type v} {γ : Type w} (f : α → Nat → Option β)
    (name : β → γ) (key : Nat → γ) (hkey : Function.Injective key)
    (hf : ∀ a i b, f a i = some b → name b = key i) (xs : List α) (k : Nat) :
    (((xs.zipIdx k).filterMap fun p => f p.1 p.2).map name).Nodup := by
  have hflat : ((xs.zipIdx k).filterMap fun p => f p.1 p.2).map name =
      (xs.zipIdx k).flatMap fun p => ((f p.1 p.2).map name).toList := by
    rw [List.filterMap_eq_flatMap_toList, List.map_flatMap]
    congr 1
    funext p
    cases f p.1 p.2 <;> rfl
  rw [hflat]
  refine nodup_flatMap_zipIdx (fun a i => ((f a i).map name).toList) ?_ ?_ xs k
  · intro a i
    cases f a i <;> simp
  · -- a value at index `i` is named `key i`
    have hname : ∀ a i x, x ∈ ((f a i).map name).toList → x = key i := by
      intro a i x hx
      cases hfa : f a i with
      | none => rw [hfa] at hx; cases hx
      | some b =>
        rw [hfa] at hx
        simp only [Option.map_some, Option.toList_some, List.mem_singleton] at hx
        rw [hx, hf a i b hfa]
    intro a b i j hij x hx hy
    exact hij (hkey ((hname a i x hx).symm.trans (hname b j x hy)))

end Batches
