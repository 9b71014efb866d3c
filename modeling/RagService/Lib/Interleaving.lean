import Mathlib
import RagService.Lib.Runs

/-!
# Processes interleaved on a shared state

Processes share one state. Each process is at a local state, its frame and its place in its
program; one atomic step of one process changes the shared state and that process's local
state. A scheduler picks the process that steps, and a run follows a schedule, a list of
process positions. A process whose step is `none` has returned: scheduling it, or a position
with no process, does nothing.

A statement about `run` for every schedule holds for every interleaving of the processes'
atomic steps. The rules: an invariant every atomic step keeps holds after every run
(`run_invariant`); a sum over the processes changes by what the stepping process's term
changes (`sum_map_set`); a schedule is run piece by piece (`run_append`).
-/

set_option autoImplicit false

namespace Interleaving

variable {S L : Type}

/-- The shared state and the processes' local states. -/
structure Sys (S L : Type) where
  shared : S
  procs : List L

/-- The system after process `i` takes one atomic step. -/
def step (atomic : S → L → Option (S × L)) (c : Sys S L) (i : Nat) : Sys S L :=
  match c.procs[i]? with
  | none => c
  | some l =>
    match atomic c.shared l with
    | none => c
    | some (s, l') => ⟨s, c.procs.set i l'⟩

/-- The system after the steps of a schedule. -/
def run (atomic : S → L → Option (S × L)) (c : Sys S L) (sched : List Nat) : Sys S L :=
  sched.foldl (step atomic) c

variable {atomic : S → L → Option (S × L)}

theorem run_append (c : Sys S L) (s₁ s₂ : List Nat) :
    run atomic c (s₁ ++ s₂) = run atomic (run atomic c s₁) s₂ :=
  List.foldl_append

/-- One step: nothing moves, or process `i` moves from `l` to `l'` and the shared state from
`c.shared` to `s` by an atomic step. -/
theorem step_cases (c : Sys S L) (i : Nat) :
    step atomic c i = c ∨ ∃ l s l', c.procs[i]? = some l ∧ atomic c.shared l = some (s, l') ∧
      step atomic c i = ⟨s, c.procs.set i l'⟩ := by
  unfold step
  cases hi : c.procs[i]? with
  | none => exact Or.inl rfl
  | some l =>
    cases ha : atomic c.shared l with
    | none =>
      left
      simp only [ha]
    | some p =>
      right
      exact ⟨l, p.1, p.2, rfl, ha, by simp only [ha]⟩

theorem step_of_some {c : Sys S L} {i : Nat} {l : L} {s : S} {m : L}
    (hi : c.procs[i]? = some l) (ha : atomic c.shared l = some (s, m)) :
    step atomic c i = ⟨s, c.procs.set i m⟩ := by
  simp only [step, hi, ha]

/-- Scheduling a process that has returned does nothing. -/
theorem step_of_none {c : Sys S L} {i : Nat} {l : L} (hi : c.procs[i]? = some l)
    (ha : atomic c.shared l = none) : step atomic c i = c := by
  simp only [step, hi, ha]

/-- The invariant rule: a property every atomic step keeps holds after every schedule. -/
theorem run_invariant (I : Sys S L → Prop)
    (hstep : ∀ s ls i l s' l', ls[i]? = some l → atomic s l = some (s', l') → I ⟨s, ls⟩ →
      I ⟨s', ls.set i l'⟩)
    {c : Sys S L} (hc : I c) (sched : List Nat) : I (run atomic c sched) := by
  refine Runs.foldl_invariant (step atomic) I sched (fun c i _ hc => ?_) c hc
  rcases @step_cases _ _ atomic c i with h | ⟨l, s, l', hi, ha, h⟩
  · rw [h]
    exact hc
  · rw [h]
    exact hstep c.shared c.procs i l s l' hi ha hc

/-- A sum over the processes, after process `i` moved from `l` to `m`. -/
theorem sum_map_set (f : L → Nat) {ls : List L} {i : Nat} {l m : L} (hi : ls[i]? = some l) :
    ((ls.set i m).map f).sum + f l = (ls.map f).sum + f m := by
  induction ls generalizing i with
  | nil => simp at hi
  | cons x xs ih =>
    cases i with
    | zero =>
      simp only [List.getElem?_cons_zero, Option.some.injEq] at hi
      subst hi
      simp only [List.set_cons_zero, List.map_cons, List.sum_cons]
      omega
    | succ i =>
      simp only [List.getElem?_cons_succ] at hi
      have h := ih hi
      simp only [List.set_cons_succ, List.map_cons, List.sum_cons]
      omega

end Interleaving
