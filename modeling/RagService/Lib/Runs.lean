import Mathlib.Logic.Relation

/-!
# Runs of step functions

Induction rules for the shapes of loop the model has:

- a left fold of a step that cannot raise, with an invariant every step keeps
  (`foldl_invariant`);
- a left fold of a step that may raise (`List.foldlM` in `Except`), with an invariant that
  speaks about the prefix of the input already consumed (`foldlM_prefix_invariant`): if every
  step from an invariant state succeeds and re-establishes the invariant for the longer prefix,
  the whole fold succeeds and ends in an invariant state; and, the other way, a fold that
  returns ends in a state of every invariant its returning steps keep (`foldlM_ok_invariant`);
- a map whose step may raise (`List.mapM` in `Except`), whose results are results of the
  step (`mem_of_mapM_ok`), and which returns when every step does (`mapM_ok`);
- a step relation on states, whose reachable states satisfy every inductive invariant
  (`Reachable.invariant`), also one whose step uses invariants proved before
  (`Reachable.invariant_of_reach`).
-/

set_option autoImplicit false

namespace Runs

universe u v w

variable {α : Type u} {σ : Type v} {ε : Type w}

/-! ## Folds that may raise -/

/-- `bind` of `Except` on a value. -/
@[simp] theorem except_ok_bind {β : Type v} (a : σ) (f : σ → Except ε β) :
    (Except.ok a >>= f) = f a := rfl

/-- `bind` of `Except` on an error. -/
@[simp] theorem except_error_bind {β : Type v} (e : ε) (f : σ → Except ε β) :
    ((Except.error e : Except ε σ) >>= f) = Except.error e := rfl

/-- A mapped result that is `ok` comes from an `ok`. -/
theorem except_map_ok {β : Type v} {f : σ → β} {x : Except ε σ} {b : β}
    (h : x.map f = .ok b) : ∃ a, x = .ok a ∧ f a = b := by
  cases x with
  | error e => cases h
  | ok a =>
    cases h
    exact ⟨a, rfl, rfl⟩

/-- The fold rule. `P pre s` says that `s` is a state the loop can be in after consuming
`pre`; the step obligation is only asked for elements of the input. -/
theorem foldlM_prefix_invariant (f : σ → α → Except ε σ) (P : List α → σ → Prop)
    (xs : List α)
    (hstep : ∀ pre x s, x ∈ xs → P pre s → ∃ s', f s x = .ok s' ∧ P (pre ++ [x]) s') :
    ∀ (pre : List α) (acc : σ), P pre acc →
      ∃ s, xs.foldlM f acc = .ok s ∧ P (pre ++ xs) s := by
  induction xs with
  | nil =>
    intro pre acc hacc
    exact ⟨acc, rfl, by simpa using hacc⟩
  | cons x xs ih =>
    intro pre acc hacc
    obtain ⟨next, hnext, hP⟩ := hstep pre x acc (by simp) hacc
    -- the rest of the input keeps the step obligation
    have hrest : ∀ pre y s, y ∈ xs → P pre s → ∃ s', f s y = .ok s' ∧ P (pre ++ [y]) s' :=
      fun pre y s hy hs => hstep pre y s (List.mem_cons_of_mem x hy) hs
    obtain ⟨out, hout, hPout⟩ := ih hrest (pre ++ [x]) next hP
    refine ⟨out, ?_, by simpa using hPout⟩
    simpa only [List.foldlM_cons, hnext, except_ok_bind] using hout

/-- The fold rule from the empty prefix. -/
theorem foldlM_invariant (f : σ → α → Except ε σ) (P : List α → σ → Prop) (xs : List α)
    (init : σ) (h0 : P [] init)
    (hstep : ∀ pre x s, x ∈ xs → P pre s → ∃ s', f s x = .ok s' ∧ P (pre ++ [x]) s') :
    ∃ s, xs.foldlM f init = .ok s ∧ P xs s := by
  simpa using foldlM_prefix_invariant f P xs hstep [] init h0

/-- The converse rule: when a fold returns, its result has every property that holds
initially and that each step which returns keeps. -/
theorem foldlM_ok_invariant {f : σ → α → Except ε σ} (Q : σ → Prop) {xs : List α}
    (hstep : ∀ s x s', x ∈ xs → Q s → f s x = .ok s' → Q s') :
    ∀ {init out : σ}, Q init → xs.foldlM f init = .ok out → Q out := by
  induction xs with
  | nil =>
    intro init out hinit hout
    cases hout
    exact hinit
  | cons x xs ih =>
    intro init out hinit hout
    rw [List.foldlM_cons] at hout
    -- the first step returned, or the fold would have raised
    cases hfirst : f init x with
    | error e => rw [hfirst] at hout; cases hout
    | ok next =>
      rw [hfirst, except_ok_bind] at hout
      have hrest : ∀ s y s', y ∈ xs → Q s → f s y = .ok s' → Q s' :=
        fun s y s' hy => hstep s y s' (List.mem_cons_of_mem x hy)
      exact ih hrest (hstep init x next List.mem_cons_self hinit hfirst) hout

/-- The rule of a fold that cannot raise: a property every step keeps holds at the end. -/
theorem foldl_invariant (f : σ → α → σ) (Q : σ → Prop) (xs : List α)
    (hstep : ∀ s x, x ∈ xs → Q s → Q (f s x)) : ∀ s, Q s → Q (xs.foldl f s) := by
  induction xs with
  | nil =>
    intro s hs
    exact hs
  | cons x xs ih =>
    intro s hs
    have hrest : ∀ s y, y ∈ xs → Q s → Q (f s y) :=
      fun s y hy => hstep s y (List.mem_cons_of_mem x hy)
    exact ih hrest (f s x) (hstep s x List.mem_cons_self hs)

/-- A map whose step may raise returns, when it returns, a result of the step for each of its
results. -/
theorem mem_of_mapM_ok {β : Type v} {f : α → Except ε β} {xs : List α} {ys : List β}
    (h : xs.mapM f = .ok ys) {y : β} (hy : y ∈ ys) : ∃ x ∈ xs, f x = .ok y := by
  induction xs generalizing ys with
  | nil =>
    simp only [List.mapM_nil] at h
    cases h
    simp at hy
  | cons x xs ih =>
    -- the head's step, then the rest, must both have returned
    cases hx : f x with
    | error e =>
      rw [List.mapM_cons, hx] at h
      cases h
    | ok b =>
      cases hxs : xs.mapM f with
      | error e =>
        rw [List.mapM_cons, hx, hxs] at h
        cases h
      | ok bs =>
        rw [List.mapM_cons, hx, hxs] at h
        cases h
        rcases List.mem_cons.1 hy with rfl | hy
        · exact ⟨x, List.mem_cons_self, hx⟩
        · obtain ⟨x', hx', hfx⟩ := ih hxs hy
          exact ⟨x', List.mem_cons_of_mem x hx', hfx⟩

/-- A map whose step returns on every element returns the map of the results. -/
theorem mapM_ok {β : Type v} {f : α → Except ε β} {g : α → β} :
    ∀ {xs : List α}, (∀ x ∈ xs, f x = .ok (g x)) → xs.mapM f = .ok (xs.map g)
  | [], _ => rfl
  | x :: xs, h => by
    have hrest := @mapM_ok β f g xs fun y hy => h y (List.mem_cons_of_mem x hy)
    rw [List.mapM_cons, h x List.mem_cons_self, hrest]
    rfl

/-! ## Reachable states of a step relation -/

/-- The states a step relation reaches from `init`. -/
def Reachable (step : σ → σ → Prop) (init : σ) : σ → Prop :=
  Relation.ReflTransGen step init

/-- An invariant that holds initially and that every step keeps holds of every reachable
state. -/
theorem Reachable.invariant {step : σ → σ → Prop} {init : σ} (P : σ → Prop) (h0 : P init)
    (hstep : ∀ s t, P s → step s t → P t) {s : σ} (hs : Reachable step init s) : P s := by
  induction hs with
  | refl => exact h0
  | tail _ hlast ih => exact hstep _ _ ih hlast

/-- The invariant rule where a step may use that its source is reachable, and so every
invariant of reachable states proved before. -/
theorem Reachable.invariant_of_reach {step : σ → σ → Prop} {init : σ} (P : σ → Prop)
    (h0 : P init) (hstep : ∀ s t, Reachable step init s → P s → step s t → P t) {s : σ}
    (hs : Reachable step init s) : P s := by
  induction hs with
  | refl => exact h0
  | tail hreach hlast ih => exact hstep _ _ hreach ih hlast

end Runs
