import RagService.Lib.Session

/-!
# Pre- and postconditions of session programs

`Triple P x Q R`: run from a connection satisfying `P`, the program `x` either returns a value
`a` in a connection satisfying `Q a`, or raises `e` in a connection satisfying `R e`.

`Keeps` of `Session` follows one invariant through a program and forgets what the program
computes; a triple follows the values, so that a later step can use what an earlier one read
(the id a query returned, the row a `get` saw). Each operation of `Session` gets its weakest
precondition (`triple_roundTrip`, `triple_add`, ...), and the rules compose them along `bind`,
`tryCatch`, branches, `forM` loops and `foldlM` folds, a loop with an invariant indexed by the
prefix of the list already run. `Keeps.triple` turns an invariant into a triple, and
`Triple.keeps` back; `keeps_query_bind` and `keeps_ofExcept_bind` let an invariant proof use
what a query or a pure step returned.
-/

set_option autoImplicit false

namespace Session

variable {σ χ ω ε α β : Type}

/-- The assertion on the result of a run: `Q` of the value returned, `R` of the exception
raised, each with the final connection. -/
def Outcome (Q : α → Conn σ χ ω → Prop) (R : ε → Conn σ χ ω → Prop) :
    Except ε α × Conn σ χ ω → Prop
  | (.ok a, c) => Q a c
  | (.error e, c) => R e c

@[simp] theorem outcome_ok (Q : α → Conn σ χ ω → Prop) (R : ε → Conn σ χ ω → Prop) (a : α)
    (c : Conn σ χ ω) : Outcome Q R (.ok a, c) = Q a c := rfl

@[simp] theorem outcome_error (Q : α → Conn σ χ ω → Prop) (R : ε → Conn σ χ ω → Prop) (e : ε)
    (c : Conn σ χ ω) : Outcome Q R (.error e, c) = R e c := rfl

/-- A run that returned `a` ends in `Q a`. -/
theorem Outcome.of_ok {Q : α → Conn σ χ ω → Prop} {R : ε → Conn σ χ ω → Prop}
    {r : Except ε α × Conn σ χ ω} {a : α} (h : Outcome Q R r) (hr : r.1 = .ok a) : Q a r.2 := by
  rcases r with ⟨r, c⟩
  subst hr
  exact h

/-- Weakening both assertions. -/
theorem Outcome.mono {Q Q' : α → Conn σ χ ω → Prop} {R R' : ε → Conn σ χ ω → Prop}
    {r : Except ε α × Conn σ χ ω} (h : Outcome Q R r) (hQ : ∀ a c, Q a c → Q' a c)
    (hR : ∀ e c, R e c → R' e c) : Outcome Q' R' r := by
  rcases r with ⟨_ | _, c⟩
  · exact hR _ c h
  · exact hQ _ c h

/-- With assertions that do not look at the value, a run ends in one of them. -/
theorem Outcome.elim {A B : Conn σ χ ω → Prop} {r : Except ε α × Conn σ χ ω}
    (h : Outcome (fun _ => A) (fun _ => B) r) : A r.2 ∨ B r.2 := by
  rcases r with ⟨_ | _, c⟩
  · exact Or.inr h
  · exact Or.inl h

/-- From `P`, `x` returns into `Q` or raises into `R`. -/
def Triple (P : Conn σ χ ω → Prop) (x : M σ χ ω ε α) (Q : α → Conn σ χ ω → Prop)
    (R : ε → Conn σ χ ω → Prop) : Prop :=
  ∀ c, P c → Outcome Q R (run x c)

variable {P P' : Conn σ χ ω → Prop} {Q Q' : α → Conn σ χ ω → Prop}
  {R R' : ε → Conn σ χ ω → Prop}

namespace Triple

theorem pre {x : M σ χ ω ε α} (h : Triple P x Q R) (hP : ∀ c, P' c → P c) : Triple P' x Q R :=
  fun c hc => h c (hP c hc)

theorem post {x : M σ χ ω ε α} (h : Triple P x Q R) (hQ : ∀ a c, Q a c → Q' a c)
    (hR : ∀ e c, R e c → R' e c) : Triple P x Q' R' :=
  fun c hc => (h c hc).mono hQ hR

/-- A fact that the precondition implies may be used in the proof. -/
theorem of_pre {x : M σ χ ω ε α} {φ : Prop} (hφ : ∀ c, P c → φ) (h : φ → Triple P x Q R) :
    Triple P x Q R :=
  fun c hc => h (hφ c hc) c hc

theorem pure (a : α) : Triple (Q a) (Pure.pure a : M σ χ ω ε α) Q R := fun _ hc => hc

theorem throw (e : ε) : Triple (R e) (MonadExcept.throw e : M σ χ ω ε α) Q R := fun _ hc => hc

/-- A step that does nothing keeps any assertion. -/
theorem skip (a : α) : Triple P (Pure.pure a : M σ χ ω ε α) (fun _ => P) R := fun _ hc => hc

theorem get {Q : Conn σ χ ω → Conn σ χ ω → Prop} :
    Triple (fun c => Q c c) (MonadState.get : M σ χ ω ε (Conn σ χ ω)) Q R := fun _ hc => hc

theorem modify {Q : Unit → Conn σ χ ω → Prop} (f : Conn σ χ ω → Conn σ χ ω) :
    Triple (fun c => Q () (f c)) (MonadState.modifyGet fun c => ((), f c) : M σ χ ω ε Unit)
      Q R := fun _ hc => hc

/-- Reading the connection: the rest of the program may depend on the connection read. -/
theorem bind_get {f : Conn σ χ ω → M σ χ ω ε α}
    (h : ∀ c, P c → Triple (fun s => s = c) (f c) Q R) :
    Triple P (MonadState.get >>= f) Q R := by
  intro c hc
  rw [run_bind, run_get]
  exact h c hc c rfl

theorem ofExcept (r : Except ε α) :
    Triple (fun c => Outcome Q R (r, c)) (MonadExcept.ofExcept r : M σ χ ω ε α) Q R := by
  intro c hc
  simpa using hc

theorem bind {x : M σ χ ω ε α} {f : α → M σ χ ω ε β} {S : β → Conn σ χ ω → Prop}
    (hx : Triple P x Q R) (hf : ∀ a, Triple (Q a) (f a) S R) : Triple P (x >>= f) S R := by
  intro c hc
  rw [run_bind]
  have hout := hx c hc
  rcases hr : run x c with ⟨r, c'⟩
  rw [hr] at hout
  cases r with
  | ok a => exact hf a c' hout
  | error e => exact hout

theorem tryCatch {x : M σ χ ω ε α} {h : ε → M σ χ ω ε α} {H : ε → Conn σ χ ω → Prop}
    (hx : Triple P x Q H) (hh : ∀ e, Triple (H e) (h e) Q R) :
    Triple P (MonadExcept.tryCatch x h) Q R := by
  intro c hc
  rw [run_tryCatch]
  have hout := hx c hc
  rcases hr : run x c with ⟨r, c'⟩
  rw [hr] at hout
  cases r with
  | ok a => exact hout
  | error e => exact hh e c' hout

theorem ite {p : Prop} [Decidable p] {x y : M σ χ ω ε α} (hx : p → Triple P x Q R)
    (hy : ¬p → Triple P y Q R) : Triple P (if p then x else y) Q R := by
  by_cases hp : p
  · rw [if_pos hp]
    exact hx hp
  · rw [if_neg hp]
    exact hy hp

/-- The loop rule: `I pre` holds once the elements of `pre` have been run. -/
theorem forM {xs : List α} {f : α → M σ χ ω ε PUnit} (I : List α → Conn σ χ ω → Prop)
    (hf : ∀ pre a post, pre ++ a :: post = xs → Triple (I pre) (f a) (fun _ => I (pre ++ [a])) R) :
    Triple (I []) (xs.forM f) (fun _ => I xs) R := by
  -- the rest of the list, run from the state reached after `pre`
  have hrest : ∀ rest pre, pre ++ rest = xs →
      Triple (I pre) (rest.forM f) (fun _ => I xs) R := by
    intro rest
    induction rest with
    | nil =>
      intro pre hpre
      rw [List.append_nil] at hpre
      subst hpre
      exact pure (R := R) _
    | cons a rest ih =>
      intro pre hpre
      show Triple (I pre) (f a >>= fun _ => rest.forM f) (fun _ => I xs) R
      exact bind (hf pre a rest hpre) fun _ => ih (pre ++ [a]) (by simp [hpre])
  exact hrest xs [] rfl

/-- The fold rule: `I pre acc` holds once the elements of `pre` have been folded into `acc`. -/
theorem foldlM {xs : List α} {f : β → α → M σ χ ω ε β} {init : β}
    (I : List α → β → Conn σ χ ω → Prop)
    (hf : ∀ pre a post acc, pre ++ a :: post = xs →
      Triple (I pre acc) (f acc a) (I (pre ++ [a])) R) :
    Triple (I [] init) (xs.foldlM f init) (I xs) R := by
  -- the rest of the list, folded from the value reached after `pre`
  have hrest : ∀ rest pre acc, pre ++ rest = xs →
      Triple (I pre acc) (rest.foldlM f acc) (I xs) R := by
    intro rest
    induction rest with
    | nil =>
      intro pre acc hpre
      rw [List.append_nil] at hpre
      subst hpre
      exact pure (R := R) _
    | cons a rest ih =>
      intro pre acc hpre
      show Triple (I pre acc) (f acc a >>= fun acc' => rest.foldlM f acc') (I xs) R
      exact bind (hf pre a rest acc hpre) fun acc' => ih (pre ++ [a]) acc' (by simp [hpre])
  exact hrest xs [] init rfl

end Triple

/-- An invariant is a triple whose three assertions are the invariant. -/
theorem Keeps.triple {x : M σ χ ω ε α} (h : Keeps P x) : Triple P x (fun _ => P) (fun _ => P) := by
  intro c hc
  have hout := h c hc
  rcases hr : run x c with ⟨r, c'⟩
  rw [hr] at hout
  cases r <;> exact hout

/-- A session run: the program runs from the connection as the session opens it, and closing
the session keeps what the assertions say when they do not look at the session's queue. -/
theorem outcome_runSession {x : M σ χ ω ε α} {c : Conn σ χ ω}
    (h : Triple (fun s => s = { c with pending := [], broken := false }) x Q R)
    (hQ : ∀ a s, Q a s → Q a { s with pending := [], broken := false })
    (hR : ∀ e s, R e s → R e { s with pending := [], broken := false }) :
    Outcome Q R (runSession x c) := by
  have hout := h _ rfl
  show Outcome Q R ((run x { c with pending := [], broken := false }).1,
    { (run x { c with pending := [], broken := false }).2 with pending := [], broken := false })
  rcases hr : run x { c with pending := [], broken := false } with ⟨r, c'⟩
  rw [hr] at hout
  cases r with
  | ok a => exact hQ a c' hout
  | error e => exact hR e c' hout

/-! ## The operations -/

section Operations

variable {E : Env σ χ ε}

/-- A round trip: a session that needs a rollback raises its error; otherwise the oracle says
whether it fails, and a failure drops the queued changes. -/
theorem triple_roundTrip {Q : Unit → Conn σ χ ω → Prop} :
    Triple (fun c => if c.broken then R E.rollbackError c else
        match E.fault c.ops with
        | some e => R e { c with ops := c.ops + 1, pending := [], broken := true }
        | none => Q () { c with ops := c.ops + 1 })
      (roundTrip E) Q R := by
  intro c hc
  -- the two answers of the oracle, in a session that does not need a rollback
  cases hb : c.broken <;> cases hf : E.fault c.ops <;>
    simp_all [roundTrip, fallible, run_bind]

theorem triple_query (f : σ → α) :
    Triple (fun c => if c.broken then R E.rollbackError c else
        match E.fault c.ops with
        | some e => R e { c with ops := c.ops + 1, pending := [], broken := true }
        | none => Q (f (c.view E.apply)) { c with ops := c.ops + 1 })
      (query E f) Q R := by
  unfold query
  exact (Triple.bind triple_roundTrip fun _ => Triple.bind Triple.get fun _ => Triple.pure _).pre
    fun _ hc => hc

theorem triple_add {Q : Unit → Conn σ χ ω → Prop} (x : σ → χ) :
    Triple (fun c => Q () { c with pending := c.pending ++ [x (c.view E.apply)] }) (add E x) Q R :=
  Triple.modify _

theorem triple_commit {Q : Unit → Conn σ χ ω → Prop} :
    Triple (fun c => if c.broken then R E.rollbackError c else
        match E.fault c.ops with
        | some e => R e { c with ops := c.ops + 1, pending := [], broken := true }
        | none => Q () { c with ops := c.ops + 1, db := c.view E.apply, pending := [] })
      (commit E) Q R := by
  unfold commit
  exact (Triple.bind triple_roundTrip fun _ => Triple.modify _).pre fun _ hc => hc

theorem triple_call (r : Except ε α) :
    Triple (fun c => match E.fault c.ops with
        | some e => R e { c with ops := c.ops + 1 }
        | none => Outcome Q R (r, { c with ops := c.ops + 1 }))
      (call E r) Q R := by
  intro c hc
  cases hf : E.fault c.ops <;> simp_all [call, fallible, run_bind]

theorem triple_send {Q : Unit → Conn σ χ ω → Prop} (f : ω → ω) :
    Triple (fun c => Q () { c with out := f c.out }) (send f : M σ χ ω ε Unit) Q R :=
  Triple.modify _

end Operations

/-- An assertion on what has been sent is kept by every operation but `send`. -/
theorem stable_out (E : Env σ χ ε) (A : ω → Prop) : Stable E fun c : Conn σ χ ω => A c.out :=
  ⟨fun _ h => h, fun _ h => h, fun _ h => h⟩

/-- `ofExcept` keeps any assertion, and says what it returned. -/
theorem triple_ofExcept_keeps (r : Except ε α) :
    Triple P (MonadExcept.ofExcept r : M σ χ ω ε α) (fun a c => r = .ok a ∧ P c) (fun _ => P) := by
  refine (Triple.ofExcept r).pre fun c hc => ?_
  cases r with
  | error e => exact hc
  | ok a => exact ⟨rfl, hc⟩

/-- A triple whose two assertions are the precondition is a `Keeps`. -/
theorem Triple.keeps {x : M σ χ ω ε α} (h : Triple P x (fun _ => P) (fun _ => P)) : Keeps P x :=
  fun c hc => (Outcome.elim (h c hc)).elim id id

/-! ## Reads whose values the rest of a program uses

`Keeps` forgets what a read returned. A program that writes rows computed from what it read
keeps an invariant only through what the read value satisfies; these rules hand that fact to
the rest of the program, as a stronger invariant it has to keep. -/

section Reads

variable {E : Env σ χ ε}

/-- A query keeps a stable assertion and returns what the view says. -/
theorem triple_query_keeps (hP : Stable E P) (f : σ → α) :
    Triple P (query E f) (fun a c => a = f (c.view E.apply) ∧ P c) (fun _ => P) := by
  refine (triple_query f).pre fun c hc => ?_
  split
  · exact hc
  · split
    · -- the round trip fails: the session is rolled back
      exact hP.abort _ (hP.tick c hc)
    · exact ⟨rfl, hP.tick c hc⟩

/-- The rest of a program after a query keeps `P` when it keeps `P` together with what `P`
says of the value read. -/
theorem keeps_query_bind (hP : Stable E P) {f : σ → α} {k : α → M σ χ ω ε β}
    {R : α → Conn σ χ ω → Prop} (hR : ∀ c, P c → R (f (c.view E.apply)) c)
    (hk : ∀ a, Keeps (fun c => P c ∧ R a c) (k a)) : Keeps P (query E f >>= k) := by
  refine Triple.keeps (Triple.bind (triple_query_keeps hP f) fun a => ?_)
  refine ((hk a).triple.pre fun c hc => ?_).post (fun _ _ h => h.1) fun _ _ h => h.1
  obtain ⟨rfl, hc⟩ := hc
  exact ⟨hc, hR c hc⟩

end Reads

/-- The rest of a program after a step that may raise runs on the value the step returned. -/
theorem keeps_ofExcept_bind {r : Except ε α} {k : α → M σ χ ω ε β}
    (hk : ∀ a, r = .ok a → Keeps P (k a)) : Keeps P (MonadExcept.ofExcept r >>= k) := by
  refine Triple.keeps (Triple.bind (triple_ofExcept_keeps r) fun a => ?_)
  exact Triple.of_pre (fun _ hc => hc.1) fun ha => (hk a ha).triple.pre fun _ hc => hc.2

/-! ## The normal path

When only the runs that return normally matter, the exceptions' assertion is `True`. A
fallible operation then either raises or leaves the connection as it was, up to the count of
operations, and the rules need only say what holds on the normal path: the session needs no
rollback and its view satisfies an assertion on the store (`OnPath`), with nothing queued
right after a commit (`Settled`). The view changes only by `add`; a commit keeps it. -/

section NormalPath

variable {E : Env σ χ ε}

/-- Every program meets the triple that asks nothing. -/
theorem Triple.trivial {x : M σ χ ω ε α} : Triple P x (fun _ _ => True) (fun _ _ => True) := by
  intro c _
  rcases run x c with ⟨_ | _, _⟩ <;> trivial

/-- A connection on the normal path: no rollback pending, and a view satisfying `F`. -/
def OnPath (E : Env σ χ ε) (F : σ → Prop) (c : Conn σ χ ω) : Prop :=
  c.broken = false ∧ F (c.view E.apply)

/-- On the normal path right after a commit: nothing queued either. -/
def Settled (E : Env σ χ ε) (F : σ → Prop) (c : Conn σ χ ω) : Prop :=
  c.pending = [] ∧ OnPath E F c

theorem Settled.onPath {F : σ → Prop} {c : Conn σ χ ω} (h : Settled E F c) : OnPath E F c :=
  h.2

/-- With nothing queued, the view is the committed store. -/
theorem Settled.db {F : σ → Prop} {c : Conn σ χ ω} (h : Settled E F c) : F c.db := by
  have hview := h.2.2
  rwa [Conn.view, h.1, List.foldl_nil] at hview

section
variable {P : Conn σ χ ω → Prop}
  (hP : ∀ c, P c → c.broken = false ∧ P { c with ops := c.ops + 1 })
include hP

theorem triple_query_ok (f : σ → α) :
    Triple P (query E f) (fun a c => a = f (c.view E.apply) ∧ P c) (fun _ _ => True) := by
  refine (triple_query f).pre fun c hc => ?_
  obtain ⟨hb, hc'⟩ := hP c hc
  rw [if_neg (by simp [hb])]
  split
  · trivial
  · exact ⟨rfl, hc'⟩

theorem triple_call_ok (r : Except ε α) :
    Triple P (call E r) (fun a c => r = .ok a ∧ P c) (fun _ _ => True) := by
  refine (triple_call r).pre fun c hc => ?_
  split
  · trivial
  · cases r with
    | error e => trivial
    | ok a => exact ⟨rfl, (hP c hc).2⟩

end

theorem triple_ofExcept_ok {P : Conn σ χ ω → Prop} (r : Except ε α) :
    Triple P (MonadExcept.ofExcept r : M σ χ ω ε α) (fun a c => r = .ok a ∧ P c)
      (fun _ _ => True) := by
  refine (Triple.ofExcept r).pre fun c hc => ?_
  cases r with
  | error e => trivial
  | ok a => exact ⟨rfl, hc⟩

theorem triple_commit_ok {F : σ → Prop} :
    Triple (OnPath E F) (commit E : M σ χ ω ε Unit) (fun _ => Settled E F) (fun _ _ => True) := by
  refine triple_commit.pre fun c ⟨hb, hF⟩ => ?_
  rw [if_neg (by simp [hb])]
  split
  · trivial
  · exact ⟨rfl, hb, hF⟩

theorem triple_add_ok {F : σ → Prop} (x : σ → χ) :
    Triple (OnPath E fun v => F (E.apply v (x v))) (add E x : M σ χ ω ε Unit)
      (fun _ => OnPath E F) R := by
  refine (triple_add x).pre fun c ⟨hb, hF⟩ => ⟨hb, ?_⟩
  simpa only [Conn.view, List.foldl_append, List.foldl_cons, List.foldl_nil] using hF

theorem triple_send_ok {P : Conn σ χ ω → Prop} (f : ω → ω)
    (hP : ∀ c, P c → P { c with out := f c.out }) :
    Triple P (send f : M σ χ ω ε Unit) (fun _ => P) R :=
  (triple_send f).pre hP

theorem onPath_tick {F : σ → Prop} (c : Conn σ χ ω) (h : OnPath E F c) :
    c.broken = false ∧ OnPath E F { c with ops := c.ops + 1 } :=
  ⟨h.1, h⟩

theorem settled_tick {F : σ → Prop} (c : Conn σ χ ω) (h : Settled E F c) :
    c.broken = false ∧ Settled E F { c with ops := c.ops + 1 } :=
  ⟨h.2.1, h⟩

end NormalPath

end Session
