import Mathlib

/-!
# Programs on a transactional store through an ORM session

A program holds a session on a store: the changes it makes are queued, what it reads is the
store with the queued changes applied (autoflush), and `commit` applies them. Round trips to
the database and calls to outside services can fail; an oracle (`Env.fault`) says which
fallible operation, counted from the start, fails and with what error. A failed round trip
rolls the transaction back: the queued changes are lost and every later round trip raises
until the session is closed. Programs also send things outside (messages, events), which
never fail.

Programs are `ExceptT ε (StateM (Conn σ χ ω))` computations, so an exception keeps the state
reached where it was raised. `runSession` runs one on a fresh session and closes it.

The module proves that a program keeps an invariant of the connection (`Keeps`), with a rule
per operation and the composition rules for `bind`, `tryCatch` and branches, and that the
committed store only changes through `commit` and `callCommit`.
-/

set_option autoImplicit false

namespace Session

/-- A connection: the committed store, the changes queued in the session, whether a failed
round trip left the session needing a rollback, how many fallible operations have run, and
what the program has sent outside. -/
structure Conn (σ χ ω : Type) where
  db : σ
  pending : List χ
  broken : Bool
  ops : Nat
  out : ω

/-- How a change acts on the store, which fallible operations fail, and what a round trip of
a session that needs a rollback raises. -/
structure Env (σ χ ε : Type) where
  apply : σ → χ → σ
  fault : Nat → Option ε
  rollbackError : ε

/-- Programs on a connection. -/
abbrev M (σ χ ω ε : Type) := ExceptT ε (StateM (Conn σ χ ω))

variable {σ χ ω ε α β : Type}

/-- The store as the session reads it: the committed store with the queued changes applied. -/
def Conn.view (apply : σ → χ → σ) (c : Conn σ χ ω) : σ := c.pending.foldl apply c.db

/-- One fallible operation: count it and ask the oracle whether it fails. -/
def fallible (E : Env σ χ ε) : M σ χ ω ε (Option ε) := do
  let c ← get
  set { c with ops := c.ops + 1 }
  return E.fault c.ops

/-- A round trip to the database. A session that needs a rollback raises at once; a failed
round trip loses the queued changes and leaves the session needing a rollback. -/
def roundTrip (E : Env σ χ ε) : M σ χ ω ε Unit := do
  let c ← get
  if c.broken then throw E.rollbackError
  else
    match ← fallible E with
    | some e =>
      modify fun c => { c with pending := [], broken := true }
      throw e
    | none => pure ()

/-- A query: a round trip that reads the session's view of the store. -/
def query (E : Env σ χ ε) (f : σ → α) : M σ χ ω ε α := do
  roundTrip E
  return f ((← get).view E.apply)

/-- `session.add(row)`, or an attribute assignment on a loaded row: queue a change. The
change may depend on the session's view, as a new row's id does. -/
def add (E : Env σ χ ε) (x : σ → χ) : M σ χ ω ε Unit :=
  modify fun c => { c with pending := c.pending ++ [x (c.view E.apply)] }

/-- `session.commit()`. -/
def commit (E : Env σ χ ε) : M σ χ ω ε Unit := do
  roundTrip E
  modify fun c => { c with db := c.view E.apply, pending := [] }

/-- A call to an outside service that answers `r` unless it fails. -/
def call (E : Env σ χ ε) (r : Except ε α) : M σ χ ω ε α := do
  match ← fallible E with
  | some e => throw e
  | none => MonadExcept.ofExcept r

/-- A call that writes `xs` to the store through a session of its own, and commits. -/
def callCommit (E : Env σ χ ε) (xs : List χ) : M σ χ ω ε Unit := do
  match ← fallible E with
  | some e => throw e
  | none => modify fun c => { c with db := xs.foldl E.apply c.db }

/-- Send something outside; this never fails. -/
def send (f : ω → ω) : M σ χ ω ε Unit := modify fun c => { c with out := f c.out }

/-- Open a session, run the program, close the session: the queued changes that were not
committed are discarded. -/
def runSession (x : M σ χ ω ε α) (c : Conn σ χ ω) : Except ε α × Conn σ χ ω :=
  let r := (x.run.run { c with pending := [], broken := false })
  (r.1, { r.2 with pending := [], broken := false })

/-! ## Running a program -/

/-- The result and the final connection of a program. -/
def run (x : M σ χ ω ε α) (c : Conn σ χ ω) : Except ε α × Conn σ χ ω := x.run.run c

theorem run_bind (x : M σ χ ω ε α) (f : α → M σ χ ω ε β) (c : Conn σ χ ω) :
    run (x >>= f) c = match run x c with
      | (.ok a, c') => run (f a) c'
      | (.error e, c') => (.error e, c') := by
  simp only [run, ExceptT.run_bind, StateT.run_bind]
  rcases (x.run.run c) with ⟨r, c'⟩
  cases r <;> rfl

theorem run_tryCatch (x : M σ χ ω ε α) (h : ε → M σ χ ω ε α) (c : Conn σ χ ω) :
    run (tryCatch x h) c = match run x c with
      | (.ok a, c') => (.ok a, c')
      | (.error e, c') => run (h e) c' := by
  rcases hx : (x.run.run c) with ⟨r, c'⟩
  have hx' : StateT.run (m := Id) x c = (r, c') := hx
  simp only [run, tryCatch, tryCatchThe, MonadExceptOf.tryCatch, ExceptT.tryCatch,
    ExceptT.run_mk, StateT.run_bind, hx', hx]
  cases r <;> rfl

@[simp] theorem run_pure (a : α) (c : Conn σ χ ω) : run (pure a : M σ χ ω ε α) c = (.ok a, c) :=
  rfl

@[simp] theorem run_throw (e : ε) (c : Conn σ χ ω) :
    run (throw e : M σ χ ω ε α) c = (.error e, c) := rfl

@[simp] theorem run_get (c : Conn σ χ ω) : run (get : M σ χ ω ε (Conn σ χ ω)) c = (.ok c, c) :=
  rfl

@[simp] theorem run_set (c c' : Conn σ χ ω) : run (set c' : M σ χ ω ε Unit) c = (.ok (), c') :=
  rfl

@[simp] theorem run_modify (f : Conn σ χ ω → Conn σ χ ω) (c : Conn σ χ ω) :
    run (modify f : M σ χ ω ε Unit) c = (.ok (), f c) := rfl

@[simp] theorem run_ofExcept (r : Except ε α) (c : Conn σ χ ω) :
    run (MonadExcept.ofExcept r : M σ χ ω ε α) c = (r, c) := by
  cases r <;> rfl

/-! ## Invariants of programs -/

/-- `x` keeps `P`: from a connection in `P` it ends, whether it returns or raises, in a
connection in `P`. -/
def Keeps (P : Conn σ χ ω → Prop) (x : M σ χ ω ε α) : Prop := ∀ c, P c → P (run x c).2

variable {P : Conn σ χ ω → Prop}

namespace Keeps

theorem pure (a : α) : Keeps P (Pure.pure a : M σ χ ω ε α) := fun _ h => h

theorem throw (e : ε) : Keeps P (MonadExcept.throw e : M σ χ ω ε α) := fun _ h => h

theorem get : Keeps P (MonadState.get : M σ χ ω ε (Conn σ χ ω)) := fun _ h => h

theorem ofExcept (r : Except ε α) : Keeps P (MonadExcept.ofExcept r : M σ χ ω ε α) := by
  intro c h
  simpa using h

theorem modify {f : Conn σ χ ω → Conn σ χ ω} (hf : ∀ c, P c → P (f c)) :
    Keeps P (MonadState.modifyGet fun c => ((), f c) : M σ χ ω ε Unit) := fun c h => hf c h

theorem bind {x : M σ χ ω ε α} {f : α → M σ χ ω ε β} (hx : Keeps P x)
    (hf : ∀ a, Keeps P (f a)) : Keeps P (x >>= f) := by
  intro c hc
  rw [run_bind]
  rcases h : run x c with ⟨r, c'⟩
  have hc' : P c' := by simpa [h] using hx c hc
  cases r with
  | error e => exact hc'
  | ok a => exact hf a c' hc'

theorem tryCatch {x : M σ χ ω ε α} {h : ε → M σ χ ω ε α} (hx : Keeps P x)
    (hh : ∀ e, Keeps P (h e)) : Keeps P (MonadExcept.tryCatch x h) := by
  intro c hc
  rw [run_tryCatch]
  rcases hr : run x c with ⟨r, c'⟩
  have hc' : P c' := by simpa [hr] using hx c hc
  cases r with
  | error e => exact hh e c' hc'
  | ok a => exact hc'

theorem ite {p : Prop} [Decidable p] {x y : M σ χ ω ε α} (hx : p → Keeps P x)
    (hy : ¬p → Keeps P y) : Keeps P (if p then x else y) := by
  by_cases hp : p
  · rw [if_pos hp]
    exact hx hp
  · rw [if_neg hp]
    exact hy hp

theorem forM {xs : List α} {f : α → M σ χ ω ε PUnit} (hf : ∀ a ∈ xs, Keeps P (f a)) :
    Keeps P (xs.forM f) := by
  induction xs with
  | nil => exact pure _
  | cons a xs ih =>
    show Keeps P (f a >>= fun _ => xs.forM f)
    exact bind (hf a (by simp)) fun _ => ih fun b hb => hf b (by simp [hb])

end Keeps

/-- What a connection invariant must survive for the operations that do not write: counting
a fallible operation, aborting the transaction, and committing the queued changes. -/
structure Stable (E : Env σ χ ε) (P : Conn σ χ ω → Prop) : Prop where
  tick : ∀ c, P c → P { c with ops := c.ops + 1 }
  abort : ∀ c, P c → P { c with pending := [], broken := true }
  commit : ∀ c, P c → P { c with db := c.view E.apply, pending := [] }

section Operations

variable {E : Env σ χ ε}

theorem keeps_fallible (hP : Stable E P) : Keeps P (fallible E : M σ χ ω ε (Option ε)) := by
  intro c hc
  exact hP.tick c hc

theorem keeps_roundTrip (hP : Stable E P) : Keeps P (roundTrip E : M σ χ ω ε Unit) := by
  unfold roundTrip
  refine Keeps.bind Keeps.get fun c => Keeps.ite (fun _ => Keeps.throw _) fun _ => ?_
  refine Keeps.bind (keeps_fallible hP) fun r => ?_
  cases r with
  | some e => exact Keeps.bind (Keeps.modify hP.abort) fun _ => Keeps.throw e
  | none => exact Keeps.pure _

theorem keeps_query (hP : Stable E P) (f : σ → α) : Keeps P (query E f : M σ χ ω ε α) :=
  Keeps.bind (keeps_roundTrip hP) fun _ => Keeps.bind Keeps.get fun _ => Keeps.pure _

theorem keeps_commit (hP : Stable E P) : Keeps P (commit E : M σ χ ω ε Unit) :=
  Keeps.bind (keeps_roundTrip hP) fun _ => Keeps.modify hP.commit

theorem keeps_call (hP : Stable E P) (r : Except ε α) : Keeps P (call E r : M σ χ ω ε α) := by
  refine Keeps.bind (keeps_fallible hP) fun o => ?_
  cases o with
  | some e => exact Keeps.throw e
  | none => exact Keeps.ofExcept r

/-- Queuing a change keeps `P` when `P` allows that change. -/
theorem keeps_add {x : σ → χ}
    (h : ∀ c, P c → P { c with pending := c.pending ++ [x (c.view E.apply)] }) :
    Keeps P (add E x : M σ χ ω ε Unit) := Keeps.modify h

theorem keeps_send {f : ω → ω} (h : ∀ c, P c → P { c with out := f c.out }) :
    Keeps P (send f : M σ χ ω ε Unit) := Keeps.modify h

theorem keeps_callCommit (hP : Stable E P) {xs : List χ}
    (h : ∀ c, P c → P { c with db := xs.foldl E.apply c.db }) :
    Keeps P (callCommit E xs : M σ χ ω ε Unit) := by
  refine Keeps.bind (keeps_fallible hP) fun o => ?_
  cases o with
  | some e => exact Keeps.throw e
  | none => exact Keeps.modify h

end Operations

/-- A session run keeps an invariant its program keeps, when opening and closing a session
keep it too. -/
theorem runSession_keeps {x : M σ χ ω ε α} (hx : Keeps P x)
    (hreset : ∀ c, P c → P { c with pending := [], broken := false }) {c : Conn σ χ ω}
    (hc : P c) : P (runSession x c).2 :=
  hreset _ (hx _ (hreset c hc))

end Session
