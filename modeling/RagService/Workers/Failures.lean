import RagService.Workers.Rerun

/-!
# What a failed task leaves

The `except` blocks of `parse_document` and `chunk_document` mark the job `error` with
`str(e)` and re-raise. That makes a failure clean only in part:

- an exception raised before `job` is assigned (the document missing) reaches the `except`
  block with `job` unbound, and `if job:` raises `UnboundLocalError` in its place:
  `runSession_lookup_bind_of_missing`, under every fault oracle;
- the rows a task committed before it failed stay committed: `parse_document` commits its
  elements, then its chunk job, and only then asks the broker to queue `chunk_document`.

A fault oracle `failAt n e` fails only the `n`-th fallible operation of the connection.
-/

set_option autoImplicit false

namespace RagService.Workers

open PyText Session RagService.Db

variable {V : Type}

/-- The oracle under which only the `n`-th fallible operation fails, with `e`. -/
def failAt (n : Nat) (e : Exc) : Nat → Option Exc := fun k => if k = n then some e else none

/-! ## Before `job` is bound -/

/-- A document the session does not see is never found: `lookup` raises, and what it raises is
`UnboundLocalError`. -/
theorem triple_lookup_of_missing {fault : Nat → Option Exc} (notFound : Nat → Exc) (d : Nat)
    (type : Str) :
    Triple (OnPath (dbEnv V fault) fun db => db.document d = none)
      (lookup (dbEnv V fault) notFound d type) (fun _ _ => False)
      (fun e _ => e = unboundJobError) := by
  unfold lookup
  refine Triple.tryCatch (H := fun _ _ => True) ?_ fun _ => (Triple.throw _).pre fun _ _ => rfl
  refine Triple.bind (triple_query_ok (quiet_onPath _).tick _) fun document => ?_
  cases document with
  | none => exact (Triple.throw _).pre fun _ _ => trivial
  | some doc =>
    -- the query read the view, which has no such document
    refine Triple.of_pre (fun c hc => ?_) False.elim
    exact absurd (hc.1.trans hc.2.2) (by simp)

/-- A task that starts by looking up a document missing from the store raises
`UnboundLocalError`, under every fault oracle, whatever it would have done next. -/
theorem runSession_lookup_bind_of_missing {α : Type} (fault : Nat → Option Exc)
    (notFound : Nat → Exc) (d : Nat) (type : Str) (k : Document × Option Job → Task V α)
    (c : World V) (hd : c.db.document d = none) :
    (runSession (lookup (dbEnv V fault) notFound d type >>= k) c).1 = .error unboundJobError := by
  have hrun : Triple (fun s => s = { c with pending := [], broken := false })
      (lookup (dbEnv V fault) notFound d type >>= k) (fun _ _ => False)
      (fun e _ => e = unboundJobError) := by
    refine Triple.bind ((triple_lookup_of_missing notFound d type).pre fun s hs => ?_)
      fun _ => Triple.of_pre (fun _ h => h) False.elim
    subst hs
    exact ⟨rfl, hd⟩
  have hout := outcome_runSession hrun (fun _ _ h => h) (fun _ _ h => h)
  rcases hr : runSession (lookup (dbEnv V fault) notFound d type >>= k) c with ⟨_ | _, _⟩
  · rw [hr] at hout
    rw [show _ = _ from hout]
  · rw [hr] at hout
    exact False.elim hout

theorem parseDocument_of_missing (fault : Nat → Option Exc) (S : Services V) (d : Nat)
    (t : Option Str) (c : World V) (hd : c.db.document d = none) :
    (runSession (parseDocument fault S d t) c).1 = .error unboundJobError :=
  runSession_lookup_bind_of_missing fault _ d _ _ c hd

theorem chunkDocument_of_missing (fault : Nat → Option Exc) (S : Services V) (d : Nat)
    (t : Option Str) (c : World V) (hd : c.db.document d = none) :
    (runSession (chunkDocument fault S d t) c).1 = .error unboundJobError :=
  runSession_lookup_bind_of_missing fault _ d _ _ c hd

/-! ## After a failed round trip -/

/-! ## A failed enqueue -/

/-- The broker refusing a connection, as `apply_async` raises it. -/
def brokerError : Exc := ⟨"OperationalError".toList, "[Errno 111] Connection refused".toList⟩

/-- The failed tasks are not atomic. A missing document raises `UnboundLocalError` in place of
`Exception("Document {d} not found")`, under every fault oracle and in every state; and when the
broker refuses to queue `chunk_document` after the parse of `System`'s upload, the task
re-raises the broker's error and marks its job `error`, but the element rows it committed
stay. -/
theorem ingestion_failures_not_atomic :
    (∀ {V : Type} (fault : Nat → Option Exc) (S : Services V) (d : Nat) (t : Option Str)
      (c : World V), c.db.document d = none →
        (runSession (parseDocument fault S d t) c).1 = .error unboundJobError ∧
        (runSession (chunkDocument fault S d t) c).1 = .error unboundJobError) ∧
    let r := runSession (parseDocument (failAt (uploaded.ops + 9) brokerError) plainServices 1
      (some "acme".toList)) uploaded
    r.1 = .error brokerError ∧
      ((r.2.db.firstJob 1 "parse".toList).map fun j => (j.status, j.error)) =
        some ("error".toList, some brokerError.message) ∧
      uploaded.db.elements = [] ∧ r.2.db.elements ≠ [] := by
  refine ⟨fun fault S d t c hd =>
    ⟨parseDocument_of_missing fault S d t c hd, chunkDocument_of_missing fault S d t c hd⟩, ?_⟩
  -- the ninth fallible operation of the parse is the broker call
  decide +kernel

end RagService.Workers
