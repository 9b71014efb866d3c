import RagService.Workers.Footprint
import RagService.Lib.Hoare
import RagService.Lib.Progress

/-!
# `index_document_embeddings`

`workers/tasks/index.py` embeds the chunks of a document that have no embedding row, in batches
of `EmbeddingProvider().batch_size`, and upserts them with `PGVectorIndex.upsert_embeddings`.
It keeps no job row: it reports through `current_task.update_state`, a write to Celery's result
backend, which the model sends as a `TaskState` to the task's own outbox. The first report
stands before the `try`; each batch reports `int((processed / total_chunks) * 100)`; the
`except` block reports the failure and re-raises. `time_taken` is left out of the result.

`indexDocumentEmbeddings_ok`: the upsert raises whenever it has a row to write, so a run that
returns normally had no chunk to index. It returns status `success` with `chunks_indexed = 0`,
and its only report is the first one, which carries no progress.
-/

set_option autoImplicit false

namespace RagService.Workers

open PyText Session RagService.Db Batches Progress

/-- A state `current_task.update_state` reports: the state and the keys of its meta. -/
structure TaskState where
  state : Str
  status : Str
  document_id : Nat
  progress : Option Nat
  error : Option Str
  deriving DecidableEq, Repr

/-- Programs of the index task: the session, and the task states reported so far. -/
abbrev IndexTask (V : Type) := M (Store V) (Change V) (List TaskState) Exc

/-- The dict the task returns, without `time_taken`. -/
structure IndexResult where
  status : Str
  document_id : Nat
  chunks_indexed : Nat
  provider : Option Str
  deriving DecidableEq, Repr

variable {V : Type}

/-- `current_task.update_state(...)`: a write to the result backend, which may fail. -/
def updateState (E : Env (Store V) (Change V) Exc) (st : TaskState) : IndexTask V Unit := do
  call E (.ok ())
  send (· ++ [st])

/-- The chunks of `d` without an embedding row, `~Chunk.id.in_(...)`, in table order. -/
def unembeddedChunks (db : Store V) (d : Nat) : List Chunk :=
  (db.documentChunks d).filter fun c => !db.embeddings.any (·.chunk_id = c.id)

/-- What `range()` raises for a step of `0`. -/
def rangeStepError : Exc := ⟨"ValueError".toList, "range() arg 3 must not be zero".toList⟩

/-- The starts of `range(0, total, batch_size)`: none for a negative step, an error for `0`. -/
def batchStarts (total : Nat) (batch_size : Int) : Except Exc (List Nat) :=
  if batch_size = 0 then .error rangeStepError else .ok (pyRange 0 total batch_size.toNat)

/-- One pass of the batch loop at start `i`: embed the batch, add it to the vectors, count it,
report the progress. The state is `(all_embeddings, processed)`. -/
def indexBatch (E : Env (Store V) (Change V) Exc) (S : Services V) (document_id : Nat)
    (chunk_texts : List Str) (batch_size : Nat) (acc : List V × Nat) (i : Nat) :
    IndexTask V (List V × Nat) := do
  let batch_texts := slice chunk_texts i batch_size
  let batch_embeddings ← call E (S.embedTexts batch_texts)
  let processed := acc.2 + batch_texts.length
  updateState E ⟨"RUNNING".toList, "processing".toList, document_id,
    some (S.percent processed chunk_texts.length), none⟩
  pure (acc.1 ++ batch_embeddings, processed)

/-- The body of the `try` block. -/
def indexSteps (E : Env (Store V) (Change V) Exc) (S : Services V) (batch_size : Int)
    (document_id : Nat) : IndexTask V IndexResult := do
  let document ← query E (·.document document_id)
  match document with
  | none => throw ⟨"ValueError".toList, notFoundMessage document_id⟩
  | some _ =>
    let chunks ← query E (unembeddedChunks · document_id)
    if chunks = [] then pure ⟨"success".toList, document_id, 0, none⟩
    else
      let chunk_texts := chunks.map (·.text)
      let starts ← MonadExcept.ofExcept (batchStarts chunk_texts.length batch_size)
      let done ← starts.foldlM
        (indexBatch E S document_id chunk_texts batch_size.toNat) ([], 0)
      PGVectorIndex.upsertEmbeddings E (chunks.map (·.id)) done.1 S.provider
      pure ⟨"success".toList, document_id, chunks.length, some S.provider⟩

/-- `index_document_embeddings(document_id)` with the embedder's `batch_size`. -/
def indexDocumentEmbeddings (fault : Nat → Option Exc) (S : Services V) (batch_size : Int)
    (document_id : Nat) : IndexTask V IndexResult := do
  let E := dbEnv V fault
  updateState E ⟨"RUNNING".toList, "started".toList, document_id, none, none⟩
  tryCatch (indexSteps E S batch_size document_id) fun e => do
    updateState E ⟨"FAILURE".toList, "error".toList, document_id, none, some e.message⟩
    throw e

/-! ## A run that returns -/

/-- With a row to write, the upsert never returns normally: Postgres rejects the statement for
the column it lacks. -/
theorem triple_upsertEmbeddings_raises {ω : Type} {E : Env (Store V) (Change V) Exc}
    {P : Conn (Store V) (Change V) ω → Prop} {chunk_ids : List Nat} (hids : chunk_ids ≠ [])
    (vectors : List V) (provider : Str) :
    Triple P (PGVectorIndex.upsertEmbeddings E chunk_ids vectors provider) (fun _ _ => False)
      (fun _ _ => True) := by
  unfold PGVectorIndex.upsertEmbeddings
  refine Triple.ite (fun _ => (Triple.throw _).pre fun _ _ => trivial) fun hlen => ?_
  -- as many vectors as ids, so at least one row
  obtain ⟨i, ids, rfl⟩ := List.exists_cons_of_ne_nil hids
  obtain ⟨v, vs, rfl⟩ : ∃ v vs, vectors = v :: vs := by
    cases vectors with
    | nil => simp at hlen
    | cons v vs => exact ⟨v, vs, rfl⟩
  rw [upsertMissingColumn_eq]
  refine (triple_call _).pre fun c _ => ?_
  cases E.fault c.ops <;> trivial

section Steps

variable {fault : Nat → Option Exc}

/-- A run that returns normally had no chunk to index: the upsert raises on any row. -/
theorem triple_indexSteps_ok (S : Services V) (batch_size : Int) (d : Nat)
    {A : Conn (Store V) (Change V) (List TaskState) → Prop}
    (hA : ∀ c, A c → c.broken = false ∧ A { c with ops := c.ops + 1 }) :
    Triple A (indexSteps (dbEnv V fault) S batch_size d)
      (fun r c => r = ⟨"success".toList, d, 0, none⟩ ∧ A c) (fun _ _ => True) := by
  unfold indexSteps
  refine Triple.bind (triple_query_ok hA _) fun document => ?_
  cases document with
  | none => exact (Triple.throw _).pre fun _ _ => trivial
  | some doc =>
    refine Triple.bind ((triple_query_ok hA _).pre fun _ hc => hc.2) fun chunks => ?_
    refine Triple.ite (fun _ => (Triple.pure _).pre fun _ hc => ⟨rfl, hc.2⟩) fun hne => ?_
    -- the batches, then an upsert that raises
    refine Triple.bind Triple.trivial fun _ => Triple.bind Triple.trivial fun _ => ?_
    refine Triple.bind (triple_upsertEmbeddings_raises (by simpa using hne) _ _) fun _ => ?_
    exact (Triple.pure _).pre fun _ h => h.elim

/-- The task on the normal path: it reports its start, and returns only when it had nothing to
index. -/
theorem triple_indexDocumentEmbeddings_ok (S : Services V) (batch_size : Int) (d : Nat)
    (o₀ : List TaskState) :
    Triple (fun c => c.broken = false ∧ c.out = o₀) (indexDocumentEmbeddings fault S batch_size d)
      (fun r c => r = ⟨"success".toList, d, 0, none⟩ ∧
        c.out = o₀ ++ [⟨"RUNNING".toList, "started".toList, d, none, none⟩])
      (fun _ _ => True) := by
  have hA : ∀ o : List TaskState, ∀ c : Conn (Store V) (Change V) (List TaskState),
      c.broken = false ∧ c.out = o →
        c.broken = false ∧ ({ c with ops := c.ops + 1 }.broken = false ∧ c.out = o) :=
    fun _ _ hc => ⟨hc.1, hc⟩
  unfold indexDocumentEmbeddings updateState
  -- the first report
  refine Triple.bind (Q := fun _ c => c.broken = false ∧
      c.out = o₀ ++ [⟨"RUNNING".toList, "started".toList, d, none, none⟩])
    (Triple.bind (triple_call_ok (hA o₀) _) fun _ =>
    (triple_send _).pre fun c hc => ⟨hc.2.1, by rw [hc.2.2]⟩) fun _ => ?_
  refine Triple.tryCatch (H := fun _ _ => True) ((triple_indexSteps_ok S batch_size d (hA _)).post
    (fun _ _ h => ⟨h.1, h.2.2⟩) fun _ _ h => h) fun e => ?_
  -- the `except` block re-raises
  exact Triple.bind Triple.trivial fun _ => (Triple.throw e).pre fun _ _ => trivial

end Steps

/-- A run of `index_document_embeddings` that returns normally returns `success` with nothing
indexed and no provider, and its only report is its start, without a progress. -/
theorem indexDocumentEmbeddings_ok (fault : Nat → Option Exc) (S : Services V) (batch_size : Int)
    (d : Nat) (c : Conn (Store V) (Change V) (List TaskState)) {r : IndexResult}
    (hr : (runSession (indexDocumentEmbeddings fault S batch_size d) c).1 = .ok r) :
    r = ⟨"success".toList, d, 0, none⟩ ∧
      (runSession (indexDocumentEmbeddings fault S batch_size d) c).2.out =
        c.out ++ [⟨"RUNNING".toList, "started".toList, d, none, none⟩] := by
  have hout := outcome_runSession (c := c)
    ((@triple_indexDocumentEmbeddings_ok V fault S batch_size d c.out).pre fun s hs => by
      subst hs
      exact ⟨rfl, rfl⟩)
    (fun _ _ h => h) fun _ _ h => h
  exact hout.of_ok hr

/-! ## The reports rise -/

/-- The task states reported since `o₀` rise, at most `lo`. -/
def IndexReported (o₀ : List TaskState) (lo : Nat)
    (c : Conn (Store V) (Change V) (List TaskState)) : Prop :=
  Rising TaskState.progress o₀ lo c.out

section Reports

variable {E : Env (Store V) (Change V) Exc} {o₀ : List TaskState} {lo : Nat}

theorem stable_indexReported (E : Env (Store V) (Change V) Exc) (o₀ : List TaskState) (lo : Nat) :
    Stable E (IndexReported (V := V) o₀ lo) :=
  stable_out E (Rising TaskState.progress o₀ lo)

/-- A report without a progress keeps the bound. -/
theorem triple_updateState_none (st : TaskState) (hst : st.progress = none) :
    Triple (IndexReported o₀ lo) (updateState E st) (fun _ => IndexReported o₀ lo)
      (fun _ => IndexReported o₀ lo) := by
  unfold updateState
  exact Triple.bind (keeps_call (stable_indexReported E o₀ lo) _).triple fun _ =>
    (triple_send _).pre fun _ hc => Rising.snoc_none hc hst

/-- A report of a progress `p` no smaller than the bound moves the bound to `p`. -/
theorem triple_updateState_some (st : TaskState) {p : Nat} (hst : st.progress = some p)
    (hle : lo ≤ p) :
    Triple (IndexReported o₀ lo) (updateState E st) (fun _ => IndexReported o₀ p)
      (fun _ => IndexReported o₀ lo) := by
  unfold updateState
  exact Triple.bind (keeps_call (stable_indexReported E o₀ lo) _).triple fun _ =>
    (triple_send _).pre fun _ hc => Rising.snoc_some hc hst hle

end Reports

section Loop

variable {E : Env (Store V) (Change V) Exc} {o₀ : List TaskState}

/-- The loop after the batches of `pre`: `processed` counts their texts, and the last report is
the percentage of that count. -/
def LoopReported (S : Services V) (n k : Nat) (o₀ : List TaskState) (pre : List Nat)
    (acc : List V × Nat) (c : Conn (Store V) (Change V) (List TaskState)) : Prop :=
  acc.2 = batchDone n k pre ∧ IndexReported o₀ (S.percent (batchDone n k pre) n) c

/-- One batch reports the percentage of the texts done so far, which is no smaller than the
one before. -/
theorem triple_indexBatch (S : Services V) (hlaw : PercentLaw S.percent) (d : Nat)
    (chunk_texts : List Str) (k : Nat) (pre post : List Nat) (i : Nat)
    (h : pre ++ i :: post = pyRange 0 chunk_texts.length k) (acc : List V × Nat) :
    Triple (LoopReported S chunk_texts.length k o₀ pre acc)
      (indexBatch E S d chunk_texts k acc i)
      (LoopReported S chunk_texts.length k o₀ (pre ++ [i])) (fun _ => IndexReported o₀ 100) := by
  have hk : 0 < k := by
    rcases Nat.eq_zero_or_pos k with rfl | hk
    · simp [pyRange] at h
    · exact hk
  obtain ⟨hstart, hend⟩ := batchDone_snoc chunk_texts hk h
  have hup : S.percent (batchDone chunk_texts.length k pre) chunk_texts.length ≤
      S.percent (batchDone chunk_texts.length k (pre ++ [i])) chunk_texts.length :=
    hlaw.mono (batchDone_le_snoc _ _ _ _)
  have hbound : S.percent (batchDone chunk_texts.length k pre) chunk_texts.length ≤ 100 :=
    hlaw.le_hundred (batchDone_le _ _ _)
  unfold indexBatch
  refine Triple.of_pre (fun _ hc => hc.1) fun hacc => ?_
  -- `processed` is the count of the texts of `pre` and this batch
  have hproc :
      acc.2 + (slice chunk_texts i k).length = batchDone chunk_texts.length k (pre ++ [i]) := by
    rw [hacc, hstart, hend]
  refine Triple.bind ((((keeps_call (stable_indexReported E o₀ _) _).triple).post
    (fun _ _ h => h) fun _ _ h => Rising.mono h hbound).pre fun _ hc => hc.2) fun _ => ?_
  refine Triple.bind ((triple_updateState_some _ rfl (hproc ▸ hup)).post (fun _ _ h => h)
    fun _ _ h => Rising.mono h hbound) fun _ => ?_
  exact (Triple.pure _).pre fun _ hc => ⟨hproc, hproc ▸ hc⟩

end Loop

/-- Every run of `index_document_embeddings` reports, after the reports before it, progress
values that rise and stay at most `100`, whether it returns or raises. -/
theorem triple_indexDocumentEmbeddings_reported (fault : Nat → Option Exc) (S : Services V)
    (hlaw : PercentLaw S.percent) (batch_size : Int) (d : Nat) (o₀ : List TaskState) :
    Triple (fun c => c.out = o₀) (indexDocumentEmbeddings fault S batch_size d)
      (fun _ => IndexReported o₀ 100) (fun _ => IndexReported o₀ 100) := by
  have hkeep : ∀ lo, Stable (dbEnv V fault) (IndexReported (V := V) o₀ lo) :=
    stable_indexReported _ o₀
  -- a step that reports nothing, in a run whose reports stay at most `100`
  have hquiet : ∀ {α : Type} {x : IndexTask V α} {lo : Nat}, lo ≤ 100 →
      Keeps (IndexReported o₀ lo) x →
      Triple (IndexReported o₀ lo) x (fun _ => IndexReported o₀ lo)
        (fun _ => IndexReported o₀ 100) :=
    fun hlo hx => hx.triple.post (fun _ _ h => h) fun _ _ h => Rising.mono h hlo
  unfold indexDocumentEmbeddings
  -- the start carries no progress
  refine Triple.bind (((triple_updateState_none _ rfl).post (fun _ _ h => h) fun _ _ h =>
    Rising.mono h (Nat.zero_le _)).pre fun c hc => hc ▸ Rising.start o₀ 0) fun _ => ?_
  refine Triple.tryCatch (H := fun _ => IndexReported o₀ 100) ?_ fun e => ?_
  · unfold indexSteps
    refine Triple.bind (hquiet (Nat.zero_le _) (keeps_query (hkeep 0) _)) fun document => ?_
    cases document with
    | none => exact (Triple.throw _).pre fun _ h => Rising.mono h (Nat.zero_le _)
    | some doc =>
      refine Triple.bind (hquiet (Nat.zero_le _) (keeps_query (hkeep 0) _)) fun chunks => ?_
      refine Triple.ite (fun _ => (Triple.pure _).pre fun _ h => Rising.mono h (Nat.zero_le _))
        fun _ => ?_
      refine Triple.bind ((triple_ofExcept_keeps _).post (fun _ _ h => h) fun _ _ h =>
        Rising.mono h (Nat.zero_le _)) fun starts => ?_
      refine Triple.of_pre (fun _ hc => hc.1) fun hstarts => ?_
      -- a step of `0` raised; any other step gives the starts of `range`
      have hrange : starts = pyRange 0 (chunks.map (·.text)).length batch_size.toNat := by
        unfold batchStarts at hstarts
        split at hstarts
        · cases hstarts
        · exact (Except.ok.inj hstarts).symm
      subst hrange
      refine Triple.bind
        ((Triple.foldlM (LoopReported S (chunks.map (·.text)).length batch_size.toNat o₀)
          fun pre i post acc h =>
            triple_indexBatch (E := dbEnv V fault) S hlaw d (chunks.map (·.text))
              batch_size.toNat pre post i h acc).pre
          fun c hc => ⟨by simp [batchDone], Rising.mono hc.2 (Nat.zero_le _)⟩) fun _ => ?_
      -- the upsert sends nothing
      refine Triple.bind ((hquiet le_rfl (keeps_upsertEmbeddings_of (hkeep 100) (fun _ _ h => h)
        _ _ _)).pre fun _ hc => Rising.mono hc.2 (hlaw.le_hundred (batchDone_le _ _ _))) fun _ => ?_
      exact Triple.pure (Q := fun _ => IndexReported o₀ 100) _
  · -- the `except` block reports the failure without a progress and re-raises
    exact Triple.bind (triple_updateState_none _ rfl) fun _ =>
      Triple.throw (R := fun _ => IndexReported o₀ 100) e

/-- The reports of every run of `index_document_embeddings`, after those made before it, carry
progress values that rise and stay at most `100`. -/
theorem indexDocumentEmbeddings_reports_rise (fault : Nat → Option Exc) (S : Services V)
    (hlaw : PercentLaw S.percent) (batch_size : Int) (d : Nat)
    (c : Conn (Store V) (Change V) (List TaskState)) :
    Rising TaskState.progress c.out 100
      (runSession (indexDocumentEmbeddings fault S batch_size d) c).2.out := by
  have hout := outcome_runSession (c := c)
    ((triple_indexDocumentEmbeddings_reported fault S hlaw batch_size d c.out).pre fun s hs => by
      subst hs
      rfl)
    (fun _ _ h => h) fun _ _ h => h
  exact hout.elim.elim id id

end RagService.Workers
