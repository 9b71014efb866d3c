import RagService.Workers.Tasks

/-!
# What a task run can do

A run of `parse_document`, `chunk_document` or `embed_document` for document `d` with tenant
argument `t`, whatever fails and wherever, only

- queues job updates, rows of `d` (elements, chunks, jobs) and embedding upserts, and, for
  `chunk_document` only, the status `done` of a document (`TaskWrite k d`);
- publishes events about `d` on the channel of `t`, and queues task messages for `d` with the
  same `t` (`TaskSend d t`).

`keeps_runMsg` turns this into a rule: an invariant that survives each such step, and the
operations that write nothing, survives every run of every task. The event invariant
(`eventsInv_respects`, behind `job_events_follow_request_tenant`), the document statuses
(`statusInv_respects` and `docsFixed_respects`, behind `document_status_follows_chunking`) and
the queued messages (`queued_respects`) instantiate it.

The walk itself is proved once, for a finer footprint: the job bookkeeping every task does
(`JobChange`), with the code's own job statuses and types, and the rows each task writes
besides (`TaskRow`); the upsert, which raises on every row, commits nothing
(`keeps_upsertEmbeddings_stable`). `JobInvariant` is the rule for the bookkeeping, which is all
`embed_document` does, and `TaskInvariant` extends it with a task's rows; `Respects` gives one
(`Respects.taskInvariant`). A walk that has to know where a row's values come from uses the
bookkeeping lemmas and writes the rows itself, as the chunk references of `Integrity` do.
-/

set_option autoImplicit false

namespace RagService.Workers

open PyText Session RagService.Db RagService.Parsing RagService.Chunking

variable {V : Type}

/-- The changes a run of task `k` for document `d` can queue; only `chunk_document` writes a
document's status. -/
inductive TaskWrite : TaskName → Nat → Change V → Prop
  | jobStatus {k : TaskName} {d : Nat} (i : Nat) (s : Str) : TaskWrite k d (.setJobStatus i s)
  | jobProgress {k : TaskName} {d : Nat} (i p : Nat) : TaskWrite k d (.setJobProgress i p)
  | jobError {k : TaskName} {d : Nat} (i : Nat) (e : Str) : TaskWrite k d (.setJobError i e)
  | job {k : TaskName} {d : Nat} (j : Job) (h : j.document_id = d) : TaskWrite k d (.insertJob j)
  | element {k : TaskName} {d : Nat} (e : Element) (h : e.document_id = d) :
      TaskWrite k d (.insertElement e)
  | chunk {k : TaskName} {d : Nat} (c : Chunk) (h : c.document_id = d) :
      TaskWrite k d (.insertChunk c)
  | done {d : Nat} (i : Nat) : TaskWrite .chunk d (.setDocumentStatus i "done".toList)
  | embedding {k : TaskName} {d : Nat} (r : Embedding V) : TaskWrite k d (.upsertEmbedding r)

/-- What a task run for document `d` with tenant argument `t` sends: events about `d`, with no
`tenant_id` of their own, on the channel of a truthy `t`, and task messages for `d` and `t`. -/
inductive TaskSend (d : Nat) (t : Option Str) : (Outbox → Outbox) → Prop
  | event (t' : Str) (ev : JobEvent) (ht : t = some t') (hne : t' ≠ []) (hd : ev.document_id = d)
      (hnone : ev.tenant_id = none) : TaskSend d t (publishEventSync (jobsChannel t') ev)
  | msg (k : TaskName) : TaskSend d t fun o => { o with queue := o.queue ++ [⟨k, d, t⟩] }

/-- An invariant of connections that survives every step a run of task `k` for `d` and `t`
can take. -/
structure Respects (k : TaskName) (d : Nat) (t : Option Str)
    (P : Conn (Store V) (Change V) Outbox → Prop) : Prop where
  tick : ∀ c, P c → P { c with ops := c.ops + 1 }
  abort : ∀ c, P c → P { c with pending := [], broken := true }
  commit : ∀ c, P c → P { c with db := c.view Store.apply, pending := [] }
  add : ∀ c (x : Change V), P c → TaskWrite k d x → P { c with pending := c.pending ++ [x] }
  send : ∀ c f, P c → TaskSend d t f → P { c with out := f c.out }
  callCommit : ∀ c (xs : List (Change V)), P c → (∀ x ∈ xs, TaskWrite k d x) →
    P { c with db := xs.foldl Store.apply c.db }

/-! ## The changes a run writes -/

/-- The statuses the code gives a job. -/
def jobStatuses : List Str := ["queued".toList, "running".toList, "done".toList, "error".toList]

/-- The types of the jobs the code creates. -/
def jobTypes : List Str := ["parse".toList, "chunk".toList, "embed".toList]

/-- The job bookkeeping a run for document `d` queues, with the values it writes: a job status
of `jobStatuses`, a job's progress or error, and a job of `d` with a type of `jobTypes` and a
status of `jobStatuses`. -/
inductive JobChange (d : Nat) : Change V → Prop
  | status (i : Nat) (s : Str) (hs : s ∈ jobStatuses) : JobChange d (.setJobStatus i s)
  | progress (i p : Nat) : JobChange d (.setJobProgress i p)
  | error (i : Nat) (e : Str) : JobChange d (.setJobError i e)
  | job (j : Job) (h : j.document_id = d) (ht : j.type ∈ jobTypes) (hs : j.status ∈ jobStatuses) :
      JobChange d (.insertJob j)

/-- The other rows a run of task `k` for `d` queues: the elements of `d` (`parse_document`),
the chunks of `d` and the status `done` of a document (`chunk_document`). `embed_document`
queues none: its upsert runs a session of its own. -/
inductive TaskRow : TaskName → Nat → Change V → Prop
  | element {d : Nat} (e : Element) (h : e.document_id = d) : TaskRow .parse d (.insertElement e)
  | chunk {d : Nat} (c : Chunk) (h : c.document_id = d) : TaskRow .chunk d (.insertChunk c)
  | done {d : Nat} (i : Nat) : TaskRow .chunk d (.setDocumentStatus i "done".toList)

/-- The changes a run of task `k` for `d` queues. No embedding is among them. -/
def TaskChange (k : TaskName) (d : Nat) (x : Change V) : Prop := JobChange d x ∨ TaskRow k d x

theorem JobChange.taskWrite {k : TaskName} {d : Nat} {x : Change V} (h : JobChange d x) :
    TaskWrite k d x := by
  cases h with
  | status i s => exact .jobStatus i s
  | progress i p => exact .jobProgress i p
  | error i e => exact .jobError i e
  | job j h => exact .job j h

theorem TaskRow.taskWrite {k : TaskName} {d : Nat} {x : Change V} (h : TaskRow k d x) :
    TaskWrite k d x := by
  cases h with
  | element e h => exact .element e h
  | chunk c h => exact .chunk c h
  | done i => exact .done i

/-- An invariant of connections that survives the bookkeeping of a run for `d` and `t`: the
round trips, rollbacks and commits, the job changes and the sends. -/
structure JobInvariant (d : Nat) (t : Option Str) (P : Conn (Store V) (Change V) Outbox → Prop) :
    Prop where
  tick : ∀ c, P c → P { c with ops := c.ops + 1 }
  abort : ∀ c, P c → P { c with pending := [], broken := true }
  commit : ∀ c, P c → P { c with db := c.view Store.apply, pending := [] }
  job : ∀ c (x : Change V), P c → JobChange d x → P { c with pending := c.pending ++ [x] }
  send : ∀ c f, P c → TaskSend d t f → P { c with out := f c.out }

/-- An invariant that also survives the rows task `k` writes: it survives every step a run of
`k` for `d` and `t` takes, with the values it writes. -/
structure TaskInvariant (k : TaskName) (d : Nat) (t : Option Str)
    (P : Conn (Store V) (Change V) Outbox → Prop) : Prop extends JobInvariant d t P where
  row : ∀ c (x : Change V), P c → TaskRow k d x → P { c with pending := c.pending ++ [x] }

theorem Respects.taskInvariant {k : TaskName} {d : Nat} {t : Option Str}
    {P : Conn (Store V) (Change V) Outbox → Prop} (h : Respects k d t P) :
    TaskInvariant k d t P where
  tick := h.tick
  abort := h.abort
  commit := h.commit
  job c x hc hx := h.add c x hc hx.taskWrite
  send := h.send
  row c x hc hx := h.add c x hc hx.taskWrite

/-- An upsert sends nothing, and writes only embedding rows, through a session of its own. -/
theorem keeps_upsertEmbeddings_of {ω : Type} {E : Env (Store V) (Change V) Exc}
    {I : Conn (Store V) (Change V) ω → Prop} (hI : Stable E I)
    (hdb : ∀ c (rows : List (Embedding V)), I c →
      I { c with db := (rows.map Change.upsertEmbedding).foldl E.apply c.db })
    (chunk_ids : List Nat) (vectors : List V) (provider : Str) :
    Keeps I (PGVectorIndex.upsertEmbeddings E chunk_ids vectors provider) := by
  unfold PGVectorIndex.upsertEmbeddings
  refine Keeps.ite (fun _ => Keeps.throw _) fun _ => ?_
  dsimp only
  split
  · exact keeps_call hI _
  · exact keeps_callCommit hI fun c hc => hdb c _ hc

theorem upsertMissingColumn_eq : PGVectorIndex.upsertMissingColumn = some "updated_at".toList := by
  decide

/-- The upsert keeps every invariant of sessions: the statement names a column the table lacks,
so it raises on every row, and what it commits holds no row. -/
theorem keeps_upsertEmbeddings_stable {ω : Type} {E : Env (Store V) (Change V) Exc}
    {I : Conn (Store V) (Change V) ω → Prop} (hI : Stable E I) (chunk_ids : List Nat)
    (vectors : List V) (provider : Str) :
    Keeps I (PGVectorIndex.upsertEmbeddings E chunk_ids vectors provider) := by
  unfold PGVectorIndex.upsertEmbeddings
  refine Keeps.ite (fun _ => Keeps.throw _) fun _ => ?_
  dsimp only
  rw [upsertMissingColumn_eq]
  split
  · exact keeps_call hI _
  · -- no row reaches the commit
    rename_i hrows
    cases hmap : (chunk_ids.zip vectors).map fun p => (⟨p.1, p.2, provider⟩ : Embedding V) with
    | nil => exact keeps_callCommit hI fun c hc => hc
    | cons r rs => exact (hrows r rs _ hmap rfl).elim

section Rules

variable {k : TaskName} {d : Nat} {t : Option Str} {P : Conn (Store V) (Change V) Outbox → Prop}

theorem Respects.stable (h : Respects k d t P) (fault : Nat → Option Exc) :
    Stable (dbEnv V fault) P := ⟨h.tick, h.abort, h.commit⟩

theorem JobInvariant.stable (h : JobInvariant d t P) (fault : Nat → Option Exc) :
    Stable (dbEnv V fault) P := ⟨h.tick, h.abort, h.commit⟩

/-- Two invariants of the bookkeeping make one. -/
theorem JobInvariant.and {Q : Conn (Store V) (Change V) Outbox → Prop} (hP : JobInvariant d t P)
    (hQ : JobInvariant d t Q) : JobInvariant d t fun c => P c ∧ Q c where
  tick c hc := ⟨hP.tick c hc.1, hQ.tick c hc.2⟩
  abort c hc := ⟨hP.abort c hc.1, hQ.abort c hc.2⟩
  commit c hc := ⟨hP.commit c hc.1, hQ.commit c hc.2⟩
  job c x hc hx := ⟨hP.job c x hc.1 hx, hQ.job c x hc.2 hx⟩
  send c f hc hf := ⟨hP.send c f hc.1 hf, hQ.send c f hc.2 hf⟩

theorem keeps_job (h : JobInvariant d t P) (fault : Nat → Option Exc) {x : Store V → Change V}
    (hx : ∀ db, JobChange d (x db)) : Keeps P (add (dbEnv V fault) x) :=
  keeps_add fun c hc => h.job c _ hc (hx _)

theorem keeps_row (h : TaskInvariant k d t P) (fault : Nat → Option Exc) {x : Store V → Change V}
    (hx : ∀ db, TaskRow k d (x db)) : Keeps P (add (dbEnv V fault) x) :=
  keeps_add fun c hc => h.row c _ hc (hx _)

theorem keeps_whenSome {α : Type} {o : Option α} {body : α → Task V Unit}
    (hb : ∀ a, Keeps P (body a)) : Keeps P (whenSome o body) := by
  cases o with
  | none => exact Keeps.pure _
  | some a => exact hb a

theorem keeps_notify (h : JobInvariant d t P) {payload : JobEvent} (hd : payload.document_id = d)
    (hnone : payload.tenant_id = none) : Keeps P (notify t payload : Task V Unit) := by
  unfold notify
  cases t with
  | some t' =>
    exact Keeps.ite (fun _ => Keeps.pure _) fun hne =>
      keeps_send fun c hc => h.send c _ hc (.event t' payload rfl hne hd hnone)
  | none => exact Keeps.pure _

theorem keeps_notifyWithJob (h : JobInvariant d t P) {job : Option Job} {missing : Exc}
    {payload : Job → JobEvent} (hd : ∀ j, (payload j).document_id = d)
    (hnone : ∀ j, (payload j).tenant_id = none) :
    Keeps P (notifyWithJob t job missing payload : Task V Unit) := by
  unfold notifyWithJob
  refine Keeps.ite (fun _ => ?_) fun _ => Keeps.pure _
  cases job with
  | some j => exact keeps_notify h (hd j) (hnone j)
  | none => exact Keeps.throw _

theorem keeps_enqueue (h : JobInvariant d t P) (fault : Nat → Option Exc) (next : TaskName) :
    Keeps P (enqueue (dbEnv V fault) ⟨next, d, t⟩) :=
  Keeps.bind (keeps_call (h.stable fault) _) fun _ =>
    keeps_send fun c hc => h.send c _ hc (.msg next)

/-- The lookup only reads. -/
theorem keeps_lookup {E : Env (Store V) (Change V) Exc} (hs : Stable E P) (notFound : Nat → Exc)
    (type : Str) : Keeps P (lookup E notFound d type) := by
  unfold lookup
  refine Keeps.tryCatch ?_ fun _ => Keeps.throw _
  refine Keeps.bind (keeps_query hs _) fun document => ?_
  cases document with
  | none => exact Keeps.throw _
  | some document =>
    exact Keeps.bind (keeps_query hs _) fun _ => Keeps.pure _

theorem keeps_markFailed (h : JobInvariant d t P) (fault : Nat → Option Exc) (event type : Str)
    (job : Option Job) (e : Exc) :
    Keeps P (markFailed (dbEnv V fault) event type d t job e) := by
  unfold markFailed
  refine Keeps.bind (keeps_whenSome fun j => ?_) fun _ => Keeps.throw e
  refine Keeps.bind (keeps_job h fault fun _ => .status _ _ (by decide)) fun _ => ?_
  refine Keeps.bind (keeps_job h fault fun _ => .error _ _) fun _ => ?_
  exact Keeps.bind (keeps_commit (h.stable fault)) fun _ => keeps_notify h rfl rfl

theorem keeps_advance (h : JobInvariant d t P) (fault : Nat → Option Exc) (job : Option Job)
    (status : Option Str) (progress : Nat) {event : Job → JobEvent}
    (hstatus : ∀ s ∈ status, s ∈ jobStatuses) (hd : ∀ j, (event j).document_id = d)
    (hnone : ∀ j, (event j).tenant_id = none) :
    Keeps P (advance (dbEnv V fault) job status progress t event) := by
  unfold advance
  refine keeps_whenSome fun j => Keeps.bind ?_ fun _ => ?_
  · cases status with
    | none => exact Keeps.pure _
    | some s => exact keeps_job h fault fun _ => .status _ _ (hstatus s rfl)
  refine Keeps.bind (keeps_job h fault fun _ => .progress _ _) fun _ => ?_
  exact Keeps.bind (keeps_commit (h.stable fault)) fun _ => keeps_notify h (hd j) (hnone j)

/-- The updates that close a run: the job's status and progress, and a commit. -/
theorem keeps_finish (h : JobInvariant d t P) (fault : Nat → Option Exc) (i : Nat) {s : Str}
    (hs : s ∈ jobStatuses) (progress : Nat) :
    Keeps P (do
      add (dbEnv V fault) fun _ => .setJobStatus i s
      add (dbEnv V fault) fun _ => .setJobProgress i progress
      commit (dbEnv V fault)) := by
  refine Keeps.bind (keeps_job h fault fun _ => .status _ _ hs) fun _ => ?_
  exact Keeps.bind (keeps_job h fault fun _ => .progress _ _) fun _ => keeps_commit (h.stable fault)

/-! ## The three tasks -/

theorem keeps_parseSteps (h : TaskInvariant .parse d t P) (fault : Nat → Option Exc) (S : Services V)
    (document : Document) (job : Option Job) :
    Keeps P (parseSteps (dbEnv V fault) S d t document job) := by
  have hj := h.toJobInvariant
  have hs := hj.stable fault
  unfold parseSteps
  refine Keeps.bind (keeps_advance hj fault _ _ _ (by decide) (fun _ => rfl) fun _ => rfl) fun _ => ?_
  refine Keeps.bind (keeps_call hs _) fun _ => ?_
  refine Keeps.bind (Keeps.ofExcept _) fun parsed => ?_
  refine Keeps.bind (keeps_advance hj fault _ _ _ (by decide) (fun _ => rfl) fun _ => rfl) fun _ => ?_
  refine Keeps.bind (Keeps.forM fun e _ => keeps_row h fault fun _ => .element _ rfl) fun _ => ?_
  refine Keeps.bind (keeps_commit hs) fun _ => ?_
  refine Keeps.bind (keeps_advance hj fault _ _ _ (by decide) (fun _ => rfl) fun _ => rfl) fun _ => ?_
  refine Keeps.bind (keeps_job hj fault fun _ => .job _ rfl (by dsimp only; decide) (by dsimp only; decide)) fun _ => ?_
  refine Keeps.bind (keeps_commit hs) fun _ => ?_
  -- the parse job marked done
  refine Keeps.bind (keeps_whenSome fun j => keeps_finish hj fault j.id (by decide) 100) fun _ => ?_
  refine Keeps.bind (keeps_notifyWithJob hj (fun _ => rfl) fun _ => rfl) fun _ => ?_
  exact keeps_enqueue hj fault .chunk

theorem keeps_parseDocument (h : TaskInvariant .parse d t P) (fault : Nat → Option Exc) (S : Services V) :
    Keeps P (parseDocument fault S d t) := by
  unfold parseDocument
  refine Keeps.bind (keeps_lookup (h.stable fault) _ _) fun p => ?_
  obtain ⟨document, job⟩ := p
  exact Keeps.tryCatch (keeps_parseSteps h fault S document job) fun e =>
    keeps_markFailed h.toJobInvariant fault _ _ job e

theorem keeps_chunkSteps (h : TaskInvariant .chunk d t P) (fault : Nat → Option Exc) (S : Services V)
    (document : Document) (job : Option Job) :
    Keeps P (chunkSteps (dbEnv V fault) S d t document job) := by
  have hj := h.toJobInvariant
  have hs := hj.stable fault
  unfold chunkSteps
  refine Keeps.bind (keeps_advance hj fault _ _ _ (by decide) (fun _ => rfl) fun _ => rfl) fun _ => ?_
  refine Keeps.bind (keeps_query hs _) fun elements => ?_
  refine Keeps.bind (Keeps.ofExcept _) fun chunks => ?_
  refine Keeps.bind (keeps_advance hj fault _ _ _ (by decide) (fun _ => rfl) fun _ => rfl) fun _ => ?_
  refine Keeps.bind (Keeps.forM fun c _ => keeps_row h fault fun _ => .chunk _ rfl) fun _ => ?_
  refine Keeps.bind (keeps_commit hs) fun _ => ?_
  refine Keeps.bind (keeps_row h fault fun _ => .done _) fun _ => ?_
  refine Keeps.bind (keeps_commit hs) fun _ => ?_
  refine Keeps.bind (keeps_advance hj fault _ _ _ (by decide) (fun _ => rfl) fun _ => rfl) fun _ => ?_
  refine Keeps.bind (keeps_job hj fault fun _ => .job _ rfl (by dsimp only; decide) (by dsimp only; decide)) fun _ => ?_
  refine Keeps.bind (keeps_commit hs) fun _ => ?_
  exact keeps_enqueue hj fault .embed

theorem keeps_chunkDocument (h : TaskInvariant .chunk d t P) (fault : Nat → Option Exc) (S : Services V) :
    Keeps P (chunkDocument fault S d t) := by
  unfold chunkDocument
  refine Keeps.bind (keeps_lookup (h.stable fault) _ _) fun p => ?_
  obtain ⟨document, job⟩ := p
  exact Keeps.tryCatch (keeps_chunkSteps h fault S document job) fun e =>
    keeps_markFailed h.toJobInvariant fault _ _ job e

/-! `embed_document` writes no row of its own: its walk needs the bookkeeping only. -/

theorem keeps_embedBatch (h : JobInvariant d t P) (fault : Nat → Option Exc) (S : Services V)
    (job : Job) (chunks : List Chunk) (i : Nat) :
    Keeps P (embedBatch (dbEnv V fault) S d t job chunks i) := by
  have hs := h.stable fault
  unfold embedBatch
  refine Keeps.bind (keeps_call hs _) fun vectors => ?_
  refine Keeps.ite (fun _ => ?_) fun _ => Keeps.throw _
  refine Keeps.bind (keeps_upsertEmbeddings_stable hs _ _ _) fun _ => ?_
  refine Keeps.bind (keeps_job h fault fun _ => .progress _ _) fun _ => ?_
  exact Keeps.bind (keeps_commit hs) fun _ => keeps_notify h rfl rfl

theorem keeps_embedSteps (h : JobInvariant d t P) (fault : Nat → Option Exc) (S : Services V)
    (job : Job) : Keeps P (embedSteps (dbEnv V fault) S d t job) := by
  unfold embedSteps
  refine Keeps.bind (keeps_notify h rfl rfl) fun _ => ?_
  refine Keeps.bind (keeps_query (h.stable fault) _) fun chunks => ?_
  refine Keeps.ite (fun _ => keeps_finish h fault job.id (by decide) 100) fun _ => ?_
  refine Keeps.bind (Keeps.forM fun i _ => keeps_embedBatch h fault S job chunks i) fun _ => ?_
  refine Keeps.bind (keeps_job h fault fun _ => .status _ _ (by decide)) fun _ => ?_
  refine Keeps.bind (keeps_job h fault fun _ => .progress _ _) fun _ => ?_
  exact Keeps.bind (keeps_commit (h.stable fault)) fun _ => keeps_notify h rfl rfl

theorem keeps_embedFailed {α : Type} (h : JobInvariant d t P) (fault : Nat → Option Exc)
    (job : Option Job) (e : Exc) :
    Keeps P (embedFailed (α := α) (dbEnv V fault) d t job e) := by
  unfold embedFailed
  refine Keeps.bind (keeps_whenSome fun j => ?_) fun _ => ?_
  · refine Keeps.bind (keeps_job h fault fun _ => .status _ _ (by decide)) fun _ => ?_
    exact Keeps.bind (keeps_job h fault fun _ => .error _ _) fun _ =>
      keeps_commit (h.stable fault)
  exact Keeps.bind (keeps_notifyWithJob h (fun _ => rfl) fun _ => rfl) fun _ => Keeps.throw e

theorem keeps_ensureEmbedJob (h : JobInvariant d t P) (fault : Nat → Option Exc)
    (found : Option Job) : Keeps P (ensureEmbedJob (dbEnv V fault) d t found) := by
  have hs := h.stable fault
  unfold ensureEmbedJob
  cases found with
  | some j =>
    refine Keeps.tryCatch ?_ fun e => keeps_embedFailed h fault _ e
    refine Keeps.bind (keeps_job h fault fun _ => .status _ _ (by decide)) fun _ => ?_
    refine Keeps.bind (keeps_job h fault fun _ => .progress _ _) fun _ => ?_
    exact Keeps.bind (keeps_commit hs) fun _ => Keeps.pure _
  | none =>
    refine Keeps.bind Keeps.get fun c => ?_
    refine Keeps.tryCatch ?_ fun e => keeps_embedFailed h fault _ e
    refine Keeps.bind (keeps_job h fault fun _ => .job _ rfl (by dsimp only; decide) (by dsimp only; decide)) fun _ => ?_
    refine Keeps.bind (keeps_commit hs) fun _ => ?_
    refine Keeps.bind (keeps_query hs _) fun j => ?_
    cases j with
    | some j => exact Keeps.pure _
    | none => exact Keeps.throw _

theorem keeps_embedDocument (h : JobInvariant d t P) (fault : Nat → Option Exc) (S : Services V) :
    Keeps P (embedDocument fault S d t) := by
  have hs := h.stable fault
  unfold embedDocument
  refine Keeps.bind (Keeps.tryCatch ?_ fun e => keeps_embedFailed h fault none e) fun found => ?_
  · refine Keeps.bind (keeps_query hs _) fun document => ?_
    cases document with
    | none => exact Keeps.throw _
    | some _ => exact keeps_query hs _
  refine Keeps.bind (keeps_ensureEmbedJob h fault found) fun job => ?_
  exact Keeps.tryCatch (keeps_embedSteps h fault S job) fun e => keeps_embedFailed h fault _ e

/-- Every run of a task keeps an invariant that survives every step the task can take, with
the values it writes. -/
theorem keeps_runMsg_of_taskInvariant (fault : Nat → Option Exc) (S : Services V) (m : Msg)
    (h : TaskInvariant m.task m.document_id m.tenant_id P) : Keeps P (runMsg fault S m) := by
  obtain ⟨task, d, t⟩ := m
  cases task with
  | parse => exact keeps_parseDocument h fault S
  | chunk => exact keeps_chunkDocument h fault S
  | embed => exact keeps_embedDocument h.toJobInvariant fault S

/-- Every run of a task keeps an invariant that survives every step the task can take. -/
theorem keeps_runMsg (fault : Nat → Option Exc) (S : Services V) (m : Msg)
    (h : Respects m.task m.document_id m.tenant_id P) : Keeps P (runMsg fault S m) :=
  keeps_runMsg_of_taskInvariant fault S m h.taskInvariant

end Rules

end RagService.Workers
