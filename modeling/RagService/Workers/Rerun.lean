import RagService.Workers.Specs

/-!
# Running a task again

`parse_document` and `chunk_document` insert their rows without looking at what earlier runs
of the same document left. A run that returns normally adds, next to the rows of every
earlier run, one element row per parsed element (`parse_document`) or one chunk row per chunk
built from all of the document's current elements (`chunk_document`), and one job for the
next task. Running them again, as a redelivery, a retry or a re-triggered chain does,
therefore duplicates rows and jobs.

The proofs follow the normal path of a run (`OnPath`, `Settled` of `Hoare`): the exception
assertions are `True`, and the assertion on the session's view reads only the rows the run
inserts (`Store.shape`), which the status and progress updates leave alone.
-/

set_option autoImplicit false

namespace RagService.Workers

open PyText Session RagService.Db RagService.Parsing RagService.Chunking

variable {V : Type}

/-! ## Rows without their keys -/

/-- An element row without its key. -/
def Element.content (r : Element) : Nat × Str × Option Nat × Option Str × Str :=
  (r.document_id, r.type, r.page, r.table_id, r.text)

/-- The row `parse_document` writes for an element dict of document `d`, without its key. -/
def ElementData.contentFor (d : Nat) (e : ElementData) :
    Nat × Str × Option Nat × Option Str × Str :=
  (d, e.type, e.page, e.table_id, e.text)

/-- A chunk row without its key: its document and the chunk dict it was written from. -/
def Chunk.content (r : Chunk) : Nat × ChunkData :=
  (r.document_id, ⟨r.level, r.header_path, r.text, r.token_count, r.page, r.element_id,
    r.table_meta⟩)

/-! ## The steps on the normal path -/

section Steps

variable {fault : Nat → Option Exc} {R : Exc → World V → Prop}

/-- Assertions that read neither the count of operations nor the outbox. -/
structure Quiet (P : World V → Prop) : Prop where
  tick : ∀ c, P c → c.broken = false ∧ P { c with ops := c.ops + 1 }
  send : ∀ c (f : Outbox → Outbox), P c → P { c with out := f c.out }

theorem quiet_onPath (F : Store V → Prop) : Quiet (OnPath (dbEnv V fault) F) :=
  ⟨onPath_tick, fun _ _ h => h⟩

theorem quiet_settled (F : Store V → Prop) : Quiet (Settled (dbEnv V fault) F) :=
  ⟨settled_tick, fun _ _ h => h⟩

theorem triple_notify_ok {P : World V → Prop} (hP : Quiet P) (t : Option Str) (payload : JobEvent) :
    Triple P (notify t payload : Task V Unit) (fun _ => P) R := by
  unfold notify
  split
  · exact Triple.ite (fun _ => Triple.skip _) fun _ => triple_send_ok _ fun c hc => hP.send c _ hc
  · exact Triple.skip _

theorem triple_notifyWithJob_ok {P : World V → Prop} (hP : Quiet P) (t : Option Str)
    (job : Option Job) (missing : Exc) (payload : Job → JobEvent) :
    Triple P (notifyWithJob t job missing payload : Task V Unit) (fun _ => P) (fun _ _ => True) := by
  unfold notifyWithJob
  refine Triple.ite (fun _ => ?_) fun _ => Triple.skip _
  cases job with
  | some j => exact triple_notify_ok hP t _
  | none => exact (Triple.throw _).pre fun _ _ => trivial

theorem triple_enqueue_ok {P : World V → Prop} (hP : Quiet P) (m : Msg) :
    Triple P (enqueue (dbEnv V fault) m) (fun _ => P) (fun _ _ => True) := by
  unfold enqueue
  refine Triple.bind (triple_call_ok hP.tick _) fun _ => ?_
  exact (triple_send_ok _ fun c hc => hP.send c _ hc).pre fun _ hc => hc.2

/-- A status, progress or error update keeps an assertion on the shape. -/
theorem triple_update_ok {G : Shape → Prop} (x : Change V) (hx : x.isUpdate = true) :
    Triple (OnPath (dbEnv V fault) fun v => G v.shape) (add (dbEnv V fault) fun _ => x)
      (fun _ => OnPath (dbEnv V fault) fun v => G v.shape) R := by
  refine (triple_add_ok _).pre fun c hc => ⟨hc.1, ?_⟩
  show G (Store.apply _ x).shape
  rw [shape_apply_update hx]
  exact hc.2

theorem triple_advance_ok {G : Shape → Prop} (job : Option Job) (status : Option Str)
    (progress : Nat) (t : Option Str) (event : Job → JobEvent) :
    Triple (OnPath (dbEnv V fault) fun v => G v.shape)
      (advance (dbEnv V fault) job status progress t event)
      (fun _ => OnPath (dbEnv V fault) fun v => G v.shape) (fun _ _ => True) := by
  unfold advance
  cases job with
  | none => exact Triple.skip _
  | some j =>
    -- the updates of the job, a commit, the event
    have hstatus : Triple (OnPath (dbEnv V fault) fun v => G v.shape)
        (whenSome status fun s => add (dbEnv V fault) fun _ => .setJobStatus j.id s)
        (fun _ => OnPath (dbEnv V fault) fun v => G v.shape) (fun _ _ => True) := by
      cases status with
      | none => exact Triple.skip _
      | some s => exact triple_update_ok _ rfl
    refine Triple.bind hstatus fun _ => ?_
    refine Triple.bind (triple_update_ok _ rfl) fun _ => ?_
    refine Triple.bind triple_commit_ok fun _ => ?_
    exact (triple_notify_ok (quiet_settled _) t _).post (fun _ _ h => h.onPath) fun _ _ h => h

/-- The updates closing a run, on a settled session. -/
theorem triple_finish_ok {G : Shape → Prop} (job : Option Job) (status : Str) (progress : Nat) :
    Triple (Settled (dbEnv V fault) fun v => G v.shape)
      (whenSome job fun j => do
        add (dbEnv V fault) fun _ => .setJobStatus j.id status
        add (dbEnv V fault) fun _ => .setJobProgress j.id progress
        commit (dbEnv V fault))
      (fun _ => Settled (dbEnv V fault) fun v => G v.shape) (fun _ _ => True) := by
  cases job with
  | none => exact Triple.skip _
  | some j =>
    refine Triple.bind ((triple_update_ok _ rfl).pre fun _ h => h.onPath) fun _ => ?_
    exact Triple.bind (triple_update_ok _ rfl) fun _ => triple_commit_ok

/-- The document and the job a run reads first, from its view. -/
theorem triple_lookup_ok {F : Store V → Prop} (notFound : Nat → Exc) (d : Nat) (type : Str) :
    Triple (OnPath (dbEnv V fault) F) (lookup (dbEnv V fault) notFound d type)
      (fun r c => ((c.view Store.apply).document d = some r.1 ∧
        r.2 = (c.view Store.apply).firstJob d type) ∧ OnPath (dbEnv V fault) F c)
      (fun _ _ => True) := by
  unfold lookup
  refine Triple.tryCatch (H := fun _ _ => True) ?_ fun _ => (Triple.throw _).pre fun _ _ => trivial
  refine Triple.bind (triple_query_ok (quiet_onPath F).tick _) fun document => ?_
  cases document with
  | none => exact (Triple.throw _).pre fun _ _ => trivial
  | some doc =>
    -- the second query keeps what the first one read
    have hP : Quiet fun c : World V =>
        some doc = (c.view Store.apply).document d ∧ OnPath (dbEnv V fault) F c :=
      ⟨fun c hc => ⟨hc.2.1, hc⟩, fun _ _ hc => hc⟩
    refine Triple.bind (triple_query_ok hP.tick _) fun job => ?_
    exact (Triple.pure _).pre fun c hc => ⟨⟨hc.2.1.symm, hc.1⟩, hc.2.2⟩

/-- `raise` at the end of an `except` block: the block never returns normally. -/
theorem triple_markFailed_ok {Q : Unit → World V → Prop} (event type : Str) (d : Nat)
    (t : Option Str) (job : Option Job) (e : Exc) :
    Triple (fun _ => True) (markFailed (dbEnv V fault) event type d t job e) Q (fun _ _ => True) := by
  unfold markFailed
  exact Triple.bind Triple.trivial fun _ => Triple.throw (R := fun _ _ => True) e

end Steps

/-! ## `parse_document` -/

section Parse

variable {fault : Nat → Option Exc} {R : Exc → World V → Prop}

/-- The rows of the elements of `pre` are queued after the rows of `S0`. -/
def ParsedPrefix (d : Nat) (S0 : Shape) (pre : List ElementData) (s : Shape) : Prop :=
  ∃ new, s = ⟨S0.elements ++ new, S0.chunks, S0.jobKeys⟩ ∧
    new.map Element.content = pre.map (ElementData.contentFor d)

/-- The rows of `data` and the chunk job are added to `S0`. -/
def ParsedShape (d : Nat) (S0 : Shape) (data : List ElementData) (s : Shape) : Prop :=
  ∃ new, s = ⟨S0.elements ++ new, S0.chunks,
      S0.jobKeys ++ [(nextId (S0.jobKeys.map (·.1)), "chunk".toList, d)]⟩ ∧
    new.map Element.content = data.map (ElementData.contentFor d)

/-- The loop that adds the element rows, one per element dict. -/
theorem triple_addElements_ok (d : Nat) (S0 : Shape) (data : List ElementData) :
    Triple (OnPath (dbEnv V fault) fun v => ParsedPrefix d S0 [] v.shape)
      (data.forM fun e => add (dbEnv V fault) (newElement d e))
      (fun _ => OnPath (dbEnv V fault) fun v => ParsedPrefix d S0 data v.shape) R := by
  refine Triple.forM (fun pre => OnPath (dbEnv V fault) fun v => ParsedPrefix d S0 pre v.shape)
    fun pre a _ _ => ?_
  refine (triple_add_ok _).pre fun c ⟨hb, new, hshape, hnew⟩ => ⟨hb, ?_⟩
  -- the new row goes after the rows queued so far
  refine ⟨new ++ [⟨nextId ((c.view Store.apply).elements.map (·.id)), d, a.type, a.page,
    a.table_id, a.text⟩], ?_, ?_⟩
  · show (Store.apply _ (newElement d a _)).shape = _
    simp only [newElement, shape_insertElement, hshape, List.append_assoc]
    rfl
  · simp [hnew, Element.content, ElementData.contentFor]

/-- The body of `parse_document` on the normal path. -/
theorem triple_parseSteps_ok (S : Services V) (d : Nat) (t : Option Str) (doc : Document)
    (job : Option Job) (S0 : Shape) :
    Triple (OnPath (dbEnv V fault) fun v => v.shape = S0)
      (parseSteps (dbEnv V fault) S d t doc job)
      (fun _ c => ∃ parsed,
        parseFile S (replace ("s3://".toList ++ S.bucket ++ "/".toList) [] doc.storage_uri)
          doc.mime = .ok parsed ∧
        Settled (dbEnv V fault) (fun v => ParsedShape d S0 (parsed ++ S.extractTables
          (replace ("s3://".toList ++ S.bucket ++ "/".toList) [] doc.storage_uri) doc.mime)
          v.shape) c)
      (fun _ _ => True) := by
  unfold parseSteps
  refine Triple.bind (triple_advance_ok (G := (· = S0)) _ _ _ _ _) fun _ => ?_
  -- the download, then the parsers
  refine Triple.bind (triple_call_ok (quiet_onPath _).tick _) fun _ => ?_
  refine Triple.bind ((triple_ofExcept_ok _).pre fun _ hc => hc.2) fun parsed => ?_
  refine Triple.of_pre (fun _ hc => hc.1) fun hparse => ?_
  refine Triple.bind ((triple_advance_ok (G := (· = S0)) _ _ _ _ _).pre fun _ hc => hc.2)
    fun _ => ?_
  -- the element rows
  refine Triple.bind ((triple_addElements_ok d S0 _).pre fun c hc =>
    ⟨hc.1, [], by simpa using hc.2, rfl⟩) fun _ => ?_
  refine Triple.bind triple_commit_ok fun _ => ?_
  refine Triple.bind ((triple_advance_ok _ _ _ _ _).pre fun _ hc => hc.onPath) fun _ => ?_
  -- the chunk job
  refine Triple.bind (Q := fun _ => OnPath (dbEnv V fault) fun v =>
    ParsedShape d S0 (parsed ++ S.extractTables
      (replace ("s3://".toList ++ S.bucket ++ "/".toList) [] doc.storage_uri) doc.mime) v.shape)
    ((triple_add_ok _).pre fun c ⟨hb, new, hshape, hnew⟩ => ⟨hb, new, ?_, hnew⟩) fun _ => ?_
  · show (Store.apply _ (newJob d _ _ _)).shape = _
    simp only [newJob, shape_insertJob, hshape, jobIds_eq_shape, Job.key]
  refine Triple.bind triple_commit_ok fun _ => ?_
  refine Triple.bind (triple_finish_ok job _ _) fun _ => ?_
  refine Triple.bind (triple_notifyWithJob_ok (quiet_settled _) _ _ _ _) fun _ => ?_
  exact (triple_enqueue_ok (quiet_settled _) _).post (fun _ c hc => ⟨parsed, hparse, hc⟩)
    fun _ _ h => h

/-- `parse_document` on the normal path, from a session as it opens. -/
theorem triple_parseDocument_ok (S : Services V) (d : Nat) (t : Option Str) (c0 : World V) :
    Triple (fun s => s = { c0 with pending := [], broken := false })
      (parseDocument fault S d t)
      (fun _ c => ∃ doc parsed, c0.db.document d = some doc ∧
        parseFile S (replace ("s3://".toList ++ S.bucket ++ "/".toList) [] doc.storage_uri)
          doc.mime = .ok parsed ∧
        ParsedShape d c0.db.shape (parsed ++ S.extractTables
          (replace ("s3://".toList ++ S.bucket ++ "/".toList) [] doc.storage_uri) doc.mime)
          c.db.shape)
      (fun _ _ => True) := by
  unfold parseDocument
  refine Triple.bind ((triple_lookup_ok (F := (· = c0.db)) _ _ _).pre fun s hs => ?_)
    fun r => ?_
  · subst hs
    exact ⟨rfl, by simp [Conn.view]⟩
  obtain ⟨doc, job⟩ := r
  -- the session still reads the store as it opened
  refine Triple.of_pre (fun c hc => (hc.2.2 ▸ hc.1.1 : c0.db.document d = some doc)) fun hdoc => ?_
  refine Triple.tryCatch (H := fun _ _ => True) ?_ fun e => triple_markFailed_ok _ _ _ _ _ e
  refine ((triple_parseSteps_ok S d t doc job c0.db.shape).pre fun c hc =>
    ⟨hc.2.1, by rw [hc.2.2]⟩).post (fun _ c h => ?_) fun _ _ h => h
  obtain ⟨parsed, hparse, hc⟩ := h
  exact ⟨doc, parsed, hdoc, hparse, hc.db⟩

end Parse

/-! ## `chunk_document` -/

section Chunk

variable {fault : Nat → Option Exc} {R : Exc → World V → Prop}

/-- The rows of the chunks of `pre` are queued after the rows of `S0`. -/
def ChunkedPrefix (d : Nat) (S0 : Shape) (pre : List ChunkData) (s : Shape) : Prop :=
  ∃ new, s = ⟨S0.elements, S0.chunks ++ new, S0.jobKeys⟩ ∧
    new.map Chunk.content = pre.map fun c => (d, c)

/-- The rows of `built` and the embed job are added to `S0`. -/
def ChunkedShape (d : Nat) (S0 : Shape) (built : List ChunkData) (s : Shape) : Prop :=
  ∃ new, s = ⟨S0.elements, S0.chunks ++ new,
      S0.jobKeys ++ [(nextId (S0.jobKeys.map (·.1)), "embed".toList, d)]⟩ ∧
    new.map Chunk.content = built.map fun c => (d, c)

/-- The loop that adds the chunk rows, one per chunk dict. -/
theorem triple_addChunks_ok (d : Nat) (S0 : Shape) (built : List ChunkData) :
    Triple (OnPath (dbEnv V fault) fun v => ChunkedPrefix d S0 [] v.shape)
      (built.forM fun c => add (dbEnv V fault) (newChunk d c))
      (fun _ => OnPath (dbEnv V fault) fun v => ChunkedPrefix d S0 built v.shape) R := by
  refine Triple.forM (fun pre => OnPath (dbEnv V fault) fun v => ChunkedPrefix d S0 pre v.shape)
    fun pre a _ _ => ?_
  refine (triple_add_ok _).pre fun c ⟨hb, new, hshape, hnew⟩ => ⟨hb, ?_⟩
  -- the new row goes after the rows queued so far
  refine ⟨new ++ [⟨nextId ((c.view Store.apply).chunks.map (·.id)), d, a.element_id, a.level,
    a.header_path, a.text, a.token_count, a.page, a.table_meta⟩], ?_, ?_⟩
  · show (Store.apply _ (newChunk d a _)).shape = _
    simp only [newChunk, shape_insertChunk, hshape, List.append_assoc]
    rfl
  · simp [hnew, Chunk.content]

/-- The body of `chunk_document` on the normal path: the chunks are built from the document's
elements as the run reads them. -/
theorem triple_chunkSteps_ok (S : Services V) (d : Nat) (t : Option Str) (doc : Document)
    (job : Option Job) (S0 : Shape) :
    Triple (OnPath (dbEnv V fault) fun v => v.shape = S0)
      (chunkSteps (dbEnv V fault) S d t doc job)
      (fun _ c => ∃ built, ChunkingPipeline.buildChunks S.cc S.tok
          ((S0.elements.filter (·.document_id = d)).map Element.toData) = .ok built ∧
        Settled (dbEnv V fault) (fun v => ChunkedShape d S0 built v.shape) c)
      (fun _ _ => True) := by
  unfold chunkSteps
  refine Triple.bind (triple_advance_ok (G := (· = S0)) _ _ _ _ _) fun _ => ?_
  -- the elements the run reads are those of the store it started from
  refine Triple.bind (triple_query_ok (quiet_onPath _).tick _) fun elements => ?_
  refine Triple.of_pre (φ := elements = S0.elements.filter (·.document_id = d))
    (fun c ⟨hread, _, hshape⟩ => by rw [hread, ← hshape]; rfl) fun hread => ?_
  subst hread
  refine Triple.bind ((triple_ofExcept_ok _).pre fun _ hc => hc.2) fun built => ?_
  refine Triple.of_pre (fun _ hc => hc.1) fun hbuilt => ?_
  refine Triple.bind ((triple_advance_ok (G := (· = S0)) _ _ _ _ _).pre fun _ hc => hc.2)
    fun _ => ?_
  -- the chunk rows, then the document's status
  refine Triple.bind ((triple_addChunks_ok d S0 _).pre fun c hc =>
    ⟨hc.1, [], by simpa using hc.2, rfl⟩) fun _ => ?_
  refine Triple.bind triple_commit_ok fun _ => ?_
  refine Triple.bind ((triple_update_ok _ rfl).pre fun _ hc => hc.onPath) fun _ => ?_
  refine Triple.bind triple_commit_ok fun _ => ?_
  refine Triple.bind ((triple_advance_ok _ _ _ _ _).pre fun _ hc => hc.onPath) fun _ => ?_
  -- the embed job
  refine Triple.bind (Q := fun _ => OnPath (dbEnv V fault) fun v => ChunkedShape d S0 built v.shape)
    ((triple_add_ok _).pre fun c ⟨hb, new, hshape, hnew⟩ => ⟨hb, new, ?_, hnew⟩) fun _ => ?_
  · show (Store.apply _ (newJob d _ _ _)).shape = _
    simp only [newJob, shape_insertJob, hshape, jobIds_eq_shape, Job.key]
  refine Triple.bind triple_commit_ok fun _ => ?_
  exact (triple_enqueue_ok (quiet_settled _) _).post (fun _ c hc => ⟨built, hbuilt, hc⟩)
    fun _ _ h => h

/-- `chunk_document` on the normal path, from a session as it opens. -/
theorem triple_chunkDocument_ok (S : Services V) (d : Nat) (t : Option Str) (c0 : World V) :
    Triple (fun s => s = { c0 with pending := [], broken := false })
      (chunkDocument fault S d t)
      (fun _ c => ∃ built, ChunkingPipeline.buildChunks S.cc S.tok
          ((c0.db.documentElements d).map Element.toData) = .ok built ∧
        ChunkedShape d c0.db.shape built c.db.shape)
      (fun _ _ => True) := by
  unfold chunkDocument
  refine Triple.bind ((triple_lookup_ok (F := (· = c0.db)) _ _ _).pre fun s hs => ?_)
    fun r => ?_
  · subst hs
    exact ⟨rfl, by simp [Conn.view]⟩
  obtain ⟨doc, job⟩ := r
  refine Triple.tryCatch (H := fun _ _ => True) ?_ fun e => triple_markFailed_ok _ _ _ _ _ e
  refine ((triple_chunkSteps_ok S d t doc job c0.db.shape).pre fun c hc =>
    ⟨hc.2.1, by rw [hc.2.2]⟩).post (fun _ c h => ?_) fun _ _ h => h
  obtain ⟨built, hbuilt, hc⟩ := h
  exact ⟨built, hbuilt, hc.db⟩

end Chunk

/-! ## Running again -/

/-- A parse run that returns normally adds, after the element rows already there, one row per
element the parsers return, and one chunk job; a chunk run that returns normally adds, after
the chunk rows already there, one row per chunk built from all of the document's elements, and
one embed job. Neither looks at the rows earlier runs left. -/
theorem rerun_appends_rows (fault : Nat → Option Exc) (S : Services V) (d : Nat)
    (t : Option Str) (c : World V) :
    ((runSession (parseDocument fault S d t) c).1 = .ok () →
      ∃ doc parsed, c.db.document d = some doc ∧
        parseFile S (replace ("s3://".toList ++ S.bucket ++ "/".toList) [] doc.storage_uri)
          doc.mime = .ok parsed ∧
        ParsedShape d c.db.shape (parsed ++ S.extractTables
          (replace ("s3://".toList ++ S.bucket ++ "/".toList) [] doc.storage_uri) doc.mime)
          (runSession (parseDocument fault S d t) c).2.db.shape) ∧
    ((runSession (chunkDocument fault S d t) c).1 = .ok () →
      ∃ built, ChunkingPipeline.buildChunks S.cc S.tok
          ((c.db.documentElements d).map Element.toData) = .ok built ∧
        ChunkedShape d c.db.shape built (runSession (chunkDocument fault S d t) c).2.db.shape) := by
  constructor
  · intro hok
    exact (outcome_runSession (triple_parseDocument_ok S d t c) (fun _ _ h => h)
      fun _ _ h => h).of_ok hok
  · intro hok
    exact (outcome_runSession (triple_chunkDocument_ok S d t c) (fun _ _ h => h)
      fun _ _ h => h).of_ok hok

/-- The chunk task of `System`'s upload, delivered a second time. -/
def rechunked : World Nat :=
  (runSession (runMsg noFault plainServices ⟨.chunk, 1, some "acme".toList⟩) chunked).2

theorem chunked_rerun_appends_rows :
    (runSession (parseDocument noFault plainServices 1 (some "acme".toList)) chunked).1 = .ok () ∧
    (runSession (chunkDocument noFault plainServices 1 (some "acme".toList)) chunked).1 = .ok () ∧
    (∃ doc parsed, chunked.db.document 1 = some doc ∧
      parseFile plainServices (replace ("s3://".toList ++ plainServices.bucket ++ "/".toList) []
        doc.storage_uri) doc.mime = .ok parsed ∧
      ParsedShape 1 chunked.db.shape (parsed ++ plainServices.extractTables
        (replace ("s3://".toList ++ plainServices.bucket ++ "/".toList) [] doc.storage_uri)
        doc.mime)
        (runSession (parseDocument noFault plainServices 1 (some "acme".toList)) chunked).2.db.shape) ∧
    (∃ built, ChunkingPipeline.buildChunks plainServices.cc plainServices.tok
        ((chunked.db.documentElements 1).map Element.toData) = .ok built ∧
      ChunkedShape 1 chunked.db.shape built
        (runSession (chunkDocument noFault plainServices 1 (some "acme".toList)) chunked).2.db.shape) := by
  have hparse : (runSession (parseDocument noFault plainServices 1 (some "acme".toList))
      chunked).1 = .ok () := by decide +kernel
  have hchunk : (runSession (chunkDocument noFault plainServices 1 (some "acme".toList))
      chunked).1 = .ok () := by decide +kernel
  have h := rerun_appends_rows noFault plainServices 1 (some "acme".toList) chunked
  exact ⟨hparse, hchunk, h.1 hparse, h.2 hchunk⟩

/-- Delivering the chunk task again leaves two chunks of the document with the same element,
text and header path. -/
theorem rechunk_duplicates_chunks :
    ¬ ∀ c : World Nat, Reachable c → ∀ x ∈ c.db.chunks, ∀ y ∈ c.db.chunks,
      x.document_id = y.document_id → x.element_id = y.element_id → x.text = y.text →
        x.header_path = y.header_path → x.id = y.id := by
  intro h
  have hreach : Reachable rechunked :=
    reachable_chunked.tail (Step.deliver _ _ (by decide +kernel) _ _)
  have hdup : ∃ x ∈ rechunked.db.chunks, ∃ y ∈ rechunked.db.chunks,
      x.document_id = y.document_id ∧ x.element_id = y.element_id ∧ x.text = y.text ∧
        x.header_path = y.header_path ∧ x.id ≠ y.id := by
    decide +kernel
  obtain ⟨x, hx, y, hy, hd, he, ht, hp, hid⟩ := hdup
  exact hid (h rechunked hreach x hx y hy hd he ht hp)

end RagService.Workers
