import RagService.Workers.Events
import RagService.Retrieval.Search

/-!
# What the store holds in every reachable state

The upload request and the three tasks write the `documents`, `jobs`, `elements`, `chunks` and
`embeddings` tables with no foreign key checked by the model and no schema check of the job
columns. Whatever fails, and in whatever order the queue delivers its messages, the rows they
leave keep to each other and to the code's values:

- every job, element and chunk belongs to a document of the store (`rows_have_documents`);
- every document has a `parse` job: the request commits both at once
  (`documents_have_parse_job`);
- every job has one of the code's types and statuses, `error` for a failure and never the
  `failed` that `embed_document`'s docstring announces (`job_values_known`);
- no embedding is ever stored, since the upsert raises on every row, so every retrieval over a
  reachable store finds nothing (`embeddings_never_stored`);
- every chunk that points at an element points at an element of its own document, a table
  exactly when the chunk is a table chunk (`chunks_point_into_own_document`).

`StoreInv` is the invariant. `StoreInv.apply` is its lemma for every change a task queues, with
the task's document in the store as hypothesis; `storeInv_uploadedStore` is the request's
commit. `reachable_storeInv` carries it over every run: a delivered message's document is
committed (`EventsInv.committed`), and a task's run keeps `RunInv` at each step
(`keeps_runMsg_of_taskInvariant`). The chunk references need more than the footprint of each
step: `reachable_chunkRefs` follows the elements `chunk_document` reads into the rows it writes.
-/

set_option autoImplicit false

namespace RagService.Workers

open PyText Session RagService.Db RagService.Chunking

variable {V : Type}

/-- The rows of the store keep to each other and to the values the code writes. -/
structure StoreInv (db : Store V) : Prop where
  jobs_owned : ∀ j ∈ db.jobs, j.document_id ∈ db.documentIds
  elements_owned : ∀ e ∈ db.elements, e.document_id ∈ db.documentIds
  chunks_owned : ∀ c ∈ db.chunks, c.document_id ∈ db.documentIds
  parse_job : ∀ doc ∈ db.documents, ∃ j ∈ db.jobs, j.document_id = doc.id ∧ j.type = "parse".toList
  job_types : ∀ j ∈ db.jobs, j.type ∈ jobTypes
  job_statuses : ∀ j ∈ db.jobs, j.status ∈ jobStatuses
  no_embeddings : db.embeddings = []

theorem storeInv_empty : StoreInv (Store.empty : Store V) :=
  ⟨nofun, nofun, nofun, nofun, nofun, nofun, rfl⟩

/-! ## One lemma per kind of change -/

section Changes

variable {db : Store V}

/-- A job update that keeps each job's document and type, and keeps its status one of the
code's. -/
theorem StoreInv.updateJobs (h : StoreInv db) (i : Nat) {f : Job → Job}
    (hdoc : ∀ j, (f j).document_id = j.document_id) (htype : ∀ j, (f j).type = j.type)
    (hstatus : ∀ j, j.status ∈ jobStatuses → (f j).status ∈ jobStatuses) :
    StoreInv { db with jobs := updateWhere (·.id) i f db.jobs } where
  jobs_owned := forall_mem_updateWhere h.jobs_owned fun j hj => (hdoc j).symm ▸ hj
  elements_owned := h.elements_owned
  chunks_owned := h.chunks_owned
  parse_job doc hd := by
    obtain ⟨j, hj, hjd, hjt⟩ := h.parse_job doc hd
    refine ⟨_, mem_updateWhere_of_mem f hj, ?_⟩
    split
    · rw [hdoc, htype]
      exact ⟨hjd, hjt⟩
    · exact ⟨hjd, hjt⟩
  job_types := forall_mem_updateWhere h.job_types fun j hj => (htype j).symm ▸ hj
  job_statuses := forall_mem_updateWhere h.job_statuses hstatus
  no_embeddings := h.no_embeddings

/-- A document update that keeps each document's key. -/
theorem StoreInv.updateDocuments (h : StoreInv db) (i : Nat) {f : Document → Document}
    (hid : ∀ doc, (f doc).id = doc.id) :
    StoreInv { db with documents := updateWhere (·.id) i f db.documents } := by
  have hids : ({ db with documents := updateWhere (·.id) i f db.documents } : Store V).documentIds =
      db.documentIds := map_updateWhere hid db.documents
  refine ⟨?_, ?_, ?_, ?_, h.job_types, h.job_statuses, h.no_embeddings⟩
  · rw [hids]
    exact h.jobs_owned
  · rw [hids]
    exact h.elements_owned
  · rw [hids]
    exact h.chunks_owned
  · exact forall_mem_updateWhere h.parse_job fun doc hj => (hid doc).symm ▸ hj

theorem StoreInv.insertJob (h : StoreInv db) {j : Job} (hd : j.document_id ∈ db.documentIds)
    (ht : j.type ∈ jobTypes) (hs : j.status ∈ jobStatuses) : StoreInv (db.apply (.insertJob j)) where
  jobs_owned := List.forall_mem_append.2 ⟨h.jobs_owned, List.forall_mem_singleton.2 hd⟩
  elements_owned := h.elements_owned
  chunks_owned := h.chunks_owned
  parse_job doc hdoc := by
    obtain ⟨j', hj', hjd⟩ := h.parse_job doc hdoc
    exact ⟨j', List.mem_append_left _ hj', hjd⟩
  job_types := List.forall_mem_append.2 ⟨h.job_types, List.forall_mem_singleton.2 ht⟩
  job_statuses := List.forall_mem_append.2 ⟨h.job_statuses, List.forall_mem_singleton.2 hs⟩
  no_embeddings := h.no_embeddings

theorem StoreInv.insertElement (h : StoreInv db) {e : Element}
    (hd : e.document_id ∈ db.documentIds) : StoreInv (db.apply (.insertElement e)) :=
  { h with elements_owned := List.forall_mem_append.2 ⟨h.elements_owned, List.forall_mem_singleton.2 hd⟩ }

theorem StoreInv.insertChunk (h : StoreInv db) {c : Chunk}
    (hd : c.document_id ∈ db.documentIds) : StoreInv (db.apply (.insertChunk c)) :=
  { h with chunks_owned := List.forall_mem_append.2 ⟨h.chunks_owned, List.forall_mem_singleton.2 hd⟩ }

/-- Every change a run of a task for `d` queues keeps the invariant while `d` is a document of
the store. -/
theorem StoreInv.apply (h : StoreInv db) {k : TaskName} {d : Nat} {x : Change V}
    (hx : TaskChange k d x) (hd : d ∈ db.documentIds) : StoreInv (db.apply x) := by
  rcases hx with hx | hx
  · cases hx with
    | status i s hs => exact h.updateJobs i (fun _ => rfl) (fun _ => rfl) fun _ _ => hs
    | progress i p => exact h.updateJobs i (fun _ => rfl) (fun _ => rfl) fun _ hj => hj
    | error i e => exact h.updateJobs i (fun _ => rfl) (fun _ => rfl) fun _ hj => hj
    | job j hj ht hs => exact h.insertJob (hj ▸ hd) ht hs
  · cases hx with
    | element e he => exact h.insertElement (he ▸ hd)
    | chunk c hc => exact h.insertChunk (hc ▸ hd)
    | done i => exact h.updateDocuments i fun _ => rfl

/-- So does a commit of such changes. -/
theorem StoreInv.foldl (h : StoreInv db) {k : TaskName} {d : Nat} (hd : d ∈ db.documentIds)
    {xs : List (Change V)} (hxs : ∀ x ∈ xs, TaskChange k d x) :
    StoreInv (xs.foldl Store.apply db) :=
  -- the document stays in the store along the commit
  (Runs.foldl_invariant Store.apply (fun db' => StoreInv db' ∧ d ∈ db'.documentIds) xs
    (fun _ x hx hs => ⟨hs.1.apply (hxs x hx) hs.2, mem_documentIds_apply x hs.2⟩) db ⟨h, hd⟩).1

/-- The request's commit: the new document and its `parse` job. -/
theorem storeInv_uploadedStore (h : StoreInv db) (bucket : Str) (file : UploadFile) (key : Str) :
    StoreInv (uploadedStore db bucket file key) := by
  have hids := documentIds_uploadedStore db bucket file key
  -- the documents only grow, and the new job's document is the new one
  have hold : ∀ i ∈ db.documentIds, i ∈ (uploadedStore db bucket file key).documentIds :=
    fun i hi => hids ▸ List.mem_append_left _ hi
  have hnew : (uploadJob db).document_id ∈ (uploadedStore db bucket file key).documentIds :=
    hids ▸ List.mem_append_right _ (List.mem_singleton_self _)
  refine ⟨?_, fun e he => hold _ (h.elements_owned e he), fun c hc => hold _ (h.chunks_owned c hc),
    ?_, ?_, ?_, h.no_embeddings⟩
  · exact List.forall_mem_append.2
      ⟨fun j hj => hold _ (h.jobs_owned j hj), List.forall_mem_singleton.2 hnew⟩
  · refine List.forall_mem_append.2 ⟨fun doc hdoc => ?_, List.forall_mem_singleton.2 ?_⟩
    · obtain ⟨j, hj, hjd⟩ := h.parse_job doc hdoc
      exact ⟨j, List.mem_append_left _ hj, hjd⟩
    · exact ⟨uploadJob db, List.mem_append_right _ (List.mem_singleton_self _), rfl, rfl⟩
  · exact List.forall_mem_append.2
      ⟨h.job_types, List.forall_mem_singleton.2 (show "parse".toList ∈ jobTypes by decide)⟩
  · exact List.forall_mem_append.2
      ⟨h.job_statuses, List.forall_mem_singleton.2 (show "queued".toList ∈ jobStatuses by decide)⟩

end Changes

/-! ## Every reachable state -/

/-- A connection of a run of task `k` for `d`: the committed store keeps the invariant and holds
`d`, and every queued change is one the task writes. -/
def RunInv (k : TaskName) (d : Nat) (c : World V) : Prop :=
  StoreInv c.db ∧ d ∈ c.db.documentIds ∧ ∀ x ∈ c.pending, TaskChange k d x

theorem runInv_taskInvariant (k : TaskName) (d : Nat) (t : Option Str) :
    TaskInvariant k d t (RunInv (V := V) k d) where
  tick _ hc := hc
  abort _ hc := ⟨hc.1, hc.2.1, fun _ hx => (List.not_mem_nil hx).elim⟩
  commit _ hc := ⟨hc.1.foldl hc.2.1 hc.2.2, mem_documentIds_foldl _ hc.2.1,
    fun _ hx => (List.not_mem_nil hx).elim⟩
  job _ _ hc hx := ⟨hc.1, hc.2.1, List.forall_mem_append.2 ⟨hc.2.2, List.forall_mem_singleton.2 (.inl hx)⟩⟩
  send _ _ hc _ := hc
  row _ _ hc hx := ⟨hc.1, hc.2.1, List.forall_mem_append.2 ⟨hc.2.2, List.forall_mem_singleton.2 (.inr hx)⟩⟩

/-- The invariant holds in every reachable state. -/
theorem reachable_storeInv {c : World V} (hc : Reachable c) : StoreInv c.db := by
  refine Runs.Reachable.invariant_of_reach (fun s : World V => StoreInv s.db) storeInv_empty
    (fun s s' hreach hs hstep => ?_) hc
  cases hstep with
  | ingest fault bucket file key form userTenant =>
    rcases ingest_db fault bucket file key form userTenant s with hdb | hdb
    · rw [hdb]
      exact hs
    · rw [hdb]
      exact storeInv_uploadedStore hs bucket file key
  | deliver m hm fault S =>
    -- the message's document is committed, so the rows the run adds have their document; the
    -- session opens with nothing queued
    have hstart : RunInv m.task m.document_id { s with pending := [], broken := false } :=
      ⟨hs, (reachable_eventsInv hreach).committed m hm, fun _ hx => (List.not_mem_nil hx).elim⟩
    exact (keeps_runMsg_of_taskInvariant fault S m (runInv_taskInvariant _ _ _) _ hstart).1

/-! ## What it says -/

/-- In every reachable state, every job, element and chunk belongs to a document of the store. -/
theorem rows_have_documents {c : World V} (hc : Reachable c) :
    (∀ j ∈ c.db.jobs, j.document_id ∈ c.db.documentIds) ∧
      (∀ e ∈ c.db.elements, e.document_id ∈ c.db.documentIds) ∧
      ∀ ch ∈ c.db.chunks, ch.document_id ∈ c.db.documentIds :=
  have h := reachable_storeInv hc
  ⟨h.jobs_owned, h.elements_owned, h.chunks_owned⟩

theorem chunked_rows_have_documents :
    Reachable chunked ∧ (∀ j ∈ chunked.db.jobs, j.document_id ∈ chunked.db.documentIds) ∧
      (∀ e ∈ chunked.db.elements, e.document_id ∈ chunked.db.documentIds) ∧
      ∀ ch ∈ chunked.db.chunks, ch.document_id ∈ chunked.db.documentIds :=
  ⟨reachable_chunked, rows_have_documents reachable_chunked⟩

/-- In every reachable state, every document has a `parse` job. -/
theorem documents_have_parse_job {c : World V} (hc : Reachable c) :
    ∀ doc ∈ c.db.documents, ∃ j ∈ c.db.jobs, j.document_id = doc.id ∧ j.type = "parse".toList :=
  (reachable_storeInv hc).parse_job

theorem chunked_documents_have_parse_job :
    Reachable chunked ∧ ∀ doc ∈ chunked.db.documents,
      ∃ j ∈ chunked.db.jobs, j.document_id = doc.id ∧ j.type = "parse".toList :=
  ⟨reachable_chunked, documents_have_parse_job reachable_chunked⟩

/-- In every reachable state, every job is of type `parse`, `chunk` or `embed`, and its status
is `queued`, `running`, `done` or `error`. -/
theorem job_values_known {c : World V} (hc : Reachable c) :
    ∀ j ∈ c.db.jobs, j.type ∈ jobTypes ∧ j.status ∈ jobStatuses :=
  have h := reachable_storeInv hc
  fun j hj => ⟨h.job_types j hj, h.job_statuses j hj⟩

theorem chunked_job_values_known :
    Reachable chunked ∧ ∀ j ∈ chunked.db.jobs, j.type ∈ jobTypes ∧ j.status ∈ jobStatuses :=
  ⟨reachable_chunked, job_values_known reachable_chunked⟩

/-- In every reachable state the `embeddings` table is empty, so every retrieval over the store
returns no match, or raises what embedding the query raises. -/
theorem embeddings_never_stored {c : World V} (hc : Reachable c) :
    c.db.embeddings = [] ∧
      ∀ (R : Retrieval.Retriever V) (query : Str) (top_k rerank_k : Nat) (use_rerank : Bool),
        Retrieval.HybridRetriever.retrieve R c.db query top_k rerank_k use_rerank =
          (R.embedSingle query).map fun _ => [] :=
  have h := (reachable_storeInv hc).no_embeddings
  ⟨h, fun R => Retrieval.retrieve_of_embeddings_nil R h⟩

theorem chunked_embeddings_never_stored :
    Reachable chunked ∧ chunked.db.embeddings = [] ∧
      ∀ (R : Retrieval.Retriever Nat) (query : Str) (top_k rerank_k : Nat) (use_rerank : Bool),
        Retrieval.HybridRetriever.retrieve R chunked.db query top_k rerank_k use_rerank =
          (R.embedSingle query).map fun _ => [] :=
  ⟨reachable_chunked, embeddings_never_stored reachable_chunked⟩

/-- In every reachable state, every queued task message names a committed document, which the
task's lookup finds, and all the messages queued for one document carry one tenant argument. -/
theorem queued_messages_find_document {c : World V} (hc : Reachable c) :
    ∀ m ∈ c.out.queue, (∃ doc, c.db.document m.document_id = some doc ∧ doc.id = m.document_id) ∧
      ∀ m' ∈ c.out.queue, m'.document_id = m.document_id → m'.tenant_id = m.tenant_id := by
  have hinv := reachable_eventsInv hc
  intro m hm
  exact ⟨document_of_mem_documentIds (hinv.committed m hm),
    fun m' hm' hd => hinv.tenant m' hm' m hm hd⟩

theorem chunked_queued_messages_find_document :
    Reachable chunked ∧ ∀ m ∈ chunked.out.queue,
      (∃ doc, chunked.db.document m.document_id = some doc ∧ doc.id = m.document_id) ∧
        ∀ m' ∈ chunked.out.queue, m'.document_id = m.document_id → m'.tenant_id = m.tenant_id :=
  ⟨reachable_chunked, queued_messages_find_document reachable_chunked⟩

/-! ## Which element a chunk points at

`chunk_document` reads the elements of its document and stores each chunk built from them with
the id of the element it came from. The invariant is about values the run read before it wrote
the rows, so the generic walk, which forgets what a query returned, is not enough: the chunk
task's walk hands the elements it read to the rest of the run (`keeps_query_bind`), as
`CommittedElements`, which stay in the store whatever the run does afterwards. The other two
tasks queue no chunk, and keep the invariant through the generic walk. -/

section ChunkRefs

/-- `ch` points at no element, or at an element of `elements` of its own document, a table
exactly when `ch` is a table chunk. -/
def ChunkRef (elements : List Element) (ch : Chunk) : Prop :=
  ∀ i, ch.element_id = some i → ∃ e ∈ elements, e.id = i ∧ e.document_id = ch.document_id ∧
    (e.type = "table".toList ↔ ch.level = "table".toList)

/-- Every chunk of the store points at an element of the store, as `ChunkRef` says. -/
def ChunkRefs (db : Store V) : Prop := ∀ ch ∈ db.chunks, ChunkRef db.elements ch

theorem ChunkRef.mono {elements elements' : List Element} {ch : Chunk}
    (h : ChunkRef elements ch) (hsub : ∀ e ∈ elements, e ∈ elements') : ChunkRef elements' ch := by
  intro i hi
  obtain ⟨e, he, hrest⟩ := h i hi
  exact ⟨e, hsub e he, hrest⟩

theorem chunkRefs_empty : ChunkRefs (Store.empty : Store V) := nofun

/-- A commit keeps the references when every queued chunk points at a committed element. -/
theorem chunkRefs_foldl {db : Store V} (h : ChunkRefs db) {xs : List (Change V)}
    (hxs : ∀ x ∈ xs, ∀ ch ∈ x.newChunk?, ChunkRef db.elements ch) :
    ChunkRefs (xs.foldl Store.apply db) := by
  -- the committed elements only grow
  have hsub : ∀ e ∈ db.elements, e ∈ (xs.foldl Store.apply db).elements := fun e he => by
    rw [elements_foldl]
    exact List.mem_append_left _ he
  intro ch hch
  rw [chunks_foldl] at hch
  rcases List.mem_append.mp hch with hch | hch
  · exact (h ch hch).mono hsub
  · obtain ⟨x, hx, hxch⟩ := List.mem_filterMap.mp hch
    exact (hxs x hx ch hxch).mono hsub

theorem JobChange.newChunk? {d : Nat} {x : Change V} (h : JobChange d x) : x.newChunk? = none := by
  cases h <;> rfl

theorem JobChange.newElement? {d : Nat} {x : Change V} (h : JobChange d x) :
    x.newElement? = none := by
  cases h <;> rfl

/-- A connection whose committed chunks and queued chunks point at committed elements. -/
def RefRun (c : World V) : Prop :=
  ChunkRefs c.db ∧ ∀ x ∈ c.pending, ∀ ch ∈ x.newChunk?, ChunkRef c.db.elements ch

theorem RefRun.add {c : World V} (h : RefRun c) {x : Change V}
    (hx : ∀ ch ∈ x.newChunk?, ChunkRef c.db.elements ch) :
    RefRun { c with pending := c.pending ++ [x] } :=
  ⟨h.1, List.forall_mem_append.2 ⟨h.2, List.forall_mem_singleton.2 hx⟩⟩

theorem refRun_jobInvariant (d : Nat) (t : Option Str) : JobInvariant d t (RefRun (V := V)) where
  tick _ hc := hc
  abort _ hc := ⟨hc.1, fun _ hx => (List.not_mem_nil hx).elim⟩
  commit _ hc := ⟨chunkRefs_foldl hc.1 hc.2, fun _ hx => (List.not_mem_nil hx).elim⟩
  job _ _ hc hx := hc.add fun _ hch => by rw [hx.newChunk?] at hch; cases hch
  send _ _ hc _ := hc

/-- `parse_document` queues elements and no chunk. -/
theorem refRun_parse (d : Nat) (t : Option Str) : TaskInvariant .parse d t (RefRun (V := V)) where
  toJobInvariant := refRun_jobInvariant d t
  row _ _ hc hx := by
    cases hx with
    | element e _ => exact hc.add nofun

/-- A connection of a run of `chunk_document`: no element is queued, so the view's elements are
the committed ones. -/
def ChunkRun (c : World V) : Prop := RefRun c ∧ ∀ x ∈ c.pending, x.newElement? = none

theorem ChunkRun.add {c : World V} (h : ChunkRun c) {x : Change V} (hel : x.newElement? = none)
    (hx : ∀ ch ∈ x.newChunk?, ChunkRef c.db.elements ch) :
    ChunkRun { c with pending := c.pending ++ [x] } :=
  ⟨h.1.add hx, List.forall_mem_append.2 ⟨h.2, List.forall_mem_singleton.2 hel⟩⟩

theorem chunkRun_jobInvariant (d : Nat) (t : Option Str) :
    JobInvariant d t (ChunkRun (V := V)) where
  tick _ hc := hc
  abort c hc := ⟨(refRun_jobInvariant d t).abort c hc.1, fun _ hx => (List.not_mem_nil hx).elim⟩
  commit c hc := ⟨(refRun_jobInvariant d t).commit c hc.1, fun _ hx => (List.not_mem_nil hx).elim⟩
  job _ _ hc hx := hc.add hx.newElement? fun _ hch => by rw [hx.newChunk?] at hch; cases hch
  send _ _ hc _ := hc

theorem ChunkRun.view_elements {c : World V} (h : ChunkRun c) :
    (c.view Store.apply).elements = c.db.elements := by
  rw [Conn.view, elements_foldl, List.filterMap_eq_nil_iff.mpr h.2, List.append_nil]

/-- Elements of document `d` read by a run, and committed. -/
def CommittedElements (d : Nat) (elements : List Element) (c : World V) : Prop :=
  ∀ e ∈ elements, e ∈ c.db.elements ∧ e.document_id = d

/-- Committed elements stay committed: no change removes an element. -/
theorem committedElements_jobInvariant (d : Nat) (t : Option Str) (elements : List Element) :
    JobInvariant d t (CommittedElements (V := V) d elements) where
  tick _ hc := hc
  abort _ hc := hc
  commit c hc e he := by
    refine ⟨?_, (hc e he).2⟩
    show e ∈ (c.pending.foldl Store.apply c.db).elements
    rw [elements_foldl]
    exact List.mem_append_left _ (hc e he).1
  job _ _ hc _ := hc
  send _ _ hc _ := hc

theorem ChunkRun.committed {c : World V} (h : ChunkRun c) (d : Nat) :
    CommittedElements d ((c.view Store.apply).documentElements d) c := by
  intro e he
  have he' := List.mem_filter.mp he
  rw [h.view_elements] at he'
  exact ⟨he'.1, by simpa using he'.2⟩

/-- A chunk built from committed elements points at one of them. -/
theorem chunkRef_newChunk {S : Services V} {d : Nat} {elements : List Element}
    {chunks : List ChunkData}
    (hchunks : ChunkingPipeline.buildChunks S.cc S.tok (elements.map Element.toData) = .ok chunks)
    {ch : ChunkData} (hch : ch ∈ chunks) {c : World V} (hc : CommittedElements d elements c)
    (v : Store V) :
    ∀ row ∈ (newChunk d ch v).newChunk?, ChunkRef c.db.elements row := by
  intro row hrow
  cases hrow
  intro i hi
  obtain ⟨ed, hed, hid, htype⟩ := ChunkingPipeline.element_of_mem_buildChunks hchunks hch hi
  obtain ⟨e, he, rfl⟩ := List.mem_map.mp hed
  exact ⟨e, (hc e he).1, Option.some.inj hid, (hc e he).2, htype⟩

variable (fault : Nat → Option Exc) (S : Services V) (d : Nat) (t : Option Str)

/-- The body of `chunk_document` keeps the references: the chunks it queues are built from the
elements it read, which are committed and stay so. -/
theorem keeps_chunkSteps_refs (document : Document) (job : Option Job) :
    Keeps (ChunkRun (V := V)) (chunkSteps (dbEnv V fault) S d t document job) := by
  have hj := chunkRun_jobInvariant (V := V) d t
  unfold chunkSteps
  refine Keeps.bind (keeps_advance hj fault _ _ _ (by decide) (fun _ => rfl) fun _ => rfl) fun _ => ?_
  refine keeps_query_bind (hj.stable fault) (fun c hc => ChunkRun.committed hc d) fun elements => ?_
  -- from here on the elements read are committed
  have he := hj.and (committedElements_jobInvariant d t elements)
  have hs := he.stable fault
  refine keeps_ofExcept_bind fun chunks hchunks => ?_
  refine Keeps.bind (keeps_advance he fault _ _ _ (by decide) (fun _ => rfl) fun _ => rfl) fun _ => ?_
  refine Keeps.bind (Keeps.forM fun ch hch => keeps_add fun c hc => ?_) fun _ => ?_
  · exact ⟨hc.1.add rfl (chunkRef_newChunk hchunks hch hc.2 _), hc.2⟩
  refine Keeps.bind (keeps_commit hs) fun _ => ?_
  refine Keeps.bind (keeps_add fun c hc => ⟨hc.1.add rfl nofun, hc.2⟩) fun _ => ?_
  refine Keeps.bind (keeps_commit hs) fun _ => ?_
  refine Keeps.bind (keeps_advance he fault _ _ _ (by decide) (fun _ => rfl) fun _ => rfl) fun _ => ?_
  refine Keeps.bind (keeps_job he fault fun _ => .job _ rfl (by dsimp only; decide) (by dsimp only; decide)) fun _ => ?_
  refine Keeps.bind (keeps_commit hs) fun _ => ?_
  exact keeps_enqueue he fault .embed

theorem keeps_chunkDocument_refs : Keeps (ChunkRun (V := V)) (chunkDocument fault S d t) := by
  have hj := chunkRun_jobInvariant (V := V) d t
  unfold chunkDocument
  refine Keeps.bind (keeps_lookup (hj.stable fault) _ _) fun p => ?_
  obtain ⟨document, job⟩ := p
  exact Keeps.tryCatch (keeps_chunkSteps_refs fault S d t document job) fun e =>
    keeps_markFailed hj fault _ _ job e

end ChunkRefs

/-- The references hold in every reachable state. -/
theorem reachable_chunkRefs {c : World V} (hc : Reachable c) : ChunkRefs c.db := by
  refine Runs.Reachable.invariant_of_reach (fun s : World V => ChunkRefs s.db) chunkRefs_empty
    (fun s s' _ hs hstep => ?_) hc
  cases hstep with
  | ingest fault bucket file key form userTenant =>
    -- the request writes a document and a job only
    rcases ingest_db fault bucket file key form userTenant s with hdb | hdb
    · rw [hdb]
      exact hs
    · rw [hdb]
      exact hs
  | deliver m hm fault S =>
    -- the session opens with nothing queued
    have hstart : ChunkRun { s with pending := [], broken := false } :=
      ⟨⟨hs, fun _ hx => (List.not_mem_nil hx).elim⟩, fun _ hx => (List.not_mem_nil hx).elim⟩
    obtain ⟨task, d, t⟩ := m
    cases task with
    | parse => exact (keeps_parseDocument (refRun_parse d t) fault S _ hstart.1).1
    | chunk => exact (keeps_chunkDocument_refs fault S d t _ hstart).1.1
    | embed => exact (keeps_embedDocument (refRun_jobInvariant d t) fault S _ hstart.1).1

/-- In every reachable state, every chunk that points at an element points at an element of its
own document, which is a table exactly when the chunk is a table chunk. -/
theorem chunks_point_into_own_document {c : World V} (hc : Reachable c) :
    ∀ ch ∈ c.db.chunks, ∀ i, ch.element_id = some i →
      ∃ e ∈ c.db.elements, e.id = i ∧ e.document_id = ch.document_id ∧
        (e.type = "table".toList ↔ ch.level = "table".toList) :=
  reachable_chunkRefs hc

theorem chunked_chunks_point_into_own_document :
    Reachable chunked ∧ ∀ ch ∈ chunked.db.chunks, ∀ i, ch.element_id = some i →
      ∃ e ∈ chunked.db.elements, e.id = i ∧ e.document_id = ch.document_id ∧
        (e.type = "table".toList ↔ ch.level = "table".toList) :=
  ⟨reachable_chunked, chunks_point_into_own_document reachable_chunked⟩

end RagService.Workers
