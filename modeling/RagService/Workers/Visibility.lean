import RagService.Workers.Specs
import RagService.Retrieval.Search

/-!
# What a caller sees of the store

No table of the store has a tenant column: a tenant is known to the request that uploads a
document, and to the messages and events it sends, never to the rows. The two status routes of
`api/routers/ingest.py` declare no authentication dependency; their answer is a function of the
id asked for and of the store. Retrieval reads the `embeddings` table whole.

`upload_shown_to_every_caller`: after any upload, made by a user of any tenant, both status
routes answer every caller with the new job and document where they answered 404 before; and
the matches of a retrieval are chunk rows found through the whole `embeddings` table.
-/

set_option autoImplicit false

namespace RagService.Workers

open PyText Session RagService.Db

variable {V : Type}

/-! ## The routes -/

/-- An `HTTPException`: its status code and detail. -/
structure HTTPException where
  status_code : Nat
  detail : Str
  deriving DecidableEq, Repr

/-- `JobStatusResponse` (the timestamps left out). -/
structure JobStatusResponse where
  job_id : Nat
  type : Str
  status : Str
  progress : Nat
  error : Option Str
  document_id : Nat
  deriving DecidableEq, Repr

/-- `JobInfo`: the fields of `JobStatusResponse`, the key under `id`. -/
structure JobInfo where
  id : Nat
  type : Str
  status : Str
  progress : Nat
  error : Option Str
  document_id : Nat
  deriving DecidableEq, Repr

/-- `DocumentStatusResponse`. -/
structure DocumentStatusResponse where
  document_id : Nat
  status : Str
  jobs : List JobInfo
  deriving DecidableEq, Repr

namespace IngestService

/-- `IngestService.get_job_status`. -/
def getJobStatus (db : Store V) (job_id : Nat) : Option Job := db.job job_id

/-- `IngestService.get_document_status`: the document's status with every job of it. -/
def getDocumentStatus (db : Store V) (document_id : Nat) : Option DocumentStatusResponse :=
  match db.document document_id with
  | none => none
  | some document =>
    some ⟨document_id, document.status, (db.documentJobs document_id).map fun job =>
      ⟨job.id, job.type, job.status, job.progress, job.error, job.document_id⟩⟩

end IngestService

/-- `GET /ingest/{job_id}`. -/
def getJobStatus (job_id : Nat) (db : Store V) : Except HTTPException JobStatusResponse :=
  match IngestService.getJobStatus db job_id with
  | none => .error ⟨404, "Job not found".toList⟩
  | some job => .ok ⟨job.id, job.type, job.status, job.progress, job.error, job.document_id⟩

/-- `GET /ingest/document/{document_id}`. -/
def getDocumentStatus (document_id : Nat) (db : Store V) :
    Except HTTPException DocumentStatusResponse :=
  match IngestService.getDocumentStatus db document_id with
  | none => .error ⟨404, "Document not found".toList⟩
  | some document_status => .ok document_status

/-! ## Rows under a fresh key -/

section Keys

variable {α : Type} (key : α → Nat)

theorem find?_key_eq_none {rows : List α} {i : Nat} (h : i ∉ rows.map key) :
    rows.find? (fun r => decide (key r = i)) = none := by
  rw [List.find?_eq_none]
  intro r hr hri
  exact h (List.mem_map.2 ⟨r, hr, of_decide_eq_true hri⟩)

/-- A row appended under a key no row has is the one found under that key. -/
theorem find?_key_append {rows : List α} {r : α} (h : key r ∉ rows.map key) :
    (rows ++ [r]).find? (fun s => decide (key s = key r)) = some r := by
  rw [List.find?_append, find?_key_eq_none key h]
  simp

end Keys

theorem getJobStatus_fresh {db : Store V} {i : Nat} (h : i ∉ db.jobs.map (·.id)) :
    getJobStatus i db = .error ⟨404, "Job not found".toList⟩ := by
  simp only [getJobStatus, IngestService.getJobStatus, Store.job, find?_key_eq_none _ h]

theorem getDocumentStatus_fresh {db : Store V} {i : Nat} (h : i ∉ db.documentIds) :
    getDocumentStatus i db = .error ⟨404, "Document not found".toList⟩ := by
  simp only [getDocumentStatus, IngestService.getDocumentStatus, Store.document,
    find?_key_eq_none _ h]

/-! ## After an upload -/

/-- What the status routes answer once an upload has committed. -/
theorem status_uploadedStore (db : Store V) (bucket : Str) (file : UploadFile) (key : Str) :
    getJobStatus (uploadJob db).id (uploadedStore db bucket file key) =
      .ok ⟨(uploadJob db).id, "parse".toList, "queued".toList, 0, none,
        nextId db.documentIds⟩ ∧
    ∃ r, getDocumentStatus (nextId db.documentIds) (uploadedStore db bucket file key) = .ok r ∧
      r.status = "uploaded".toList ∧
      ⟨(uploadJob db).id, "parse".toList, "queued".toList, 0, none, nextId db.documentIds⟩ ∈
        r.jobs := by
  have hjob : (uploadedStore db bucket file key).job (uploadJob db).id = some (uploadJob db) :=
    find?_key_append Job.id (nextId_not_mem _)
  have hdoc : (uploadedStore db bucket file key).document (nextId db.documentIds) =
      some (uploadDocument db bucket file key) := by
    unfold Store.document
    exact find?_key_append Document.id (r := uploadDocument db bucket file key)
      (nextId_not_mem db.documentIds)
  constructor
  · simp only [getJobStatus, IngestService.getJobStatus, hjob]
    rfl
  · -- the new document, listed with every job of it
    refine ⟨⟨nextId db.documentIds, "uploaded".toList,
      ((uploadedStore db bucket file key).documentJobs (nextId db.documentIds)).map fun job =>
        ⟨job.id, job.type, job.status, job.progress, job.error, job.document_id⟩⟩, ?_, rfl, ?_⟩
    · simp only [getDocumentStatus, IngestService.getDocumentStatus, hdoc]
      rfl
    · refine List.mem_map.2 ⟨uploadJob db, ?_, rfl⟩
      simp [Store.documentJobs, uploadedStore, uploadJob]

/-- `c'` is `c` after a `POST /ingest` request authenticated as a user of tenant `u`. -/
def UploadBy (u : Str) (c c' : World V) : Prop :=
  ∃ fault bucket file key form,
    c' = (runSession (ingestDocument fault bucket file key form (some u) : Task V Nat) c).2

theorem upload_shown_to_every_caller (fault : Nat → Option Exc) (bucket : Str)
    (file : UploadFile) (key : Str) (form userTenant : Option Str) (c : World V) {j : Nat}
    (hok : (runSession (ingestDocument fault bucket file key form userTenant : Task V Nat) c).1 =
      .ok j) :
    (getJobStatus j c.db = .error ⟨404, "Job not found".toList⟩ ∧
      getJobStatus j
          (runSession (ingestDocument fault bucket file key form userTenant : Task V Nat) c).2.db =
        .ok ⟨j, "parse".toList, "queued".toList, 0, none, nextId c.db.documentIds⟩ ∧
      getDocumentStatus (nextId c.db.documentIds) c.db =
        .error ⟨404, "Document not found".toList⟩ ∧
      ∃ r, getDocumentStatus (nextId c.db.documentIds)
          (runSession (ingestDocument fault bucket file key form userTenant : Task V Nat) c).2.db =
          .ok r ∧ r.status = "uploaded".toList ∧
        ⟨j, "parse".toList, "queued".toList, 0, none, nextId c.db.documentIds⟩ ∈ r.jobs) ∧
    ∀ (R : Retrieval.Retriever V) (db : Store V) (query : Str) (top_k rerank_k : Nat)
      (use_rerank : Bool) (ms : List Retrieval.ChunkWithScore),
      Retrieval.HybridRetriever.retrieve R db query top_k rerank_k use_rerank = .ok ms →
      ∀ m ∈ ms, ∃ ch ∈ db.chunks, ch.id = m.chunk_id ∧ ch.document_id = m.doc_id ∧
        ∃ e ∈ db.embeddings, e.chunk_id = ch.id := by
  refine ⟨?_, fun R db query top_k rerank_k use_rerank _ h =>
    Retrieval.retrieve_matches_found_chunks R db query top_k rerank_k use_rerank h⟩
  obtain ⟨rfl, hdb, -⟩ := (ingest_rows fault bucket file key form userTenant c).of_ok hok
  obtain ⟨hjob, hdoc⟩ := status_uploadedStore c.db bucket file key
  rw [hdb]
  exact ⟨getJobStatus_fresh (nextId_not_mem _), hjob,
    getDocumentStatus_fresh (nextId_not_mem _), hdoc⟩

theorem acme_upload_shown_to_every_caller :
    (runSession (ingestDocument noFault "documents".toList
      ⟨some "a.txt".toList, some "text/plain".toList⟩ "k".toList none (some "acme".toList) :
        Task Nat Nat) initial).1 = .ok 1 ∧
    (getJobStatus 1 (initial : World Nat).db = .error ⟨404, "Job not found".toList⟩ ∧
      getJobStatus 1 uploaded.db = .ok ⟨1, "parse".toList, "queued".toList, 0, none, 1⟩ ∧
      getDocumentStatus 1 (initial : World Nat).db = .error ⟨404, "Document not found".toList⟩ ∧
      ∃ r, getDocumentStatus 1 uploaded.db = .ok r ∧ r.status = "uploaded".toList ∧
        ⟨1, "parse".toList, "queued".toList, 0, none, 1⟩ ∈ r.jobs) ∧
    ∀ (R : Retrieval.Retriever Nat) (db : Store Nat) (query : Str) (top_k rerank_k : Nat)
      (use_rerank : Bool) (ms : List Retrieval.ChunkWithScore),
      Retrieval.HybridRetriever.retrieve R db query top_k rerank_k use_rerank = .ok ms →
      ∀ m ∈ ms, ∃ ch ∈ db.chunks, ch.id = m.chunk_id ∧ ch.document_id = m.doc_id ∧
        ∃ e ∈ db.embeddings, e.chunk_id = ch.id := by
  have hok : (runSession (ingestDocument noFault "documents".toList
      ⟨some "a.txt".toList, some "text/plain".toList⟩ "k".toList none (some "acme".toList) :
        Task Nat Nat) initial).1 = .ok 1 := by decide +kernel
  exact ⟨hok, upload_shown_to_every_caller noFault _ _ _ _ _ initial hok⟩

/-- `GET /ingest/1` reads no principal: a caller of tenant `globex` sees the job of an upload by
a user of tenant `acme`. -/
theorem job_status_reveals_other_tenants :
    ¬ ∀ (t u : Str), t ≠ u → ∀ c c' : World Nat, Reachable c → UploadBy u c c' →
      ∀ job_id, getJobStatus job_id c.db = getJobStatus job_id c'.db := by
  intro h
  have hsame := h "globex".toList "acme".toList (by decide) initial uploaded
    Relation.ReflTransGen.refl
    ⟨noFault, "documents".toList, ⟨some "a.txt".toList, some "text/plain".toList⟩, "k".toList,
      none, rfl⟩ 1
  exact absurd hsame (by decide +kernel)

end RagService.Workers
