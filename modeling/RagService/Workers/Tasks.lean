import Mathlib
import RagService.Db.Models
import RagService.Lib.Session
import RagService.Chunking.Pipeline

/-!
# Ingestion: the upload request and the three Celery tasks

`POST /ingest` (`api/routers/ingest.py`, `IngestService.ingest_document`) stores the file,
creates the `Document` row with status `uploaded` and its `parse` job, and queues
`parse_document(document_id, tenant_id)`. The tasks of `workers/tasks/` then chain:

- `parse_document` parses the file into elements, saves them, creates a `chunk` job and queues
  `chunk_document`;
- `chunk_document` builds chunks from the document's elements, saves them, sets the document's
  status to `done`, creates an `embed` job and queues `embed_document`;
- `embed_document` embeds the document's chunks in batches of 64 and upserts the vectors.

Each task runs in its own session and may raise at any step: a failed round trip, a failed
outside call (storage, parser, embedder, broker), or an exception of its own code. Its
`except` block marks its job `error` when `job` is bound and truthy, publishes a `*_failed`
event, and re-raises. The tasks publish job events on `f"{tenant_id}.jobs"` when `tenant_id`
is truthy; `EventBus.publish_event` adds the tenant it reads back from the channel name.

What the code gets from outside is a parameter (`Services`): the page texts of
`pymupdf4llm.to_markdown`, the elements of `unstructured.partition`, the text of the file, the
table elements of `TableParser.extract_tables` (which catches every exception), the vectors of
the embedding provider, the tokenizer and the Unicode classes. The object key of an upload
contains a random `uuid4()` and is an input of the request. Failures are chosen by the
session's fault oracle.
-/

set_option autoImplicit false

namespace RagService.Workers

open PyText Session RagService.Db RagService.Parsing RagService.Chunking

/-! ## Messages and events -/

/-- The three Celery tasks. -/
inductive TaskName where
  | parse
  | chunk
  | embed
  deriving DecidableEq, Repr

/-- `task.apply_async(args=[document_id, tenant_id])`. -/
structure Msg where
  task : TaskName
  document_id : Nat
  tenant_id : Option Str
  deriving DecidableEq, Repr

/-- A job event payload: the keys the tasks write, and the `tenant_id` the bus may add (`ts`,
a timestamp, is left out). -/
structure JobEvent where
  event : Str
  job_id : Nat
  document_id : Nat
  type : Str
  progress : Option Nat
  error : Option Str
  tenant_id : Option Str
  deriving DecidableEq, Repr

/-- A payload published on a Redis channel. -/
structure Published where
  channel : Str
  payload : JobEvent
  deriving DecidableEq, Repr

/-- What the program sends outside: the events it publishes (whether Redis delivers them or
not) and the task messages it queues. -/
structure Outbox where
  events : List Published
  queue : List Msg
  deriving DecidableEq, Repr

namespace EventBus

/-- `topic.split(".")[0] if "." in topic else None`. -/
def topicTenant (topic : Str) : Option Str :=
  if '.' ∈ topic then (topic.splitOn '.').head? else none

/-- `EventBus.publish_event`: add `tenant_id` from the channel name when the payload has none
and the name gives a truthy one, and publish on the channel. -/
def publishEvent (topic : Str) (payload : JobEvent) : Published :=
  match payload.tenant_id, topicTenant topic with
  | none, some t => if t = [] then ⟨topic, payload⟩ else ⟨topic, { payload with tenant_id := some t }⟩
  | _, _ => ⟨topic, payload⟩

/-- Publishing sends the payload on the channel, with at most its `tenant_id` changed. -/
theorem publishEvent_eq (topic : Str) (payload : JobEvent) :
    publishEvent topic payload =
      ⟨topic, { payload with tenant_id := (publishEvent topic payload).payload.tenant_id }⟩ := by
  unfold publishEvent
  split
  · split <;> rfl
  · rfl

end EventBus

/-- `publish_event_sync`, which never raises. -/
def publishEventSync (topic : Str) (payload : JobEvent) (o : Outbox) : Outbox :=
  { o with events := o.events ++ [EventBus.publishEvent topic payload] }

/-! ## The tasks' world -/

/-- What the tasks get from outside, per object key. -/
structure Services (V : Type) where
  bucket : Str
  toMarkdown : Str → Except Exc (List (Option Str))
  partition : Str → Except Exc (List OfficeParser.RawElement)
  readText : Str → Except Exc Str
  extractTables : Str → Str → List ElementData
  embedTexts : List Str → Except Exc (List V)
  dim : V → Nat
  provider : Str
  cc : CharClasses
  tok : Tokenizer
  /-- `int((processed / total_chunks) * 100)`, computed in floating point. -/
  percent : Nat → Nat → Nat

/-- The error a round trip raises after a failed one, until the session is rolled back. -/
def pendingRollbackError : Exc :=
  ⟨"PendingRollbackError".toList,
    "This Session's transaction has been rolled back due to a previous exception during flush.".toList⟩

/-- The database environment with a fault oracle. -/
def dbEnv (V : Type) (fault : Nat → Option Exc) : Env (Store V) (Change V) Exc :=
  ⟨Store.apply, fault, pendingRollbackError⟩

/-- Programs of the tasks and the request. -/
abbrev Task (V : Type) := M (Store V) (Change V) Outbox Exc

variable {V : Type}

/-- The `if` on a value that may be `None`. -/
def whenSome {α : Type} (o : Option α) (body : α → Task V Unit) : Task V Unit :=
  match o with
  | some a => body a
  | none => pure ()

/-- Python truthiness of an optional string. -/
def truthy : Option Str → Bool
  | some s => !s.isEmpty
  | none => false

/-- The channel of a tenant's job events, `f"{tenant_id}.jobs"`. -/
def jobsChannel (t : Str) : Str := t ++ ".jobs".toList

/-- `if tenant_id: publish_event_sync(f"{tenant_id}.jobs", payload)`. -/
def notify (tenant_id : Option Str) (payload : JobEvent) : Task V Unit :=
  match tenant_id with
  | some t => if t = [] then pure () else send (publishEventSync (jobsChannel t) payload)
  | none => pure ()

/-- `if tenant_id: publish_event_sync(..., {"job_id": job.id, ...})` where `job` may be missing:
reading its id then raises `missing`. -/
def notifyWithJob (tenant_id : Option Str) (job : Option Job) (missing : Exc)
    (payload : Job → JobEvent) : Task V Unit :=
  if truthy tenant_id then
    match job with
    | some j => notify tenant_id (payload j)
    | none => throw missing
  else pure ()

/-- `task.apply_async(...)`: a call to the broker, which may fail, then the queued message. -/
def enqueue (E : Env (Store V) (Change V) Exc) (m : Msg) : Task V Unit := do
  call E (.ok ())
  send fun o => { o with queue := o.queue ++ [m] }

/-- A new job row, with the next id of the view. -/
def newJob (d : Nat) (type status : Str) (db : Store V) : Change V :=
  .insertJob ⟨nextId (db.jobs.map (·.id)), type, status, 0, none, d⟩

/-- `UnboundLocalError` of reading `job` in an `except` block entered before `job` was
assigned. -/
def unboundJobError : Exc :=
  ⟨"UnboundLocalError".toList,
    "cannot access local variable 'job' where it is not associated with a value".toList⟩

/-- `job.id` on `job = None`. -/
def noneIdError : Exc := ⟨"AttributeError".toList, "'NoneType' object has no attribute 'id'".toList⟩

/-- `f"Document {document_id} not found"`. -/
def notFoundMessage (document_id : Nat) : Str :=
  "Document ".toList ++ Nat.toDigits 10 document_id ++ " not found".toList

/-- Read the document and the first job of a type; an exception here reaches the task's
`except` block with `job` unbound, where reading `job` raises. -/
def lookup (E : Env (Store V) (Change V) Exc) (notFound : Nat → Exc) (document_id : Nat)
    (type : Str) : Task V (Document × Option Job) :=
  tryCatch
    (do
      let document ← query E (·.document document_id)
      match document with
      | none => throw (notFound document_id)
      | some document =>
        let job ← query E (·.firstJob document_id type)
        pure (document, job))
    (fun _ => throw unboundJobError)

/-- The `except` block of `parse_document` and `chunk_document`: mark a bound, truthy `job`
`error` with the message, publish the failure event, re-raise. -/
def markFailed (E : Env (Store V) (Change V) Exc) (event type : Str) (document_id : Nat)
    (tenant_id : Option Str) (job : Option Job) (e : Exc) : Task V Unit := do
  whenSome job fun j => do
    add E fun _ => .setJobStatus j.id "error".toList
    add E fun _ => .setJobError j.id e.message
    commit E
    notify tenant_id ⟨event, j.id, document_id, type, none, some e.message, none⟩
  throw e

/-- `job.status = status; job.progress = progress; db.commit()` and its event, under
`if job:`. -/
def advance (E : Env (Store V) (Change V) Exc) (job : Option Job) (status : Option Str)
    (progress : Nat) (tenant_id : Option Str) (event : Job → JobEvent) : Task V Unit :=
  whenSome job fun j => do
    whenSome status fun s => add E fun _ => .setJobStatus j.id s
    add E fun _ => .setJobProgress j.id progress
    commit E
    notify tenant_id (event j)

/-! ## `parse_document` -/

/-- The parser the MIME type selects; the file is a temporary path with no suffix, so the
office parser never takes its `.txt` branch. -/
def parseFile (S : Services V) (key mime : Str) : Except Exc (List ElementData) :=
  if mime = "application/pdf".toList then PDFParser.parseToElements S.cc (S.toMarkdown key)
  else OfficeParser.parseToElements S.cc false (S.partition key) (S.readText key)

/-- An `Element` row for a parsed element. -/
def newElement (document_id : Nat) (e : ElementData) (db : Store V) : Change V :=
  .insertElement ⟨nextId (db.elements.map (·.id)), document_id, e.type, e.page, e.table_id, e.text⟩

/-- A parse event. -/
def parseEvent (event : Str) (document_id : Nat) (progress : Nat) (j : Job) : JobEvent :=
  ⟨event, j.id, document_id, "parse".toList, some progress, none, none⟩

/-- The body of `parse_document` after the document and its job are read. -/
def parseSteps (E : Env (Store V) (Change V) Exc) (S : Services V) (document_id : Nat)
    (tenant_id : Option Str) (document : Document) (job : Option Job) : Task V Unit := do
  advance E job (some "running".toList) 10 tenant_id (parseEvent "parse_started".toList document_id 10)
  let key := replace ("s3://".toList ++ S.bucket ++ "/".toList) [] document.storage_uri
  -- `storage.get_file(key, temp_file.name)`
  call E (.ok ())
  let parsed ← MonadExcept.ofExcept (parseFile S key document.mime)
  advance E job none 50 tenant_id (parseEvent "parse_progress".toList document_id 50)
  let elements := parsed ++ S.extractTables key document.mime
  elements.forM fun e => add E (newElement document_id e)
  commit E
  advance E job none 70 tenant_id (parseEvent "parse_progress".toList document_id 70)
  add E (newJob document_id "chunk".toList "queued".toList)
  commit E
  whenSome job fun j => do
    add E fun _ => .setJobStatus j.id "done".toList
    add E fun _ => .setJobProgress j.id 100
    commit E
  -- the `parse_done` event stands outside `if job:`, so a missing job raises here
  notifyWithJob tenant_id job noneIdError (parseEvent "parse_done".toList document_id 100)
  enqueue E ⟨.chunk, document_id, tenant_id⟩

/-- `parse_document(document_id, tenant_id)`. -/
def parseDocument (fault : Nat → Option Exc) (S : Services V) (document_id : Nat)
    (tenant_id : Option Str) : Task V Unit := do
  let E := dbEnv V fault
  let (document, job) ← lookup E (fun d => Exc.exception (notFoundMessage d)) document_id
    "parse".toList
  tryCatch (parseSteps E S document_id tenant_id document job)
    (markFailed E "parse_failed".toList "parse".toList document_id tenant_id job)

/-! ## `chunk_document` -/

/-- The element dict `chunk_document` builds from a row. -/
def Element.toData (e : Element) : ElementData := ⟨some e.id, e.type, e.text, e.page, e.table_id⟩

/-- A `Chunk` row for a chunk dict. -/
def newChunk (document_id : Nat) (c : ChunkData) (db : Store V) : Change V :=
  .insertChunk ⟨nextId (db.chunks.map (·.id)), document_id, c.element_id, c.level, c.header_path,
    c.text, c.token_count, c.page, c.table_meta⟩

/-- A chunk event. -/
def chunkEvent (event : Str) (document_id : Nat) (progress : Option Nat) (j : Job) : JobEvent :=
  ⟨event, j.id, document_id, "chunk".toList, progress, none, none⟩

/-- The body of `chunk_document` after the document and its job are read. -/
def chunkSteps (E : Env (Store V) (Change V) Exc) (S : Services V) (document_id : Nat)
    (tenant_id : Option Str) (document : Document) (job : Option Job) : Task V Unit := do
  advance E job (some "running".toList) 70 tenant_id (chunkEvent "job_started".toList document_id none)
  let elements ← query E (·.documentElements document_id)
  let chunks ← MonadExcept.ofExcept
    (ChunkingPipeline.buildChunks S.cc S.tok (elements.map Element.toData))
  advance E job none 85 tenant_id (chunkEvent "job_progress".toList document_id (some 85))
  chunks.forM fun c => add E (newChunk document_id c)
  commit E
  add E fun _ => .setDocumentStatus document.id "done".toList
  commit E
  advance E job (some "done".toList) 100 tenant_id (chunkEvent "chunk_done".toList document_id (some 100))
  add E (newJob document_id "embed".toList "queued".toList)
  commit E
  enqueue E ⟨.embed, document_id, tenant_id⟩

/-- `chunk_document(document_id, tenant_id)`. -/
def chunkDocument (fault : Nat → Option Exc) (S : Services V) (document_id : Nat)
    (tenant_id : Option Str) : Task V Unit := do
  let E := dbEnv V fault
  let (document, job) ← lookup E (fun d => Exc.exception (notFoundMessage d)) document_id
    "chunk".toList
  tryCatch (chunkSteps E S document_id tenant_id document job)
    (markFailed E "chunk_failed".toList "chunk".toList document_id tenant_id job)

/-! ## `embed_document` and the upsert -/

namespace PGVectorIndex

/-- The columns the upsert's `ON CONFLICT (chunk_id) DO UPDATE SET` assigns. -/
def upsertSetColumns : List Str := ["vector".toList, "provider".toList, "updated_at".toList]

/-- A column the statement assigns that the table lacks; Postgres rejects the statement when
it analyses it, before looking at any row. -/
def upsertMissingColumn : Option Str := upsertSetColumns.find? (· ∉ Embedding.columns)

/-- `upsert_embeddings`: one execution of the statement per row in a session of its own, then
a commit. It sends nothing, so any task may call it. -/
def upsertEmbeddings {ω : Type} (E : Env (Store V) (Change V) Exc) (chunk_ids : List Nat)
    (vectors : List V) (provider : Str) : M (Store V) (Change V) ω Exc Unit :=
  if chunk_ids.length ≠ vectors.length then
    throw ⟨"ValueError".toList, "Number of chunk_ids must match number of vectors".toList⟩
  else
    let rows := (chunk_ids.zip vectors).map fun p => (⟨p.1, p.2, provider⟩ : Embedding V)
    match rows, upsertMissingColumn with
    | _ :: _, some col =>
      call E (.error ⟨"UndefinedColumn".toList, "column \"".toList ++ col ++
        "\" of relation \"embeddings\" does not exist".toList⟩)
    | _, _ => callCommit E (rows.map .upsertEmbedding)

end PGVectorIndex

/-- An embed event. -/
def embedEvent (event : Str) (document_id : Nat) (progress : Nat) (j : Job) : JobEvent :=
  ⟨event, j.id, document_id, "embed".toList, some progress, none, none⟩

/-- `embeddings.shape == (len(batch_chunks), 1024)`. -/
def shapeOk (S : Services V) (n : Nat) (vectors : List V) : Bool :=
  vectors.length = n && vectors.all fun v => S.dim v = 1024

/-- The shape numpy prints for the returned vectors, read off the first one. -/
def shapeText (S : Services V) (vectors : List V) : Str :=
  match vectors with
  | [] => "(0,)".toList
  | v :: _ => "(".toList ++ Nat.toDigits 10 vectors.length ++ ", ".toList ++ Nat.toDigits 10 (S.dim v) ++
      ")".toList

/-- One batch of the loop, starting at chunk `i`. -/
def embedBatch (E : Env (Store V) (Change V) Exc) (S : Services V) (document_id : Nat)
    (tenant_id : Option Str) (job : Job) (chunks : List Chunk) (i : Nat) : Task V Unit := do
  let batch := Batches.slice chunks i 64
  let vectors ← call E (S.embedTexts (batch.map (·.text)))
  if shapeOk S batch.length vectors then
    PGVectorIndex.upsertEmbeddings E (batch.map (·.id)) vectors S.provider
    let progress := S.percent (i + batch.length) chunks.length
    add E fun _ => .setJobProgress job.id progress
    commit E
    notify tenant_id (embedEvent "embed_progress".toList document_id progress job)
  else
    throw ⟨"ValueError".toList, "Embedding shape mismatch: ".toList ++ shapeText S vectors ++
      " != (".toList ++ Nat.toDigits 10 batch.length ++ ", 1024)".toList⟩

/-- `embed_document` once `job` holds a job: the chunks in batches of 64, then `done`. -/
def embedSteps (E : Env (Store V) (Change V) Exc) (S : Services V) (document_id : Nat)
    (tenant_id : Option Str) (job : Job) : Task V Unit := do
  notify tenant_id (embedEvent "embed_started".toList document_id 0 job)
  let chunks ← query E (·.documentChunks document_id)
  if chunks = [] then
    add E fun _ => .setJobStatus job.id "done".toList
    add E fun _ => .setJobProgress job.id 100
    commit E
  else
    (Batches.pyRange 0 chunks.length 64).forM (embedBatch E S document_id tenant_id job chunks)
    add E fun _ => .setJobStatus job.id "done".toList
    add E fun _ => .setJobProgress job.id 100
    commit E
    notify tenant_id (embedEvent "embed_done".toList document_id 100 job)

/-- The `except` block of `embed_document`: mark the job `error` if `job` is bound, publish
`embed_failed` (reading `job.id` even when `job` is unbound), re-raise. -/
def embedFailed {α : Type} (E : Env (Store V) (Change V) Exc) (document_id : Nat)
    (tenant_id : Option Str) (job : Option Job) (e : Exc) : Task V α := do
  whenSome job fun j => do
    add E fun _ => .setJobStatus j.id "error".toList
    add E fun _ => .setJobError j.id e.message
    commit E
  notifyWithJob tenant_id job unboundJobError fun j =>
    ⟨"embed_failed".toList, j.id, document_id, "embed".toList, none, some e.message, none⟩
  throw e

/-- The embed job: the first one of the document, set `running`, or a new `running` one. The
`job` variable holds it from its first assignment, so a failure here reaches the `except`
block with `job` bound. -/
def ensureEmbedJob (E : Env (Store V) (Change V) Exc) (document_id : Nat)
    (tenant_id : Option Str) (found : Option Job) : Task V Job :=
  match found with
  | some j =>
    tryCatch
      (do
        add E fun _ => .setJobStatus j.id "running".toList
        add E fun _ => .setJobProgress j.id 0
        commit E
        pure { j with status := "running".toList, progress := 0 })
      (embedFailed E document_id tenant_id (some j))
  | none => do
    let id := nextId (((← get).view E.apply).jobs.map (·.id))
    let fresh : Job := ⟨id, "embed".toList, "running".toList, 0, none, document_id⟩
    tryCatch
      (do
        add E fun _ => .insertJob fresh
        commit E
        -- `session.refresh(job)`
        let j ← query E (·.job id)
        match j with
        | some j => pure j
        | none => throw ⟨"InvalidRequestError".toList, "Could not refresh instance".toList⟩)
      (embedFailed E document_id tenant_id (some fresh))

/-- `embed_document(document_id, tenant_id)`. Until the embed job is read, an exception
reaches the `except` block with `job` unbound. -/
def embedDocument (fault : Nat → Option Exc) (S : Services V) (document_id : Nat)
    (tenant_id : Option Str) : Task V Unit := do
  let E := dbEnv V fault
  let found ← tryCatch
    (do
      let document ← query E (·.document document_id)
      match document with
      | none => throw ⟨"ValueError".toList, notFoundMessage document_id⟩
      | some _ => query E (·.firstJob document_id "embed".toList))
    (embedFailed E document_id tenant_id none)
  let job ← ensureEmbedJob E document_id tenant_id found
  tryCatch (embedSteps E S document_id tenant_id job)
    (embedFailed E document_id tenant_id (some job))

/-! ## The upload -/

/-- An uploaded file: its name and content type. -/
structure UploadFile where
  filename : Option Str
  content_type : Option Str
  deriving DecidableEq, Repr

/-- `ObjectStore.put_file`: the upload, which may fail, and its URI. -/
def putFile (E : Env (Store V) (Change V) Exc) (bucket key : Str) : Task V Str := do
  call E (.ok ())
  pure ("s3://".toList ++ bucket ++ "/".toList ++ key)

namespace IngestService

/-- `IngestService.ingest_document`: store the file under `key`, create the document and its
parse job, queue `parse_document`, return the job id. -/
def ingestDocument (E : Env (Store V) (Change V) Exc) (bucket : Str) (file : UploadFile)
    (key : Str) (tenant_id : Option Str) : Task V Nat := do
  let storage_uri ← putFile E bucket key
  let document_id := nextId (((← get).view E.apply).documents.map (·.id))
  add E fun _ => .insertDocument ⟨document_id, file.filename.getD "unknown".toList,
    file.content_type.getD "application/octet-stream".toList, storage_uri, "uploaded".toList⟩
  -- `self.db.flush()`
  roundTrip E
  let job_id := nextId (((← get).view E.apply).jobs.map (·.id))
  add E (newJob document_id "parse".toList "queued".toList)
  commit E
  enqueue E ⟨.parse, document_id, tenant_id⟩
  pure job_id

end IngestService

/-- The content types `POST /ingest` accepts. -/
def allowedTypes : List Str :=
  ["application/pdf".toList,
    "application/vnd.openxmlformats-officedocument.wordprocessingml.document".toList,
    "text/markdown".toList, "text/html".toList, "text/plain".toList,
    "application/vnd.openxmlformats-officedocument.spreadsheetml.sheet".toList, "text/csv".toList]

/-- `f"Unsupported file type: {file.content_type}. Supported types: {allowed_types}"`. -/
def unsupportedDetail (contentType : Str) : Str :=
  "Unsupported file type: ".toList ++ contentType ++ ". Supported types: [".toList ++
    ", ".toList.intercalate (allowedTypes.map fun t => '\'' :: (t ++ ['\''])) ++ "]".toList

/-- The tenant the request ingests for: the form's `tenant_id` when truthy, else the
authenticated user's. -/
def requestTenant (form : Option Str) (userTenant : Option Str) : Option Str :=
  if truthy form then form else userTenant

/-- `POST /ingest` for an authenticated user whose tenant is `userTenant`; a rejected content
type is an `HTTPException` with status 400. -/
def ingestDocument (fault : Nat → Option Exc) (bucket : Str) (file : UploadFile) (key : Str)
    (form : Option Str) (userTenant : Option Str) : Task V Nat := do
  let E := dbEnv V fault
  let tenant_id := requestTenant form userTenant
  match file.content_type with
  | some t =>
    if t ∈ allowedTypes then IngestService.ingestDocument E bucket file key tenant_id
    else throw ⟨"HTTPException".toList, unsupportedDetail t⟩
  | none => throw ⟨"HTTPException".toList, unsupportedDetail "None".toList⟩

/-- The task a message runs. -/
def runMsg (fault : Nat → Option Exc) (S : Services V) (m : Msg) : Task V Unit :=
  match m.task with
  | .parse => parseDocument fault S m.document_id m.tenant_id
  | .chunk => chunkDocument fault S m.document_id m.tenant_id
  | .embed => embedDocument fault S m.document_id m.tenant_id

end RagService.Workers
