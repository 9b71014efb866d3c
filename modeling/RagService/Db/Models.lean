import RagService.Chunking.Pipeline
import RagService.Lib.Runs

/-!
# The database: rows of `db/models.py` and the changes the program makes

The five tables the ingestion pipeline and the search read and write, with the columns the
modelled code reads or writes (timestamps, `bbox` and the `users`, `answer_logs` and `api_keys`
tables are left out here). Ids are the `SERIAL` keys: a new row gets one more than the largest
id of its table. The vector of an embedding is a parameter type `V`.

A session changes the store by `Change`s: the inserts of `session.add(...)`, the attribute
assignments on loaded rows, and the rows of the raw `INSERT ... ON CONFLICT (chunk_id) DO
UPDATE` of `PGVectorIndex.upsert_embeddings`. `Db.apply` is how a committed change acts.

The table definitions themselves matter to one statement: the upsert's `DO UPDATE SET` names a
column `updated_at` that `Embedding` does not have (`Embedding.columns`).
-/

set_option autoImplicit false

namespace RagService.Db

open PyText RagService.Chunking

/-- A `documents` row. `status` is a free string column. -/
structure Document where
  id : Nat
  name : Str
  mime : Str
  storage_uri : Str
  status : Str
  deriving DecidableEq, Repr

/-- A `jobs` row. -/
structure Job where
  id : Nat
  type : Str
  status : Str
  progress : Nat
  error : Option Str
  document_id : Nat
  deriving DecidableEq, Repr

/-- An `elements` row (`bbox` left out: no modelled code reads it). -/
structure Element where
  id : Nat
  document_id : Nat
  type : Str
  page : Option Nat
  table_id : Option Str
  text : Str
  deriving DecidableEq, Repr

/-- A `chunks` row. -/
structure Chunk where
  id : Nat
  document_id : Nat
  element_id : Option Nat
  level : Str
  header_path : List Str
  text : Str
  token_count : Nat
  page : Option Nat
  table_meta : Option TableMeta
  deriving DecidableEq, Repr

/-- An `embeddings` row, keyed by `chunk_id`. -/
structure Embedding (V : Type) where
  chunk_id : Nat
  vector : V
  provider : Str
  deriving DecidableEq, Repr

/-- The columns of the `embeddings` table, as `Embedding` and its migration declare them. -/
def Embedding.columns : List Str :=
  ["chunk_id".toList, "vector".toList, "provider".toList, "created_at".toList]

/-- The tables, each in insertion order. -/
structure Store (V : Type) where
  documents : List Document
  jobs : List Job
  elements : List Element
  chunks : List Chunk
  embeddings : List (Embedding V)
  deriving DecidableEq, Repr

/-- The empty database. -/
def Store.empty {V : Type} : Store V := ⟨[], [], [], [], []⟩

/-- The next value of a `SERIAL` key: one more than the largest id. -/
def nextId (ids : List Nat) : Nat := ids.foldr max 0 + 1

theorem lt_nextId {ids : List Nat} {i : Nat} (h : i ∈ ids) : i < nextId ids := by
  unfold nextId
  induction ids with
  | nil => simp at h
  | cons a ids ih =>
    rcases List.mem_cons.1 h with rfl | h
    · simp only [List.foldr_cons]
      omega
    · have := ih h
      simp only [List.foldr_cons]
      omega

/-- A new key is not a key of the table. -/
theorem nextId_not_mem (ids : List Nat) : nextId ids ∉ ids :=
  fun h => Nat.lt_irrefl _ (lt_nextId h)

/-- What a session can do to the store. -/
inductive Change (V : Type) where
  | insertDocument (row : Document)
  | insertJob (row : Job)
  | insertElement (row : Element)
  | insertChunk (row : Chunk)
  | setJobStatus (id : Nat) (status : Str)
  | setJobProgress (id : Nat) (progress : Nat)
  | setJobError (id : Nat) (error : Str)
  | setDocumentStatus (id : Nat) (status : Str)
  | upsertEmbedding (row : Embedding V)

variable {V : Type}

/-- Update the row with id `i` of a table. -/
def updateWhere {α : Type} (key : α → Nat) (i : Nat) (f : α → α) (rows : List α) : List α :=
  rows.map fun r => if key r = i then f r else r

/-- An update leaves whatever `g` reads of a row when it leaves it for every row. -/
theorem map_updateWhere {α β : Type} {key : α → Nat} {i : Nat} {f : α → α} {g : α → β}
    (hf : ∀ r, g (f r) = g r) (rows : List α) : (updateWhere key i f rows).map g = rows.map g := by
  simp only [updateWhere, List.map_map]
  congr 1
  funext r
  simp only [Function.comp_apply]
  split
  · exact hf r
  · rfl

/-- An update that keeps what `p` reads finds the row found before, updated if it has the
key. -/
theorem find?_updateWhere {α : Type} {key : α → Nat} {i : Nat} {f : α → α} {p : α → Bool}
    (hf : ∀ r, p (f r) = p r) (rows : List α) :
    (updateWhere key i f rows).find? p = (rows.find? p).map fun r => if key r = i then f r else r := by
  have hp : (p ∘ fun r => if key r = i then f r else r) = p := by
    funext r
    simp only [Function.comp_apply]
    split
    · exact hf r
    · rfl
  rw [updateWhere, List.find?_map, hp]

/-- A property of every row that the update keeps holds of every row after it. -/
theorem forall_mem_updateWhere {α : Type} {key : α → Nat} {i : Nat} {f : α → α} {p : α → Prop}
    {rows : List α} (h : ∀ r ∈ rows, p r) (hf : ∀ r, p r → p (f r)) :
    ∀ r ∈ updateWhere key i f rows, p r := by
  intro r hr
  obtain ⟨r₀, h₀, rfl⟩ := List.mem_map.1 hr
  split
  · exact hf r₀ (h r₀ h₀)
  · exact h r₀ h₀

/-- A row before an update is there after it, updated if it has the key. -/
theorem mem_updateWhere_of_mem {α : Type} {key : α → Nat} {i : Nat} (f : α → α) {rows : List α}
    {r : α} (h : r ∈ rows) : (if key r = i then f r else r) ∈ updateWhere key i f rows :=
  List.mem_map_of_mem h

/-- `INSERT ... ON CONFLICT (chunk_id) DO UPDATE SET vector, provider`. -/
def upsertRow (row : Embedding V) (rows : List (Embedding V)) : List (Embedding V) :=
  if rows.any (·.chunk_id = row.chunk_id) then
    updateWhere (·.chunk_id) row.chunk_id
      (fun e => { e with vector := row.vector, provider := row.provider }) rows
  else rows ++ [row]

/-- A committed change. -/
def Store.apply (db : Store V) : Change V → Store V
  | .insertDocument r => { db with documents := db.documents ++ [r] }
  | .insertJob r => { db with jobs := db.jobs ++ [r] }
  | .insertElement r => { db with elements := db.elements ++ [r] }
  | .insertChunk r => { db with chunks := db.chunks ++ [r] }
  | .setJobStatus i s => { db with jobs := updateWhere (·.id) i (fun j => { j with status := s }) db.jobs }
  | .setJobProgress i p =>
      { db with jobs := updateWhere (·.id) i (fun j => { j with progress := p }) db.jobs }
  | .setJobError i e =>
      { db with jobs := updateWhere (·.id) i (fun j => { j with error := some e }) db.jobs }
  | .setDocumentStatus i s =>
      { db with documents := updateWhere (·.id) i (fun d => { d with status := s }) db.documents }
  | .upsertEmbedding r => { db with embeddings := upsertRow r db.embeddings }

/-! ## Queries -/

/-- The keys of the `documents` table. -/
def Store.documentIds (db : Store V) : List Nat := db.documents.map (·.id)

/-- `query(Document).filter(Document.id == i).first()`. -/
def Store.document (db : Store V) (i : Nat) : Option Document := db.documents.find? (·.id = i)

/-- `query(Job).filter(Job.id == i).first()`. -/
def Store.job (db : Store V) (i : Nat) : Option Job := db.jobs.find? (·.id = i)

/-- `query(Job).filter(Job.document_id == d, Job.type == type).first()`: with no `ORDER BY`,
the model takes the first in table order. -/
def Store.firstJob (db : Store V) (d : Nat) (type : Str) : Option Job :=
  db.jobs.find? fun j => j.document_id = d ∧ j.type = type

/-- `query(Job).filter(Job.document_id == d).all()`. -/
def Store.documentJobs (db : Store V) (d : Nat) : List Job := db.jobs.filter (·.document_id = d)

/-- `query(Element).filter(Element.document_id == d).all()`. -/
def Store.documentElements (db : Store V) (d : Nat) : List Element :=
  db.elements.filter (·.document_id = d)

/-- `query(Chunk).filter(Chunk.document_id == d).all()`. -/
def Store.documentChunks (db : Store V) (d : Nat) : List Chunk :=
  db.chunks.filter (·.document_id = d)

/-- The chunk with id `i`: an entry of the `chunk_map` that `query(Chunk).filter(Chunk.id.in_(
chunk_ids))` builds. -/
def Store.chunk (db : Store V) (i : Nat) : Option Chunk := db.chunks.find? (·.id = i)

theorem Store.chunk_spec {db : Store V} {i : Nat} {ch : Chunk} (h : db.chunk i = some ch) :
    ch ∈ db.chunks ∧ ch.id = i := by
  unfold Store.chunk at h
  have hid := List.find?_some h
  exact ⟨List.mem_of_find?_eq_some h, by simpa using hid⟩

/-! ## Frame lemmas: what each change leaves alone -/

/-- The changes that write the `documents` table. -/
def Change.touchesDocuments : Change V → Bool
  | .insertDocument _ | .setDocumentStatus _ _ => true
  | _ => false

/-- A change to another table leaves the documents alone. -/
theorem apply_documents_of_untouched {db : Store V} {x : Change V}
    (h : x.touchesDocuments = false) : (db.apply x).documents = db.documents := by
  cases x with
  | insertDocument r => simp [Change.touchesDocuments] at h
  | setDocumentStatus i s => simp [Change.touchesDocuments] at h
  | _ => rfl

/-- So does a sequence of them. -/
theorem foldl_apply_documents {db : Store V} {xs : List (Change V)}
    (h : ∀ x ∈ xs, x.touchesDocuments = false) :
    (xs.foldl Store.apply db).documents = db.documents :=
  Runs.foldl_invariant Store.apply (fun db' => db'.documents = db.documents) xs
    (fun _ x hx hs => (apply_documents_of_untouched (h x hx)).trans hs) db rfl

/-- No change removes a document or changes its key. -/
theorem mem_documentIds_apply {db : Store V} {i : Nat} (x : Change V)
    (h : i ∈ db.documentIds) : i ∈ (db.apply x).documentIds := by
  cases x with
  | insertDocument r => simp [Store.documentIds, Store.apply] at h ⊢; exact Or.inl h
  | setDocumentStatus j s =>
    -- the status update keeps every row's key
    have hkeys : (updateWhere (·.id) j (fun d => { d with status := s }) db.documents).map (·.id) =
        db.documents.map (·.id) := map_updateWhere (fun _ => by rfl) _
    simpa [Store.documentIds, Store.apply, hkeys] using h
  | _ => exact h

theorem mem_documentIds_foldl {db : Store V} {i : Nat} (xs : List (Change V))
    (h : i ∈ db.documentIds) : i ∈ (xs.foldl Store.apply db).documentIds :=
  Runs.foldl_invariant Store.apply (fun db' => i ∈ db'.documentIds) xs
    (fun _ x _ hs => mem_documentIds_apply x hs) db h

/-- A key of the `documents` table names a row that the lookup by id finds. -/
theorem document_of_mem_documentIds {db : Store V} {i : Nat} (h : i ∈ db.documentIds) :
    ∃ doc, db.document i = some doc ∧ doc.id = i := by
  obtain ⟨row, hrow, rfl⟩ := List.mem_map.1 h
  have hsome : (db.document row.id).isSome := List.find?_isSome.2 ⟨row, hrow, by simp⟩
  obtain ⟨doc, hfind⟩ := Option.isSome_iff_exists.1 hsome
  exact ⟨doc, hfind, by simpa using List.find?_some hfind⟩

/-- The element row a change inserts, if it inserts one. -/
def Change.newElement? : Change V → Option Element
  | .insertElement r => some r
  | _ => none

/-- The chunk row a change inserts, if it inserts one. -/
def Change.newChunk? : Change V → Option Chunk
  | .insertChunk r => some r
  | _ => none

/-- Elements are only ever appended. -/
theorem elements_apply (db : Store V) (x : Change V) :
    (db.apply x).elements = db.elements ++ x.newElement?.toList := by
  cases x <;> simp [Store.apply, Change.newElement?]

/-- Chunks are only ever appended. -/
theorem chunks_apply (db : Store V) (x : Change V) :
    (db.apply x).chunks = db.chunks ++ x.newChunk?.toList := by
  cases x <;> simp [Store.apply, Change.newChunk?]

theorem elements_foldl (db : Store V) (xs : List (Change V)) :
    (xs.foldl Store.apply db).elements = db.elements ++ xs.filterMap Change.newElement? := by
  induction xs generalizing db with
  | nil => simp
  | cons x xs ih =>
    rw [List.foldl_cons, ih, elements_apply, List.filterMap_cons]
    cases x.newElement? <;> simp

theorem chunks_foldl (db : Store V) (xs : List (Change V)) :
    (xs.foldl Store.apply db).chunks = db.chunks ++ xs.filterMap Change.newChunk? := by
  induction xs generalizing db with
  | nil => simp
  | cons x xs ih =>
    rw [List.foldl_cons, ih, chunks_apply, List.filterMap_cons]
    cases x.newChunk? <;> simp

/-! ## What the tasks add to

A task run inserts element, chunk and job rows and updates the status, progress and error of
jobs and the status of documents. `Store.shape` is what the inserts change and the updates
leave alone: the element and chunk rows, and the key columns of the jobs. -/

/-- The key columns of a job: its id, type and document. -/
def Job.key (j : Job) : Nat × Str × Nat := (j.id, j.type, j.document_id)

/-- The element and chunk rows and the jobs' keys. -/
structure Shape where
  elements : List Element
  chunks : List Chunk
  jobKeys : List (Nat × Str × Nat)
  deriving DecidableEq, Repr

def Store.shape (db : Store V) : Shape := ⟨db.elements, db.chunks, db.jobs.map Job.key⟩

/-- The changes that only update columns of existing rows. -/
def Change.isUpdate : Change V → Bool
  | .setJobStatus _ _ | .setJobProgress _ _ | .setJobError _ _ | .setDocumentStatus _ _ => true
  | _ => false

theorem shape_apply_update {db : Store V} {x : Change V} (hx : x.isUpdate = true) :
    (db.apply x).shape = db.shape := by
  cases x with
  | setJobStatus i s =>
    simp only [Store.shape, Store.apply, Shape.mk.injEq, true_and]
    exact map_updateWhere (fun _ => by rfl) _
  | setJobProgress i p =>
    simp only [Store.shape, Store.apply, Shape.mk.injEq, true_and]
    exact map_updateWhere (fun _ => by rfl) _
  | setJobError i e =>
    simp only [Store.shape, Store.apply, Shape.mk.injEq, true_and]
    exact map_updateWhere (fun _ => by rfl) _
  | setDocumentStatus i s => rfl
  | _ => simp [Change.isUpdate] at hx

@[simp] theorem shape_insertElement (db : Store V) (r : Element) :
    (db.apply (.insertElement r)).shape = ⟨db.shape.elements ++ [r], db.shape.chunks, db.shape.jobKeys⟩ :=
  rfl

@[simp] theorem shape_insertChunk (db : Store V) (r : Chunk) :
    (db.apply (.insertChunk r)).shape = ⟨db.shape.elements, db.shape.chunks ++ [r], db.shape.jobKeys⟩ :=
  rfl

@[simp] theorem shape_insertJob (db : Store V) (j : Job) :
    (db.apply (.insertJob j)).shape =
      ⟨db.shape.elements, db.shape.chunks, db.shape.jobKeys ++ [j.key]⟩ := by
  simp [Store.shape, Store.apply]

/-- The job ids are read off the keys. -/
theorem jobIds_eq_shape (db : Store V) : db.jobs.map (·.id) = db.shape.jobKeys.map (·.1) := by
  simp [Store.shape, Job.key]

/-! ## The first job of a type -/

/-- The id of the first job of `d` of a type, read off the jobs' keys. -/
def Shape.firstJobId (s : Shape) (d : Nat) (type : Str) : Option Nat :=
  (s.jobKeys.find? fun k => k.2.2 = d ∧ k.2.1 = type).map (·.1)

theorem firstJobId_shape (db : Store V) (d : Nat) (type : Str) :
    db.shape.firstJobId d type = (db.firstJob d type).map (·.id) := by
  simp only [Shape.firstJobId, Store.shape, Store.firstJob, List.find?_map, Option.map_map]
  rfl

/-- No change moves the first job of a type: the updates keep the jobs' keys, and an inserted
job goes last. -/
theorem firstJobId_apply {db : Store V} {d i : Nat} {type : Str}
    (h : db.shape.firstJobId d type = some i) (x : Change V) :
    (db.apply x).shape.firstJobId d type = some i := by
  cases x with
  | insertJob r =>
    unfold Shape.firstJobId at h ⊢
    obtain ⟨k, hk, rfl⟩ := Option.map_eq_some_iff.mp h
    simp only [shape_insertJob, List.find?_append, hk, Option.some_or, Option.map_some]
  | setJobStatus k s => rwa [shape_apply_update rfl]
  | setJobProgress k p => rwa [shape_apply_update rfl]
  | setJobError k e => rwa [shape_apply_update rfl]
  | _ => exact h

theorem firstJob_setJobStatus {db : Store V} {d : Nat} {type : Str} {j : Job}
    (hj : db.firstJob d type = some j) (s : Str) :
    (db.apply (.setJobStatus j.id s)).firstJob d type = some { j with status := s } := by
  simp only [Store.firstJob, Store.apply] at hj ⊢
  rw [find?_updateWhere (f := fun r : Job => { r with status := s }) (fun _ => rfl), hj]
  simp

theorem firstJob_setJobProgress {db : Store V} {d : Nat} {type : Str} {j : Job}
    (hj : db.firstJob d type = some j) (p : Nat) :
    (db.apply (.setJobProgress j.id p)).firstJob d type = some { j with progress := p } := by
  simp only [Store.firstJob, Store.apply] at hj ⊢
  rw [find?_updateWhere (f := fun r : Job => { r with progress := p }) (fun _ => rfl), hj]
  simp

/-- A job inserted when the document has none of its type becomes the first. -/
theorem firstJob_insertJob_of_none {db : Store V} {d : Nat} {type : Str}
    (h : db.firstJob d type = none) {r : Job} (hd : r.document_id = d) (ht : r.type = type) :
    (db.apply (.insertJob r)).firstJob d type = some r := by
  unfold Store.firstJob at h ⊢
  simp only [Store.apply, List.find?_append, h, Option.none_or]
  simp [hd, ht]

/-- An inserted job goes after the first one. -/
theorem firstJob_insertJob {db : Store V} {d : Nat} {type : Str} {j : Job}
    (hj : db.firstJob d type = some j) (r : Job) :
    (db.apply (.insertJob r)).firstJob d type = some j := by
  unfold Store.firstJob at hj ⊢
  simp only [Store.apply, List.find?_append, hj, Option.some_or]

end RagService.Db
