import RagService.Workers.System

/-!
# Document status

`documents.status` is written in two places only: `IngestService.ingest_document` creates the
row with status `uploaded`, and `chunk_document` sets it to `done` once the chunks are stored,
before it creates and queues the embed job. Nothing writes `error`: a failed parse, chunk or
embed run marks its job, not the document.

The Documents page (`web/src/pages/Documents.tsx`) shows a status through `getStatusBadge`,
which tests for `parse_done` and `failed`, statuses the backend never writes.

`reachable_statusInv`: in every reachable state every document is `uploaded` or `done`.
`runMsg_documents`: a parse or embed run leaves the documents as they were, whatever fails in
it. The state `chunked` of `System` has a `done` document whose embed job is still queued.
-/

set_option autoImplicit false

namespace RagService.Workers

open PyText Session RagService.Db

variable {V : Type}

/-! ## The page -/

/-- The variants of the page's badge: `success` reads "Готов" (ready), `error` reads "Ошибка"
(failed), `warning` reads "Обработка" (processing). -/
inductive BadgeVariant where
  | success
  | error
  | warning
  deriving DecidableEq, Repr

/-- `getStatusBadge` of the Documents page. -/
def getStatusBadge (status : Str) : BadgeVariant :=
  if status = "parse_done".toList then .success
  else if status = "failed".toList then .error
  else .warning

/-! ## The statuses the backend writes -/

/-- `uploaded` or `done`. -/
def StatusWord (s : Str) : Prop := s = "uploaded".toList ∨ s = "done".toList

instance : DecidablePred StatusWord := fun _ => inferInstanceAs (Decidable (_ ∨ _))

/-- The page shows every status the backend writes as processing. -/
theorem getStatusBadge_of_statusWord {s : Str} (h : StatusWord s) :
    getStatusBadge s = .warning := by
  rcases h with rfl | rfl <;> decide

/-- A change that writes only backend statuses to `documents`. -/
def StatusChange : Change V → Prop
  | .insertDocument r => StatusWord r.status
  | .setDocumentStatus _ s => StatusWord s
  | _ => True

/-- Every document of a store has a backend status. -/
def StatusesOk (db : Store V) : Prop := ∀ doc ∈ db.documents, StatusWord doc.status

theorem StatusesOk.apply {db : Store V} {x : Change V} (hdb : StatusesOk db)
    (hx : StatusChange x) : StatusesOk (db.apply x) := by
  intro doc hdoc
  cases x with
  | insertDocument r =>
    simp only [Store.apply, List.mem_append, List.mem_singleton] at hdoc
    rcases hdoc with h | rfl
    · exact hdb doc h
    · exact hx
  | setDocumentStatus i s =>
    simp only [Store.apply, updateWhere, List.mem_map] at hdoc
    obtain ⟨d, hd, rfl⟩ := hdoc
    -- the row with id `i` takes the new status, the others keep theirs
    split
    · exact hx
    · exact hdb d hd
  | _ => exact hdb doc hdoc

theorem StatusesOk.foldl {db : Store V} {xs : List (Change V)} (hdb : StatusesOk db)
    (hxs : ∀ x ∈ xs, StatusChange x) : StatusesOk (xs.foldl Store.apply db) :=
  Runs.foldl_invariant Store.apply StatusesOk xs (fun _ x hx hs => hs.apply (hxs x hx)) db hdb

theorem TaskWrite.statusChange {k : TaskName} {d : Nat} {x : Change V} (h : TaskWrite k d x) :
    StatusChange x := by
  cases h with
  | done i => exact Or.inr rfl
  | _ => trivial

theorem IngestWrite.statusChange {x : Change V} (h : IngestWrite x) : StatusChange x := by
  cases h with
  | document r hr => exact Or.inl hr
  | job j => trivial

/-! ## The invariant -/

/-- The committed documents and the queued changes keep to the backend statuses. -/
def StatusInv (c : World V) : Prop := StatusesOk c.db ∧ ∀ x ∈ c.pending, StatusChange x

theorem statusInv_add {c : World V} {x : Change V} (hc : StatusInv c) (hx : StatusChange x) :
    StatusInv { c with pending := c.pending ++ [x] } :=
  ⟨hc.1, List.forall_mem_append.2 ⟨hc.2, List.forall_mem_singleton.2 hx⟩⟩

theorem statusInv_commit {c : World V} (hc : StatusInv c) :
    StatusInv { c with db := c.view Store.apply, pending := [] } :=
  ⟨hc.1.foldl hc.2, by simp⟩

theorem statusInv_respects (k : TaskName) (d : Nat) (t : Option Str) :
    Respects k d t (StatusInv (V := V)) where
  tick _ hc := hc
  abort c hc := ⟨hc.1, by simp⟩
  commit _ hc := statusInv_commit hc
  add _ _ hc hx := statusInv_add hc hx.statusChange
  send _ _ hc _ := hc
  callCommit _ _ hc hxs := ⟨hc.1.foldl fun x hx => (hxs x hx).statusChange, hc.2⟩

/-- Every reachable document is `uploaded` or `done`. -/
theorem reachable_statusInv {c : World V} (hc : Reachable c) : StatusInv c := by
  have h0 : StatusInv (initial : World V) :=
    ⟨by simp [StatusesOk, initial, Store.empty], by simp [initial]⟩
  have hingest : ∀ fault bucket file key form userTenant,
      Keeps StatusInv (ingestDocument fault bucket file key form userTenant : Task V Nat) := by
    intro fault bucket file key form userTenant
    have hs : Stable (dbEnv V fault) StatusInv := (statusInv_respects .parse 0 none).stable fault
    exact keeps_ingestDocument fault bucket file key form userTenant hs
      (fun _ _ hc hx => statusInv_add hc hx.statusChange) fun _ _ hc => hc
  exact Reachable.invariant h0 (fun _ hc => ⟨hc.1, by simp⟩) hingest
    (fun fault S m => keeps_runMsg fault S m (statusInv_respects _ _ _)) hc

/-! ## Only the chunk task writes documents -/

/-- A run's frame: the committed documents are `D` and no queued change writes them. -/
def DocsFixed (D : List Document) (c : World V) : Prop :=
  c.db.documents = D ∧ ∀ x ∈ c.pending, x.touchesDocuments = false

theorem TaskWrite.untouched {k : TaskName} {d : Nat} {x : Change V} (h : TaskWrite k d x)
    (hk : k ≠ .chunk) : x.touchesDocuments = false := by
  cases h with
  | done i => exact absurd rfl hk
  | _ => rfl

theorem docsFixed_respects {k : TaskName} (hk : k ≠ .chunk) (d : Nat) (t : Option Str)
    (D : List Document) : Respects k d t (DocsFixed (V := V) D) where
  tick _ hc := hc
  abort _ hc := ⟨hc.1, by simp⟩
  commit _ hc := ⟨(foldl_apply_documents hc.2).trans hc.1, by simp⟩
  add _ _ hc hx :=
    ⟨hc.1, List.forall_mem_append.2 ⟨hc.2, List.forall_mem_singleton.2 (hx.untouched hk)⟩⟩
  send _ _ hc _ := hc
  callCommit _ _ hc hxs :=
    ⟨(foldl_apply_documents fun x hx => (hxs x hx).untouched hk).trans hc.1, hc.2⟩

/-- A parse or embed run, delivered in any state, leaves the documents as they were. -/
theorem runMsg_documents (fault : Nat → Option Exc) (S : Services V) (m : Msg)
    (hm : m.task ≠ .chunk) (c : World V) :
    (runSession (runMsg fault S m) c).2.db.documents = c.db.documents := by
  -- the session opens with no queued change
  have hstart : DocsFixed c.db.documents { c with pending := [], broken := false } :=
    ⟨rfl, by simp⟩
  exact (keeps_runMsg fault S m (docsFixed_respects hm _ _ _) _ hstart).1

theorem document_status_follows_chunking {c : World V} (hc : Reachable c) :
    (∀ doc ∈ c.db.documents, StatusWord doc.status ∧ getStatusBadge doc.status = .warning) ∧
      ∀ (fault : Nat → Option Exc) (S : Services V) (m : Msg), m.task ≠ .chunk →
        (runSession (runMsg fault S m) c).2.db.documents = c.db.documents := by
  constructor
  · intro doc hdoc
    have hword := (reachable_statusInv hc).1 doc hdoc
    exact ⟨hword, getStatusBadge_of_statusWord hword⟩
  · intro fault S m hm
    exact runMsg_documents fault S m hm c

/-- After the upload of `a.txt`, its parse and its chunk task: the document is `done` while its
embed job is still queued, and the page badges it as processing. -/
theorem chunked_status_follows_chunking :
    Reachable chunked ∧
      (⟨1, "a.txt".toList, "text/plain".toList, "s3://documents/k".toList, "done".toList⟩ :
        Document) ∈ chunked.db.documents ∧
      (⟨3, "embed".toList, "queued".toList, 0, none, 1⟩ : Job) ∈ chunked.db.jobs ∧
      (∀ doc ∈ chunked.db.documents, StatusWord doc.status ∧ getStatusBadge doc.status = .warning) ∧
        ∀ (fault : Nat → Option Exc) (S : Services Nat) (m : Msg), m.task ≠ .chunk →
          (runSession (runMsg fault S m) chunked).2.db.documents = chunked.db.documents := by
  have hdoc : (⟨1, "a.txt".toList, "text/plain".toList, "s3://documents/k".toList,
      "done".toList⟩ : Document) ∈ chunked.db.documents := by decide +kernel
  have hjob : (⟨3, "embed".toList, "queued".toList, 0, none, 1⟩ : Job) ∈ chunked.db.jobs := by
    decide +kernel
  exact ⟨reachable_chunked, hdoc, hjob, document_status_follows_chunking reachable_chunked⟩

end RagService.Workers
