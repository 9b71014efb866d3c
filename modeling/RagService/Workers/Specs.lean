import RagService.Workers.System
import RagService.Lib.Hoare

/-!
# What the upload request computes

The invariants of `Footprint` say what a run may write; they do not follow the values a run
computes. The statements about whose document a message is for need one such value: the key
`IngestService.ingest_document` gives the new document, read from the session before the row
is added. The request is a straight line of operations, so its triple is proved step by step,
each step with the assertion it leaves (`Opened`, `Staged`, `Committed`).

`ingest_outcome`: a request either leaves the outbox as it was, or commits a document under
the next free key and queues one parse message for that key and the request's tenant; in
both cases no document is lost.
-/

set_option autoImplicit false

namespace RagService.Workers

open PyText Session RagService.Db

variable {V : Type}

/-! ## The steps it is made of -/

section Steps

variable {E : Env (Store V) (Change V) Exc} {R : Exc → World V → Prop}

theorem triple_putFile {Q : Str → World V → Prop} (bucket key : Str) :
    Triple (fun c => match E.fault c.ops with
        | some e => R e { c with ops := c.ops + 1 }
        | none => Q ("s3://".toList ++ bucket ++ "/".toList ++ key) { c with ops := c.ops + 1 })
      (putFile E bucket key) Q R := by
  unfold putFile
  refine (Triple.bind (triple_call _) fun _ => Triple.pure _).pre fun c hc => ?_
  revert hc
  cases E.fault c.ops <;> exact id

theorem triple_enqueue {Q : Unit → World V → Prop} (m : Msg) :
    Triple (fun c => match E.fault c.ops with
        | some e => R e { c with ops := c.ops + 1 }
        | none =>
          Q () { c with ops := c.ops + 1, out := { c.out with queue := c.out.queue ++ [m] } })
      (enqueue E m) Q R := by
  unfold enqueue
  refine (Triple.bind (triple_call _) fun _ => triple_send _).pre fun c hc => ?_
  revert hc
  cases E.fault c.ops <;> exact id

end Steps

/-! ## The request -/

/-- A session as it opens on `c0`: the committed store and the outbox of `c0`, nothing queued
and no rollback pending. -/
def Opened (c0 c : World V) : Prop :=
  c.db = c0.db ∧ c.pending = [] ∧ c.broken = false ∧ c.out = c0.out

/-- The document row an upload of `file` under `key` creates. -/
def uploadDocument (db : Store V) (bucket : Str) (file : UploadFile) (key : Str) : Document :=
  ⟨nextId db.documentIds, file.filename.getD "unknown".toList,
    file.content_type.getD "application/octet-stream".toList,
    "s3://".toList ++ bucket ++ "/".toList ++ key, "uploaded".toList⟩

/-- The parse job an upload creates for its document. -/
def uploadJob (db : Store V) : Job :=
  ⟨nextId (db.jobs.map (·.id)), "parse".toList, "queued".toList, 0, none, nextId db.documentIds⟩

/-- The store once an upload has committed. -/
def uploadedStore (db : Store V) (bucket : Str) (file : UploadFile) (key : Str) : Store V :=
  { db with documents := db.documents ++ [uploadDocument db bucket file key],
            jobs := db.jobs ++ [uploadJob db] }

theorem documentIds_uploadedStore (db : Store V) (bucket : Str) (file : UploadFile)
    (key : Str) :
    (uploadedStore db bucket file key).documentIds = db.documentIds ++ [nextId db.documentIds] := by
  simp [uploadedStore, Store.documentIds, uploadDocument]

/-- The session has queued `xs` on the committed store and the outbox of `c0`. -/
def Staged (c0 : World V) (xs : List (Change V)) (c : World V) : Prop :=
  c.db = c0.db ∧ c.pending = xs ∧ c.broken = false ∧ c.out = c0.out

/-- The upload is committed; nothing is sent yet. -/
def Committed (c0 : World V) (bucket : Str) (file : UploadFile) (key : Str) (c : World V) :
    Prop :=
  c.db = uploadedStore c0.db bucket file key ∧ c.out = c0.out

/-- A request that went through: the store holds the new document and its parse job, and the
one thing sent is the parse message for that document and `tenant`. -/
def Ingested (c0 : World V) (bucket : Str) (file : UploadFile) (key : Str)
    (tenant : Option Str) (c : World V) : Prop :=
  c.db = uploadedStore c0.db bucket file key ∧
    c.out = { c0.out with queue := c0.out.queue ++ [⟨.parse, nextId c0.db.documentIds, tenant⟩] }

/-- A request that went through: its document is committed under the next key, and the only
thing sent is the parse message for that key and `tenant`. -/
def QueuedParse (c0 : World V) (tenant : Option Str) (c : World V) : Prop :=
  c.out = { c0.out with queue := c0.out.queue ++ [⟨.parse, nextId c0.db.documentIds, tenant⟩] } ∧
    nextId c0.db.documentIds ∈ c.db.documentIds ∧ ∀ i ∈ c0.db.documentIds, i ∈ c.db.documentIds

theorem Ingested.queuedParse {c0 c : World V} {bucket : Str} {file : UploadFile} {key : Str}
    {tenant : Option Str} (h : Ingested c0 bucket file key tenant c) : QueuedParse c0 tenant c := by
  obtain ⟨hdb, ho⟩ := h
  refine ⟨ho, ?_, fun i hi => ?_⟩
  · rw [hdb, documentIds_uploadedStore]
    exact List.mem_append_right _ (List.mem_singleton_self _)
  · rw [hdb, documentIds_uploadedStore]
    exact List.mem_append_left _ hi

/-- A request that raised: nothing sent, no document lost. -/
def KeptOut (c0 c : World V) : Prop :=
  c.out = c0.out ∧ ∀ i ∈ c0.db.documentIds, i ∈ c.db.documentIds

theorem KeptOut.of_db {c0 c : World V} (hdb : c.db = c0.db) (ho : c.out = c0.out) :
    KeptOut c0 c :=
  ⟨ho, fun _ hi => hdb ▸ hi⟩

/-- A request that raised: nothing is sent, and the store is as it was, or holds the upload
when only the message failed. -/
def Unsent (c0 : World V) (bucket : Str) (file : UploadFile) (key : Str) (c : World V) : Prop :=
  c.out = c0.out ∧ (c.db = c0.db ∨ c.db = uploadedStore c0.db bucket file key)

theorem Unsent.keptOut {c0 c : World V} {bucket : Str} {file : UploadFile} {key : Str}
    (h : Unsent c0 bucket file key c) : KeptOut c0 c := by
  obtain ⟨ho, hdb | hdb⟩ := h
  · exact KeptOut.of_db hdb ho
  · refine ⟨ho, fun i hi => ?_⟩
    rw [hdb, documentIds_uploadedStore]
    exact List.mem_append_left _ hi

/-- `IngestService.ingest_document`, step by step: the returned job id is the parse job's. -/
theorem triple_ingestService_rows (fault : Nat → Option Exc) (bucket : Str) (file : UploadFile)
    (key : Str) (tenant : Option Str) (c0 : World V) :
    Triple (Opened c0) (IngestService.ingestDocument (dbEnv V fault) bucket file key tenant)
      (fun j c => j = (uploadJob c0.db).id ∧ Ingested c0 bucket file key tenant c)
      (fun _ => Unsent c0 bucket file key) := by
  unfold IngestService.ingestDocument
  refine Triple.bind
    (Q := fun u c => u = "s3://".toList ++ bucket ++ "/".toList ++ key ∧ Opened c0 c)
    ((triple_putFile _ _).pre ?_) fun u => Triple.of_pre (fun _ h => h.1) fun hu => ?_
  · -- the upload fails, or leaves the session as it opened
    rintro c ⟨hdb, hp, hb, ho⟩
    cases (dbEnv V fault).fault c.ops with
    | some e => exact ⟨ho, .inl hdb⟩
    | none => exact ⟨rfl, hdb, hp, hb, ho⟩
  subst hu
  refine Triple.bind_get fun c hc => ?_
  obtain ⟨-, hdb, hp, hb, ho⟩ := hc
  -- nothing is queued yet, so the key is read off the committed documents
  have hview : c.view (dbEnv V fault).apply = c0.db := by simp [Conn.view, hp, hdb]
  simp only [hview]
  refine Triple.bind
    (Q := fun _ => Staged c0 [.insertDocument (uploadDocument c0.db bucket file key)])
    ((triple_add _).pre ?_) fun _ => ?_
  · rintro s rfl
    exact ⟨hdb, by rw [hp]; rfl, hb, ho⟩
  -- the flush
  refine Triple.bind
    (Q := fun _ => Staged c0 [.insertDocument (uploadDocument c0.db bucket file key)])
    (triple_roundTrip.pre ?_) fun _ => ?_
  · rintro s ⟨hdb', hp', hb', ho'⟩
    simp only [hb', Bool.false_eq_true, if_false]
    cases (dbEnv V fault).fault s.ops with
    | some e => exact ⟨ho', .inl hdb'⟩
    | none => exact ⟨hdb', hp', rfl, ho'⟩
  refine Triple.bind_get fun s hs => ?_
  obtain ⟨hdb', hp', hb', ho'⟩ := hs
  -- the view holds the new document, and the jobs of `c0`
  have hview' : s.view (dbEnv V fault).apply =
      c0.db.apply (.insertDocument (uploadDocument c0.db bucket file key)) := by
    rw [Conn.view, hp', hdb']
    rfl
  simp only [hview']
  refine Triple.bind (Q := fun _ => Staged c0
      [.insertDocument (uploadDocument c0.db bucket file key), .insertJob (uploadJob c0.db)])
    ((triple_add _).pre ?_) fun _ => ?_
  · rintro s' rfl
    exact ⟨hdb', by rw [hp', hview']; rfl, hb', ho'⟩
  refine Triple.bind (Q := fun _ => Committed c0 bucket file key) (triple_commit.pre ?_) fun _ => ?_
  · rintro s ⟨hdb', hp', hb', ho'⟩
    simp only [hb', Bool.false_eq_true, if_false]
    cases (dbEnv V fault).fault s.ops with
    | some e => exact ⟨ho', .inl hdb'⟩
    | none => exact ⟨by rw [Conn.view, hp', hdb']; rfl, ho'⟩
  refine Triple.bind ((triple_enqueue _).pre ?_) fun _ => Triple.pure _
  · rintro s ⟨hdb', ho'⟩
    cases (dbEnv V fault).fault s.ops with
    | some e =>
      -- the document is committed though the message is not sent
      exact ⟨ho', .inr hdb'⟩
    | none => exact ⟨rfl, hdb', by rw [ho']; rfl⟩

/-- `POST /ingest`: a rejected content type raises before anything is done. -/
theorem triple_ingestDocument_rows (fault : Nat → Option Exc) (bucket : Str) (file : UploadFile)
    (key : Str) (form userTenant : Option Str) (c0 : World V) :
    Triple (Opened c0) (ingestDocument fault bucket file key form userTenant : Task V Nat)
      (fun j c => j = (uploadJob c0.db).id ∧
        Ingested c0 bucket file key (requestTenant form userTenant) c)
      (fun _ => Unsent c0 bucket file key) := by
  have hreject : ∀ e, Triple (Opened c0) (MonadExcept.throw e : Task V Nat)
      (fun j c => j = (uploadJob c0.db).id ∧
        Ingested c0 bucket file key (requestTenant form userTenant) c)
      (fun _ => Unsent c0 bucket file key) := by
    intro e
    refine (Triple.throw e).pre ?_
    rintro c ⟨hdb, -, -, ho⟩
    exact ⟨ho, .inl hdb⟩
  unfold ingestDocument
  dsimp only
  split
  · exact Triple.ite (fun _ => triple_ingestService_rows fault bucket file key _ c0)
      fun _ => hreject _
  · exact hreject _

/-- What a request does to the system: it commits the upload and sends its parse message, or
sends nothing and commits the upload or nothing. -/
theorem ingest_unsent (fault : Nat → Option Exc) (bucket : Str) (file : UploadFile) (key : Str)
    (form userTenant : Option Str) (c : World V) :
    Outcome (fun j s => j = (uploadJob c.db).id ∧
        Ingested c bucket file key (requestTenant form userTenant) s)
      (fun _ => Unsent c bucket file key)
      (runSession (ingestDocument fault bucket file key form userTenant : Task V Nat) c) := by
  refine outcome_runSession ?_ (fun _ _ h => h) fun _ _ h => h
  refine (triple_ingestDocument_rows fault bucket file key form userTenant c).pre ?_
  rintro s rfl
  exact ⟨rfl, rfl, rfl, rfl⟩

/-- What a request does to the system: it commits the upload and sends its parse message, or
sends nothing and loses no document. -/
theorem ingest_rows (fault : Nat → Option Exc) (bucket : Str) (file : UploadFile) (key : Str)
    (form userTenant : Option Str) (c : World V) :
    Outcome (fun j s => j = (uploadJob c.db).id ∧
        Ingested c bucket file key (requestTenant form userTenant) s) (fun _ => KeptOut c)
      (runSession (ingestDocument fault bucket file key form userTenant : Task V Nat) c) :=
  (ingest_unsent fault bucket file key form userTenant c).mono (fun _ _ h => h)
    fun _ _ h => h.keptOut

/-- A request commits the upload or nothing. -/
theorem ingest_db (fault : Nat → Option Exc) (bucket : Str) (file : UploadFile) (key : Str)
    (form userTenant : Option Str) (c : World V) :
    (runSession (ingestDocument fault bucket file key form userTenant : Task V Nat) c).2.db = c.db ∨
      (runSession (ingestDocument fault bucket file key form userTenant : Task V Nat) c).2.db =
        uploadedStore c.db bucket file key := by
  have h := ingest_unsent fault bucket file key form userTenant c
  generalize runSession (ingestDocument fault bucket file key form userTenant : Task V Nat) c = r
    at h ⊢
  rcases r with ⟨_ | _, s⟩
  · exact h.2
  · exact .inr h.2.1

theorem ingest_outcome (fault : Nat → Option Exc) (bucket : Str) (file : UploadFile) (key : Str)
    (form userTenant : Option Str) (c : World V) :
    Outcome (fun _ => QueuedParse c (requestTenant form userTenant)) (fun _ => KeptOut c)
      (runSession (ingestDocument fault bucket file key form userTenant : Task V Nat) c) :=
  (ingest_rows fault bucket file key form userTenant c).mono (fun _ _ h => h.2.queuedParse)
    fun _ _ h => h

/-- A property of states that a request keeps, whatever it does, and that every delivered
task keeps, is kept by every step. -/
theorem Step.invariant {P : World V → Prop}
    (hingest : ∀ c c' e, P c → QueuedParse c e c' ∨ KeptOut c c' → P c')
    (hrun : ∀ c m fault (S : Services V), P c → m ∈ c.out.queue →
      P (runSession (runMsg fault S m) c).2)
    {c c' : World V} (h : Step c c') (hc : P c) : P c' := by
  cases h with
  | ingest fault bucket file key form userTenant =>
    exact hingest _ _ _ hc (ingest_outcome fault bucket file key form userTenant c).elim
  | deliver m hm fault S => exact hrun c m fault S hc hm

/-- Messages stay in the queue. -/
theorem queued_respects (m : Msg) (k : TaskName) (d : Nat) (t : Option Str) :
    Respects k d t (fun s : World V => m ∈ s.out.queue) where
  tick _ hc := hc
  abort _ hc := hc
  commit _ hc := hc
  add _ _ hc _ := hc
  send _ _ hc hf := by
    cases hf with
    | event => exact hc
    | msg => exact List.mem_append_left _ hc
  callCommit _ _ hc _ := hc

theorem mem_queue_of_steps {m : Msg} {c c' : World V} (h : Relation.ReflTransGen Step c c')
    (hm : m ∈ c.out.queue) : m ∈ c'.out.queue := by
  refine Runs.Reachable.invariant (fun s : World V => m ∈ s.out.queue) hm
    (fun s s' hs hstep =>
      Step.invariant (P := fun s : World V => m ∈ s.out.queue) ?_ ?_ hstep hs) h
  · rintro s s' e hs (hq | hk)
    · rw [hq.1]
      exact List.mem_append_left _ hs
    · rw [hk.1]
      exact hs
  · intro s m' fault S hs _
    exact runSession_keeps (keeps_runMsg fault S m' (queued_respects m _ _ _)) (fun _ h => h) hs

end RagService.Workers
