import RagService.Workers.Footprint
import RagService.Lib.Runs
import RagService.Chunking.Headings

/-!
# The ingestion system

A state of the system is the committed database with the outbox (the events published and the
task messages queued), between runs, with no session open. A step is either a `POST /ingest`
request or the delivery of a message from the queue to its task. Messages stay in the queue:
Celery delivers at least once, and a redelivery or a retry runs a message again. Every step
comes with its own failures and its own answers from outside.

`keeps_ingestDocument` is the request's counterpart of `keeps_runMsg`: what the request can
queue and send.
-/

set_option autoImplicit false

namespace RagService.Workers

open PyText Session RagService.Db

variable {V : Type}

/-- The committed database and the outbox. -/
abbrev World (V : Type) := Conn (Store V) (Change V) Outbox

/-- The empty system. -/
def initial : World V := ⟨Store.empty, [], false, 0, ⟨[], []⟩⟩

/-- One step of the system. -/
inductive Step : World V → World V → Prop
  | ingest (c : World V) (fault : Nat → Option Exc) (bucket : Str) (file : UploadFile) (key : Str)
      (form userTenant : Option Str) :
      Step c (runSession (ingestDocument fault bucket file key form userTenant) c).2
  | deliver (c : World V) (m : Msg) (hm : m ∈ c.out.queue) (fault : Nat → Option Exc)
      (S : Services V) : Step c (runSession (runMsg fault S m) c).2

/-- The states the system reaches from the empty one. -/
def Reachable (c : World V) : Prop := Runs.Reachable Step initial c

/-- The changes `POST /ingest` queues: an `uploaded` document and a job. -/
inductive IngestWrite : Change V → Prop
  | document (r : Document) (h : r.status = "uploaded".toList) : IngestWrite (.insertDocument r)
  | job (j : Job) : IngestWrite (.insertJob j)

/-- What the request can do: queue an `uploaded` document and a job, and queue a parse message
for the tenant it resolved. -/
theorem keeps_ingestDocument {P : World V → Prop} (fault : Nat → Option Exc) (bucket : Str)
    (file : UploadFile) (key : Str) (form userTenant : Option Str)
    (hs : Stable (dbEnv V fault) P)
    (hadd : ∀ c (x : Change V), P c → IngestWrite x → P { c with pending := c.pending ++ [x] })
    (hsend : ∀ c d, P c →
      P { c with out := { c.out with queue :=
        c.out.queue ++ [⟨.parse, d, requestTenant form userTenant⟩] } }) :
    Keeps P (ingestDocument fault bucket file key form userTenant : Task V Nat) := by
  unfold ingestDocument
  split
  · refine Keeps.ite (fun _ => ?_) fun _ => Keeps.throw _
    unfold IngestService.ingestDocument putFile
    refine Keeps.bind (Keeps.bind (keeps_call hs _) fun _ => Keeps.pure _) fun uri => ?_
    refine Keeps.bind Keeps.get fun c => ?_
    refine Keeps.bind (keeps_add fun c hc => hadd c _ hc (.document _ rfl)) fun _ => ?_
    refine Keeps.bind (keeps_roundTrip hs) fun _ => ?_
    refine Keeps.bind Keeps.get fun c => ?_
    refine Keeps.bind (keeps_add fun c hc => hadd c _ hc (.job _)) fun _ => ?_
    refine Keeps.bind (keeps_commit hs) fun _ => ?_
    refine Keeps.bind (Keeps.bind (keeps_call hs _) fun _ => keeps_send fun c hc => hsend c _ hc)
      fun _ => Keeps.pure _
  · exact Keeps.throw _

/-- An invariant that the request and every task run keep, and that opening and closing a
session keep, holds in every reachable state. -/
theorem Reachable.invariant {P : World V → Prop} (h0 : P initial)
    (hreset : ∀ c, P c → P { c with pending := [], broken := false })
    (hingest : ∀ fault bucket file key form userTenant,
      Keeps P (ingestDocument fault bucket file key form userTenant : Task V Nat))
    (hrun : ∀ fault (S : Services V) m, Keeps P (runMsg fault S m))
    {c : World V} (hc : Reachable c) : P c := by
  refine Runs.Reachable.invariant P h0 (fun s s' hs hstep => ?_) hc
  cases hstep with
  | ingest fault bucket file key form userTenant =>
    exact runSession_keeps (hingest fault bucket file key form userTenant) hreset hs
  | deliver m _ fault S => exact runSession_keeps (hrun fault S m) hreset hs

/-! ## A run of the pipeline

One plain-text upload taken through its parse and chunk tasks with no failure, the state the
statements about reachable states are tried on. -/

/-- Outside services for a plain-text file reading `hello`: `unstructured` is not installed,
so the office parser reads the text itself, and the embedder returns one 1024-dimensional
vector per text (a vector is represented by a number). -/
def plainServices : Services Nat where
  bucket := "documents".toList
  toMarkdown _ := .ok []
  partition _ := .error ⟨"ImportError".toList, []⟩
  readText _ := .ok "hello".toList
  extractTables _ _ := []
  embedTexts texts := .ok (texts.map fun _ => 0)
  dim _ := 1024
  provider := "bge-m3".toList
  cc := asciiClasses
  tok := Chunking.charTokenizer
  percent done total := done * 100 / total

/-- No round trip or call fails. -/
def noFault : Nat → Option Exc := fun _ => none

/-- After `POST /ingest` of `a.txt` by a user of tenant `acme`. -/
def uploaded : World Nat :=
  (runSession (ingestDocument noFault "documents".toList
    ⟨some "a.txt".toList, some "text/plain".toList⟩ "k".toList none (some "acme".toList)) initial).2

/-- After its parse task. -/
def parsed : World Nat :=
  (runSession (runMsg noFault plainServices ⟨.parse, 1, some "acme".toList⟩) uploaded).2

/-- After its chunk task. -/
def chunked : World Nat :=
  (runSession (runMsg noFault plainServices ⟨.chunk, 1, some "acme".toList⟩) parsed).2

theorem reachable_chunked : Reachable chunked := by
  have h1 : Reachable uploaded := Relation.ReflTransGen.single (Step.ingest _ _ _ _ _ _ _)
  -- each task runs the message the step before queued
  have h2 : Reachable parsed := h1.tail (Step.deliver _ _ (by decide) _ _)
  exact h2.tail (Step.deliver _ _ (by decide) _ _)

end RagService.Workers
