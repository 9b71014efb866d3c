import RagService.Workers.Specs

/-!
# Whose channel a job event is published on

The tasks publish a job event on `f"{tenant_id}.jobs"`, where `tenant_id` is the argument of
their Celery message, and every message a task queues carries its own message's document and
tenant. The first message of a document is queued by `POST /ingest`, with the tenant of the
request: the form field `tenant_id` when it is non-empty, the authenticated user's otherwise
(`requestTenant`). `EventBus.publish_event` then adds a `tenant_id` to the payload, read back
from the channel name as the part before the first `.`.

`EventsInv` is the invariant of the outbox: every queued message is about a committed
document, the messages about one document agree on the tenant, and every published event is
the event of a queued message. `job_events_follow_request_tenant` puts it together: once a
request has queued its document, every event about that document, at any later time, is on
the channel of the request's tenant.
-/

set_option autoImplicit false

namespace RagService.Workers

open PyText Session RagService.Db

variable {V : Type}

/-! ## The bus -/

namespace EventBus

theorem publishEvent_channel (topic : Str) (ev : JobEvent) :
    (publishEvent topic ev).channel = topic := by
  rw [publishEvent_eq]

theorem publishEvent_document_id (topic : Str) (ev : JobEvent) :
    (publishEvent topic ev).payload.document_id = ev.document_id := by
  rw [publishEvent_eq]

/-- The tenant read back from a tenant's channel is the tenant, when it has no `.`. -/
theorem topicTenant_jobsChannel {t : Str} (ht : '.' ∉ t) : topicTenant (jobsChannel t) = some t := by
  have hsplit : (jobsChannel t).splitOn '.' = t :: "jobs".toList.splitOn '.' :=
    List.splitOn_append_cons_self_of_not_mem ht _
  have hdot : '.' ∈ jobsChannel t := List.mem_append_right _ (by decide)
  simp [topicTenant, hdot, hsplit]

example : topicTenant (jobsChannel "acme.eu".toList) = some "acme".toList := by decide

theorem publishEvent_tenant_id {t : Str} {ev : JobEvent} (ht : '.' ∉ t) (hne : t ≠ [])
    (hnone : ev.tenant_id = none) :
    (publishEvent (jobsChannel t) ev).payload.tenant_id = some t := by
  simp [publishEvent, hnone, topicTenant_jobsChannel ht, hne]

end EventBus

/-! ## The invariant of the outbox -/

/-- `p` is an event a run of `m` publishes: about `m`'s document, with no tenant of its own,
on the channel of `m`'s non-empty tenant. -/
def EventOf (m : Msg) (p : Published) : Prop :=
  ∃ t ev, m.tenant_id = some t ∧ t ≠ [] ∧ ev.document_id = m.document_id ∧ ev.tenant_id = none ∧
    p = EventBus.publishEvent (jobsChannel t) ev

/-- Messages are about committed documents and agree on each document's tenant; events come
from messages. -/
structure EventsInv (c : World V) : Prop where
  committed : ∀ m ∈ c.out.queue, m.document_id ∈ c.db.documentIds
  tenant : ∀ m ∈ c.out.queue, ∀ m' ∈ c.out.queue,
    m.document_id = m'.document_id → m.tenant_id = m'.tenant_id
  events : ∀ p ∈ c.out.events, ∃ m ∈ c.out.queue, EventOf m p

theorem EventsInv.initial : EventsInv (initial : World V) :=
  ⟨(fun _ h => nomatch h), (fun _ h => nomatch h), (fun _ h => nomatch h)⟩

/-- Documents only accumulate, so a larger store keeps the invariant. -/
theorem EventsInv.of_db {c c' : World V} (h : EventsInv c)
    (hdb : ∀ i ∈ c.db.documentIds, i ∈ c'.db.documentIds) (ho : c'.out = c.out) :
    EventsInv c' := by
  have hqueue : c'.out.queue = c.out.queue := by rw [ho]
  have hevents : c'.out.events = c.out.events := by rw [ho]
  refine ⟨fun m hm => ?_, fun m hm m' hm' => ?_, fun p hp => ?_⟩
  · rw [hqueue] at hm
    exact hdb _ (h.committed m hm)
  · rw [hqueue] at hm hm'
    exact h.tenant m hm m' hm'
  · rw [hevents] at hp
    rw [hqueue]
    exact h.events p hp

theorem EventsInv.publish {c : World V} {m : Msg} {p : Published} (h : EventsInv c)
    (hm : m ∈ c.out.queue) (hp : EventOf m p) :
    EventsInv { c with out := { c.out with events := c.out.events ++ [p] } } := by
  refine ⟨h.committed, h.tenant, fun p' hp' => ?_⟩
  rcases List.mem_append.1 hp' with hp' | hp'
  · exact h.events p' hp'
  · rw [List.mem_singleton.1 hp']
    exact ⟨m, hm, hp⟩

/-- A task queues the next task for its own message's document and tenant. -/
theorem EventsInv.forward {c : World V} {m : Msg} (h : EventsInv c) (hm : m ∈ c.out.queue)
    (k : TaskName) :
    EventsInv { c with out := { c.out with queue := c.out.queue ++ [⟨k, m.document_id, m.tenant_id⟩] } } := by
  -- the new message agrees with `m` on document and tenant
  have hsame : ∀ m' ∈ c.out.queue ++ [⟨k, m.document_id, m.tenant_id⟩], ∃ m'' ∈ c.out.queue,
      m'.document_id = m''.document_id ∧ m'.tenant_id = m''.tenant_id := by
    intro m' hm'
    rcases List.mem_append.1 hm' with hm' | hm'
    · exact ⟨m', hm', rfl, rfl⟩
    · rw [List.mem_singleton.1 hm']
      exact ⟨m, hm, rfl, rfl⟩
  refine ⟨fun m' hm' => ?_, fun m₁ h₁ m₂ h₂ hd => ?_, fun p hp => ?_⟩
  · obtain ⟨m'', hm'', hd, -⟩ := hsame m' hm'
    exact hd ▸ h.committed m'' hm''
  · obtain ⟨n₁, hn₁, hd₁, ht₁⟩ := hsame m₁ h₁
    obtain ⟨n₂, hn₂, hd₂, ht₂⟩ := hsame m₂ h₂
    rw [ht₁, ht₂]
    exact h.tenant n₁ hn₁ n₂ hn₂ (hd₁ ▸ hd₂ ▸ hd)
  · obtain ⟨m', hm', hev⟩ := h.events p hp
    exact ⟨m', List.mem_append_left _ hm', hev⟩

/-- A request queues a message about a new document. -/
theorem EventsInv.ingest {c c' : World V} {tenant : Option Str} (h : EventsInv c)
    (hq : QueuedParse c tenant c') : EventsInv c' := by
  obtain ⟨ho, hnew, hkeep⟩ := hq
  have hqueue : c'.out.queue = c.out.queue ++ [⟨.parse, nextId c.db.documentIds, tenant⟩] := by
    rw [ho]
  have hevents : c'.out.events = c.out.events := by rw [ho]
  -- the new document's key is no key of the messages already queued
  have hfresh : ∀ m ∈ c.out.queue, m.document_id ≠ nextId c.db.documentIds :=
    fun m hm hd => nextId_not_mem _ (hd ▸ h.committed m hm)
  refine ⟨fun m hm => ?_, fun m₁ h₁ m₂ h₂ hd => ?_, fun p hp => ?_⟩
  · rw [hqueue] at hm
    rcases List.mem_append.1 hm with hm | hm
    · exact hkeep _ (h.committed m hm)
    · rw [List.mem_singleton.1 hm]
      exact hnew
  · rw [hqueue] at h₁ h₂
    rcases List.mem_append.1 h₁ with h₁ | h₁ <;> rcases List.mem_append.1 h₂ with h₂ | h₂
    · exact h.tenant m₁ h₁ m₂ h₂ hd
    · rw [List.mem_singleton.1 h₂] at hd
      exact absurd hd (hfresh m₁ h₁)
    · rw [List.mem_singleton.1 h₁] at hd
      exact absurd hd.symm (hfresh m₂ h₂)
    · rw [List.mem_singleton.1 h₁, List.mem_singleton.1 h₂]
  · rw [hevents] at hp
    obtain ⟨m, hm, hev⟩ := h.events p hp
    exact ⟨m, hqueue ▸ List.mem_append_left _ hm, hev⟩

/-- A run of a queued message keeps the invariant. -/
theorem eventsInv_respects (m : Msg) :
    Respects m.task m.document_id m.tenant_id
      (fun s : World V => EventsInv s ∧ m ∈ s.out.queue) where
  tick _ hc := ⟨hc.1.of_db (fun _ hi => hi) rfl, hc.2⟩
  abort _ hc := ⟨hc.1.of_db (fun _ hi => hi) rfl, hc.2⟩
  commit c hc :=
    ⟨hc.1.of_db (fun _ hi => mem_documentIds_foldl c.pending hi) rfl, hc.2⟩
  add _ _ hc _ := ⟨hc.1.of_db (fun _ hi => hi) rfl, hc.2⟩
  send c _ hc hf := by
    cases hf with
    | event t ev ht hne hd hnone =>
      exact ⟨hc.1.publish hc.2 ⟨t, ev, ht, hne, hd, hnone, rfl⟩, hc.2⟩
    | msg k => exact ⟨hc.1.forward hc.2 k, List.mem_append_left _ hc.2⟩
  callCommit c xs hc _ := ⟨hc.1.of_db (fun _ hi => mem_documentIds_foldl xs hi) rfl, hc.2⟩

theorem reachable_eventsInv {c : World V} (hc : Reachable c) : EventsInv c := by
  refine Runs.Reachable.invariant EventsInv EventsInv.initial
    (fun s s' hs hstep => Step.invariant ?_ ?_ hstep hs) hc
  · rintro s s' e hs (hq | ⟨ho, hkeep⟩)
    · exact hs.ingest hq
    · exact hs.of_db hkeep ho
  · intro s m fault S hs hm
    exact (runSession_keeps (keeps_runMsg fault S m (eventsInv_respects m))
      (fun _ h => ⟨h.1.of_db (fun _ hi => hi) rfl, h.2⟩) ⟨hs, hm⟩).1

/-! ## The events of an upload -/

theorem job_events_follow_request_tenant {c c' : World V} (hc : Reachable c)
    (fault : Nat → Option Exc) (bucket : Str) (file : UploadFile) (key : Str)
    (form userTenant : Option Str) {j : Nat}
    (hok : (runSession (ingestDocument fault bucket file key form userTenant : Task V Nat) c).1 =
      .ok j)
    (hc' : Relation.ReflTransGen Step
      (runSession (ingestDocument fault bucket file key form userTenant : Task V Nat) c).2 c')
    (p : Published) (hp : p ∈ c'.out.events)
    (hd : p.payload.document_id = nextId c.db.documentIds) :
    ∃ t, requestTenant form userTenant = some t ∧ t ≠ [] ∧ p.channel = jobsChannel t ∧
      ('.' ∉ t → p.payload.tenant_id = some t) := by
  -- the request went through, so its parse message is queued
  have hq := (ingest_outcome fault bucket file key form userTenant c).of_ok hok
  have hm0 : (⟨.parse, nextId c.db.documentIds, requestTenant form userTenant⟩ : Msg) ∈
      (runSession (ingestDocument fault bucket file key form userTenant : Task V Nat) c).2.out.queue := by
    rw [hq.1]
    exact List.mem_append_right _ (List.mem_singleton_self _)
  have hreach : Reachable c' :=
    (hc.tail (Step.ingest _ fault bucket file key form userTenant)).trans hc'
  have hinv := reachable_eventsInv hreach
  -- the event comes from a message about the same document as the request's message
  obtain ⟨m, hm, t, ev, hmt, hne, hevd, hnone, rfl⟩ := hinv.events p hp
  have hdoc : m.document_id = nextId c.db.documentIds := by
    rw [← hevd, ← hd, EventBus.publishEvent_document_id]
  have htenant := hinv.tenant m hm _ (mem_queue_of_steps hc' hm0) hdoc
  refine ⟨t, htenant.symm.trans hmt, hne, EventBus.publishEvent_channel _ _, fun hdot => ?_⟩
  exact EventBus.publishEvent_tenant_id hdot hne hnone

/-- The event `parse_document` publishes first for the upload of `System`. -/
def acmeParseStarted : Published :=
  ⟨jobsChannel "acme".toList,
    ⟨"parse_started".toList, 1, 1, "parse".toList, some 10, none, some "acme".toList⟩⟩

theorem acmeParseStarted_follows_request_tenant :
    ∃ t, requestTenant none (some "acme".toList) = some t ∧ t ≠ [] ∧
      acmeParseStarted.channel = jobsChannel t ∧
        ('.' ∉ t → acmeParseStarted.payload.tenant_id = some t) :=
  @job_events_follow_request_tenant Nat initial parsed Relation.ReflTransGen.refl noFault
    "documents".toList ⟨some "a.txt".toList, some "text/plain".toList⟩ "k".toList none
    (some "acme".toList) 1 (by decide +kernel)
    (Relation.ReflTransGen.single (Step.deliver _ _ (by decide) _ _)) acmeParseStarted
    (by decide +kernel) rfl

/-- The same upload by a user of tenant `acme` whose form names the tenant `globex`. -/
def uploadedForGlobex : World Nat :=
  (runSession (ingestDocument noFault "documents".toList
    ⟨some "a.txt".toList, some "text/plain".toList⟩ "k".toList (some "globex".toList)
    (some "acme".toList)) initial).2

/-- After its parse task. -/
def parsedForGlobex : World Nat :=
  (runSession (runMsg noFault plainServices ⟨.parse, 1, some "globex".toList⟩) uploadedForGlobex).2

/-- A request authenticated as `acme` has its document's events published on `globex.jobs`. -/
theorem form_tenant_redirects_events :
    ¬ ∀ (c c' : World Nat) (fault : Nat → Option Exc) (bucket : Str) (file : UploadFile)
        (key : Str) (form : Option Str) (u : Str) (j : Nat), Reachable c →
      (runSession (ingestDocument fault bucket file key form (some u) : Task Nat Nat) c).1 =
        .ok j →
      Relation.ReflTransGen Step
        (runSession (ingestDocument fault bucket file key form (some u) : Task Nat Nat) c).2 c' →
      ∀ p ∈ c'.out.events, p.payload.document_id = nextId c.db.documentIds →
        p.channel = jobsChannel u := by
  intro h
  have hstep : Step uploadedForGlobex parsedForGlobex := Step.deliver _ _ (by decide) _ _
  have hp : (⟨jobsChannel "globex".toList, ⟨"parse_started".toList, 1, 1, "parse".toList,
      some 10, none, some "globex".toList⟩⟩ : Published) ∈ parsedForGlobex.out.events := by
    decide +kernel
  have hchannel := h initial parsedForGlobex noFault "documents".toList
    ⟨some "a.txt".toList, some "text/plain".toList⟩ "k".toList (some "globex".toList)
    "acme".toList 1 Relation.ReflTransGen.refl (by decide +kernel)
    (Relation.ReflTransGen.single hstep) _ hp rfl
  exact absurd hchannel (by decide)

end RagService.Workers
