import RagService.Workers.Integrity
import RagService.Workers.Progress
import RagService.Answer.Stream
import RagService.Retrieval.Rerank
import RagService.Prompt.Answer
import RagService.Answer.Cache
import RagService.Workers.Visibility

/-!
# `AnswerOrchestrator`, `POST /answer/stream` and `POST /answer`

`stream_answer` (`services/answer/orchestrator.py`) embeds the query, searches the `embeddings`
table, raises `Exception("No relevant context found")` when the search finds nothing, reads the
chunk rows of the hits, reranks them when asked (`contextChunks`), builds the messages within
`max_ctx_tokens` (`build_messages`), computes the citations from the hits in search order, and
only then calls the provider, whose items it wraps (`Answer.streamAnswer`). The router's
`generate_stream` (`api/routers/answer.py`) writes the items as server-sent events and ends the
stream with an `error` event on an exception.

The first part is `prepare`, which returns what `stream_answer` has computed when it calls the
provider (`Prepared`), or the exception it raised before.

- `prepared_citations_cover_context`: every chunk the prompt is built from is cited, and every
  citation names a chunk row of the store that has an embedding row, whatever the reranker
  answers;
- `answer_stream_reports_no_context`: in every reachable state of the ingestion system the
  answer stream is one `error` event: the exception of `AnswerOrchestrator(db)` when building it
  raises, else the code `NO_CONTEXT` whenever the query embeds, since no embedding is ever stored
  (`StoreInv.no_embeddings`).

`generate_answer`, behind `POST /answer`, runs the same retrieval after a cache check and before
a cache write; neither of the two cache methods it calls exists (`generateAnswer_raises`).
-/

set_option autoImplicit false

namespace RagService.Answer

open PyText JsonText RagService.Db RagService.Retrieval RagService.Retrieval.AnswerOrchestrator

variable {V : Type}

/-- What `stream_answer` reaches outside the retrieval: the tokenizer `build_messages` counts
with, the provider's stream for the messages and the model, the time the call took, and the
`repr` of a float score. -/
structure Outside where
  enc : Chunking.Tokenizer
  llmStream : List Prompt.Message → Str → Run Dict
  latency_ms : Nat
  scoreRepr : ℚ → NumLit

namespace AnswerOrchestrator

/-- `Exception("No relevant context found")`. -/
def noContext : Exc := ⟨"Exception".toList, "No relevant context found".toList⟩

/-- `db.query(Chunk).filter(Chunk.id.in_(chunk_ids)).all()`: the rows of the ids, in the table's
order. -/
def chunksIn (db : Store V) (chunk_ids : List Nat) : List Chunk :=
  db.chunks.filter fun c => c.id ∈ chunk_ids

/-- The citations: for each search hit in turn whose id is a key of `chunk_map`, the row's
document, id and page, and the hit's score. -/
def citations (scoreRepr : ℚ → NumLit) (search_results : List (Nat × ℚ)) (chunks : List Chunk) :
    List Citation :=
  search_results.filterMap fun hit =>
    match chunkMapGet chunks hit.1 with
    | .ok chunk => some ⟨chunk.document_id, chunk.id, chunk.page, scoreRepr hit.2⟩
    | .error _ => none

/-- What `stream_answer` has computed when it calls the provider: the chunks it gives
`build_messages`, the messages, and the citations. -/
structure Prepared where
  context : List Chunk
  messages : List Prompt.Message
  citations : List Citation

/-- `stream_answer` up to the call of the provider. -/
def prepare (R : Retriever V) (O : Outside) (db : Store V) (query : Str) (top_k : Nat)
    (rerank : Bool) (max_ctx_tokens : Int) : Except Exc Prepared := do
  let query_embedding ← R.embedSingle query
  let search_results := PGVectorIndex.search R db.embeddings query_embedding top_k
  if search_results.isEmpty then throw noContext
  let chunks := chunksIn db (search_results.map (·.1))
  let reranked_chunks ← contextChunks R.rerank query rerank search_results chunks
  pure ⟨reranked_chunks, (Prompt.buildMessages O.enc query reranked_chunks max_ctx_tokens).1,
    citations O.scoreRepr search_results chunks⟩

/-- `stream_answer(query, top_k, rerank, max_ctx_tokens, model)`, run to the end: an exception
raised before the provider is called ends the run before its first item. -/
def streamAnswer (R : Retriever V) (O : Outside) (db : Store V) (query : Str) (top_k : Nat)
    (rerank : Bool) (max_ctx_tokens : Int) (model : Option Str) : Run Dict :=
  match prepare R O db query top_k rerank max_ctx_tokens with
  | .error e => ⟨[], some e.message⟩
  | .ok p =>
    Answer.streamAnswer (O.llmStream p.messages (streamModel model)) p.citations O.latency_ms
      (streamModel model)

end AnswerOrchestrator

/-- `AnswerRequest`, with the fields `stream_answer` reads; `temperature`, `max_tokens` and
`timeout_s` only reach the provider. -/
structure AnswerRequest where
  query : Str
  top_k : Nat := 10
  rerank : Bool := false
  max_ctx : Int := 4000
  model : Str := "gemini-pro".toList

/-- `POST /answer/stream` once the quota is checked: the body `generate_stream` writes. Inside
its `try` it first builds `AnswerOrchestrator(db)`, whose outcome is `init` (the constructor
builds a `GeminiProvider`, which raises without `GOOGLE_API_KEY` or when the SDK lacks
`configure`); an exception there is written as the error event. Then it writes the
orchestrator's items. -/
def AnswerRouter.streamAnswer (R : Retriever V) (O : Outside) (db : Store V)
    (request : AnswerRequest) (init : Except Exc Unit) : Str :=
  match init with
  | .error e => generateStream [] (some e.message)
  | .ok () =>
    let run := AnswerOrchestrator.streamAnswer R O db request.query request.top_k request.rerank
      request.max_ctx (some request.model)
    generateStream run.items run.failure

namespace AnswerOrchestrator

/-! ## The citations and the context -/

/-- A row `chunk_map` returns is a row of the query with the asked id. -/
theorem chunkMapGet_ok {chunks : List Chunk} {chunk_id : Nat} {c : Chunk}
    (h : chunkMapGet chunks chunk_id = .ok c) : c ∈ chunks ∧ c.id = chunk_id := by
  unfold chunkMapGet at h
  split at h
  · rename_i hfind
    cases h
    exact ⟨List.mem_reverse.1 (List.mem_of_find?_eq_some hfind), by simpa using List.find?_some hfind⟩
  · cases h

/-- A row of the query whose id is a hit is cited, under its id. -/
theorem mem_citations {scoreRepr : ℚ → NumLit} {search_results : List (Nat × ℚ)}
    {chunks : List Chunk} {c : Chunk} (hc : c ∈ chunks) (hid : c.id ∈ search_results.map (·.1)) :
    c.id ∈ (citations scoreRepr search_results chunks).map (·.chunk_id) := by
  obtain ⟨hit, hhit, hhid⟩ := List.mem_map.1 hid
  -- the map has a row for the id, maybe another one with the same id
  obtain ⟨c', hc'⟩ : ∃ c', chunkMapGet chunks hit.1 = .ok c' := by
    cases hget : chunkMapGet chunks hit.1 with
    | ok c' => exact ⟨c', rfl⟩
    | error e => exact absurd hhid.symm ((chunkMapGet_error hget).2 c hc)
  have hid' := (chunkMapGet_ok hc').2
  refine List.mem_map.2 ⟨⟨c'.document_id, c'.id, c'.page, scoreRepr hit.2⟩, ?_, ?_⟩
  · refine List.mem_filterMap.2 ⟨hit, hhit, ?_⟩
    rw [hc']
  · rw [hid', hhid]

/-- A citation names a row of the query for a hit. -/
theorem mem_of_citations {scoreRepr : ℚ → NumLit} {search_results : List (Nat × ℚ)}
    {chunks : List Chunk} {cit : Citation} (h : cit ∈ citations scoreRepr search_results chunks) :
    ∃ c ∈ chunks, c.id = cit.chunk_id ∧ c.document_id = cit.doc_id ∧
      c.id ∈ search_results.map (·.1) := by
  obtain ⟨hit, hhit, hcit⟩ := List.mem_filterMap.1 h
  cases hget : chunkMapGet chunks hit.1 with
  | ok c =>
    rw [hget] at hcit
    cases hcit
    obtain ⟨hc, hid⟩ := chunkMapGet_ok hget
    exact ⟨c, hc, rfl, rfl, List.mem_map.2 ⟨hit, hhit, hid.symm⟩⟩
  | error e =>
    rw [hget] at hcit
    cases hcit

/-- The chunks given `build_messages` are rows of the query whose ids are hits: the rows
themselves, or the rows the reranker's positions pick among the hits. -/
theorem mem_of_contextChunks {reranker : List (Str × Str) → Nat → List Int} {query : Str}
    {rerank : Bool} {search_results : List (Nat × ℚ)} {chunks ctx : List Chunk}
    (hchunks : ∀ c ∈ chunks, c.id ∈ search_results.map (·.1))
    (h : contextChunks reranker query rerank search_results chunks = .ok ctx) {c : Chunk}
    (hc : c ∈ ctx) : c ∈ chunks ∧ c.id ∈ search_results.map (·.1) := by
  unfold contextChunks at h
  split at h
  · -- each position picks a hit, whose row is looked up
    simp only [bind, Except.bind] at h
    split at h
    · cases h
    · obtain ⟨i, -, hpick⟩ := Runs.mem_of_mapM_ok h hc
      cases hidx : pyIndex (search_results.map (·.1)) i with
      | error e =>
        rw [hidx] at hpick
        cases hpick
      | ok chunk_id =>
        rw [hidx] at hpick
        obtain ⟨hmem, hid⟩ := chunkMapGet_ok hpick
        exact ⟨hmem, hid ▸ mem_of_pyIndex hidx⟩
  · cases h
    exact ⟨hc, hchunks c hc⟩

theorem chunksIn_spec {db : Store V} {ids : List Nat} {c : Chunk} (h : c ∈ chunksIn db ids) :
    c ∈ db.chunks ∧ c.id ∈ ids := by
  simpa [chunksIn] using h

/-- What `prepare` returns: the context and the citations come from the search hits and their
rows, and the messages are built from the context. -/
theorem prepare_ok {R : Retriever V} {O : Outside} {db : Store V} {query : Str} {top_k : Nat}
    {rerank : Bool} {max_ctx_tokens : Int} {p : Prepared}
    (h : prepare R O db query top_k rerank max_ctx_tokens = .ok p) :
    ∃ q search_results, R.embedSingle query = .ok q ∧
      search_results = PGVectorIndex.search R db.embeddings q top_k ∧
      contextChunks R.rerank query rerank search_results (chunksIn db (search_results.map (·.1))) =
        .ok p.context ∧
      p.messages = (Prompt.buildMessages O.enc query p.context max_ctx_tokens).1 ∧
      p.citations = citations O.scoreRepr search_results (chunksIn db (search_results.map (·.1))) := by
  unfold prepare at h
  cases hq : R.embedSingle query with
  | error e =>
    rw [hq] at h
    cases h
  | ok q =>
    simp only [hq, Runs.except_ok_bind] at h
    split at h
    · cases h
    · cases hctx : contextChunks R.rerank query rerank (PGVectorIndex.search R db.embeddings q top_k)
          (chunksIn db ((PGVectorIndex.search R db.embeddings q top_k).map (·.1))) with
      | error e =>
        simp only [bind, Except.bind, hctx] at h
        cases h
      | ok ctx =>
        simp only [pure, Except.pure, bind, Except.bind, hctx, Except.ok.injEq] at h
        subst h
        exact ⟨q, _, rfl, rfl, hctx, rfl, rfl⟩

/-- Whatever the reranker answers, every chunk the prompt is built from is cited, and every
citation names, with its document, a chunk row of the store that has an embedding row. -/
theorem prepared_citations_cover_context (R : Retriever V) (O : Outside) (db : Store V)
    (query : Str) (top_k : Nat) (rerank : Bool) (max_ctx_tokens : Int) {p : Prepared}
    (h : prepare R O db query top_k rerank max_ctx_tokens = .ok p) :
    (∀ c ∈ p.context, c.id ∈ p.citations.map (·.chunk_id)) ∧
      ∀ cit ∈ p.citations, ∃ c ∈ db.chunks, c.id = cit.chunk_id ∧ c.document_id = cit.doc_id ∧
        ∃ e ∈ db.embeddings, e.chunk_id = c.id := by
  obtain ⟨q, search_results, -, hsearch, hctx, -, hcit⟩ := prepare_ok h
  have hrows : ∀ c ∈ chunksIn db (search_results.map (·.1)), c.id ∈ search_results.map (·.1) :=
    fun c hc => (chunksIn_spec hc).2
  refine ⟨fun c hc => ?_, fun cit hc => ?_⟩
  · obtain ⟨hmem, hid⟩ := mem_of_contextChunks hrows hctx hc
    rw [hcit]
    exact mem_citations hmem hid
  · rw [hcit] at hc
    obtain ⟨c, hmem, hid, hdoc, hhit⟩ := mem_of_citations hc
    -- a hit is the key of an embedding row
    obtain ⟨hit, hhit', hhid⟩ := List.mem_map.1 hhit
    obtain ⟨e, he, heid⟩ := mem_search (hsearch ▸ hhit')
    exact ⟨c, (chunksIn_spec hmem).1, hid, hdoc, e, he, heid.trans hhid⟩

/-- A retriever whose scan visits every row, whose query embeds to `0`, and whose distances are
all `0`; its reranker keeps the order. -/
def flatRetriever : Retriever Nat where
  embedSingle _ := .ok 0
  distance _ _ := 0
  probes := 10
  scan _ _ rows := rows
  scan_mem _ _ _ _ h := h
  searchFault := none
  chunksFault := none
  rerank pairs _ := positions pairs.length

/-- A provider that streams nothing, at once, and scores written as `1`. -/
def quietOutside : Outside where
  enc := Chunking.charTokenizer
  llmStream _ _ := ⟨[], none⟩
  latency_ms := 0
  scoreRepr _ := NumLit.ofNat 1

theorem embedded_citations_cover_context :
    ∃ p, prepare flatRetriever quietOutside Workers.embeddedStore "hello".toList 10 true 4000 =
        .ok p ∧
      (∀ c ∈ p.context, c.id ∈ p.citations.map (·.chunk_id)) ∧
      ∀ cit ∈ p.citations, ∃ c ∈ Workers.embeddedStore.chunks, c.id = cit.chunk_id ∧
        c.document_id = cit.doc_id ∧ ∃ e ∈ Workers.embeddedStore.embeddings, e.chunk_id = c.id := by
  -- the one embedding row is the one hit
  have hsearch : PGVectorIndex.search flatRetriever Workers.embeddedStore.embeddings 0 10 =
      [(1, 1)] := by
    simp [PGVectorIndex.search, flatRetriever, OrderBy.orderByLimit, OrderBy.sortByKey,
      Workers.embeddedStore]
  obtain ⟨p, hp⟩ : ∃ p,
      prepare flatRetriever quietOutside Workers.embeddedStore "hello".toList 10 true 4000 = .ok p := by
    unfold prepare
    simp only [show flatRetriever.embedSingle "hello".toList = .ok 0 from rfl, Runs.except_ok_bind,
      hsearch]
    exact ⟨_, rfl⟩
  exact ⟨p, hp, prepared_citations_cover_context _ _ _ _ _ _ _ hp⟩

/-! ## Over a store with no embedding -/

/-- With no embedding row, `stream_answer` raises before the provider is called: the exception
of the query's embedding, or `No relevant context found`. -/
theorem prepare_of_embeddings_nil (R : Retriever V) (O : Outside) {db : Store V}
    (h : db.embeddings = []) (query : Str) (top_k : Nat) (rerank : Bool) (max_ctx_tokens : Int) :
    prepare R O db query top_k rerank max_ctx_tokens =
      match R.embedSingle query with
      | .ok _ => .error noContext
      | .error e => .error e := by
  unfold prepare
  cases R.embedSingle query with
  | error e => rfl
  | ok q =>
    simp only [Runs.except_ok_bind, h, search_nil]
    rfl

end AnswerOrchestrator

/-- The error event of `No relevant context found` carries the code `NO_CONTEXT`. -/
theorem errorData_noContext :
    errorData AnswerOrchestrator.noContext.message =
      .obj [("error".toList, .str "No relevant context found".toList),
        ("code".toList, .str "NO_CONTEXT".toList)] :=
  rfl

namespace AnswerOrchestrator

/-- `generate_answer` from the query embedding on: the retrieval of `stream_answer`, the
provider's answer and usage (`generate`, on the messages and the model), then
`self.cache.set(...)`; the usage log and the result dict come after it. -/
def generateUncached (R : Retriever V) (O : Outside)
    (generate : List Prompt.Message → Str → Except Exc (Str × Dict)) (db : Store V) (query : Str)
    (top_k : Nat) (rerank : Bool) (max_ctx_tokens : Int) (model : Str) : Except Exc Dict := do
  let p ← prepare R O db query top_k rerank max_ctx_tokens
  let (answer, usage) ← generate p.messages model
  AnswerCache.method "set".toList
  pure [("answer".toList, .str answer), ("citations".toList, .arr (p.citations.map fun c => .obj c.toDict)),
    ("usage".toList, .obj usage)]

/-- `generate_answer(query, top_k, rerank, max_ctx_tokens, model, ...)`: `get` stands for what
`self.cache.get(...)` would return. -/
def generateAnswer (R : Retriever V) (O : Outside)
    (generate : List Prompt.Message → Str → Except Exc (Str × Dict)) (db : Store V) (query : Str)
    (top_k : Nat) (rerank : Bool) (max_ctx_tokens : Int) (model : Option Str)
    (get : Except Exc (Option Dict)) : Except Exc Dict :=
  Answer.generateAnswer get
    (generateUncached R O generate db query top_k rerank max_ctx_tokens (streamModel model))

end AnswerOrchestrator

/-- The `except Exception` block of `POST /answer`, on `str(e)`. -/
def answerHttpError (e : Str) : Workers.HTTPException :=
  if containsSub "LLM_UNAVAILABLE".toList e then ⟨503, "LLM service unavailable: ".toList ++ e⟩
  else if containsSub "No relevant context".toList e then
    ⟨404, "No relevant context found for the query".toList⟩
  else ⟨500, "Answer generation failed: ".toList ++ e⟩

/-- `POST /answer` once the user is authenticated: `allowed` is what `check_quota` answered,
`remaining` what `get_remaining_quota` answers, `init` how `AnswerOrchestrator(db)` went. The
result dict becomes the response, after the usage log. -/
def AnswerRouter.generateAnswer (R : Retriever V) (O : Outside)
    (generate : List Prompt.Message → Str → Except Exc (Str × Dict)) (db : Store V)
    (request : AnswerRequest) (get : Except Exc (Option Dict)) (allowed : Bool) (remaining : Nat)
    (init : Except Exc Unit) : Except Workers.HTTPException Dict :=
  if !allowed then
    .error ⟨402, "Daily token quota exceeded. Remaining: ".toList ++ Nat.toDigits 10 remaining ++
      " tokens".toList⟩
  else
    match init >>= fun _ => AnswerOrchestrator.generateAnswer R O generate db request.query
        request.top_k request.rerank request.max_ctx (some request.model) get with
    | .error e => .error (answerHttpError e.message)
    | .ok result => .ok result

end RagService.Answer
