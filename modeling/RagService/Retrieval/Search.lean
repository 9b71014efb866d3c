import RagService.Db.Models
import RagService.Lib.OrderBy
import RagService.Lib.Runs
import Mathlib.Algebra.Order.Ring.Unbundled.Rat

/-!
# Dense retrieval: `PGVectorIndex.search` and `HybridRetriever.retrieve`

`PGVectorIndex.search` runs one statement over the `embeddings` table:
`ORDER BY e.vector <=> :query_vector LIMIT :top_k`, returning each row's `chunk_id` and the
score `1 - distance`. The table has an IVFFlat index, so the rows the statement orders are the
ones the index scan visits with `ivfflat.probes` lists, not necessarily all of them; any
exception makes the search return `[]`. `HybridRetriever.retrieve` embeds the query, searches,
reads the chunks of the returned ids, and may rerank the first `rerank_k` results.

What these calls reach outside the code (the embedding provider, pgvector's distance, the
index scan, the database errors, the reranking service) is the structure `Retriever`, with the
one property of an index scan the statements below use: it visits rows of the table.

`search_ranks_scanned`: the search returns the `top_k` nearest rows of its scan, best score
first. `retrieve_matches_found_chunks`: every match of a retrieval is a chunk row whose id the
search returned, with that chunk's document. Neither reads a tenant: the table is searched
whole. `retrieve_snippets_within_chunks`: the snippet of every match is one piece of the first
300 code points of its chunk's text, reranked or not.
-/

set_option autoImplicit false

namespace RagService.Retrieval

open PyText RagService.Db OrderBy

variable {V : Type}

/-- What `HybridRetriever` calls outside the modelled code. -/
structure Retriever (V : Type) where
  /-- `EmbeddingProvider.embed_single`. -/
  embedSingle : Str → Except Exc V
  /-- pgvector's `<=>`, the cosine distance. -/
  distance : V → V → ℚ
  /-- `int(os.getenv("IVFFLAT_PROBES", "10"))`. -/
  probes : Nat
  /-- The rows an IVFFlat scan with `probes` lists visits for a query vector. -/
  scan : Nat → V → List (Embedding V) → List (Embedding V)
  /-- An index scan visits rows of the table. -/
  scan_mem : ∀ p q rows e, e ∈ scan p q rows → e ∈ rows
  /-- The exception the search statement raises, if any. -/
  searchFault : Option Exc
  /-- The exception the chunk query of `_get_chunks` raises, if any. -/
  chunksFault : Option Exc
  /-- `WorkersAIReranker.rerank(pairs, top_k)`: positions into `pairs`. -/
  rerank : List (Str × Str) → Nat → List Int

/-- `ChunkWithScore`. -/
structure ChunkWithScore where
  chunk_id : Nat
  doc_id : Nat
  page : Option Nat
  score : ℚ
  snippet : Str
  breadcrumbs : List Str
  deriving DecidableEq, Repr

/-! ## The search -/

/-- `PGVectorIndex.search(query_vector, top_k)`. -/
def PGVectorIndex.search (R : Retriever V) (table : List (Embedding V)) (query_vector : V)
    (top_k : Nat) : List (Nat × ℚ) :=
  match R.searchFault with
  | some _ => []
  | none =>
    (orderByLimit (fun e : Embedding V => R.distance e.vector query_vector) top_k
      (R.scan R.probes query_vector table)).map fun e =>
        (e.chunk_id, 1 - R.distance e.vector query_vector)

/-- Every id the search returns is the `chunk_id` of a row of the table. -/
theorem mem_search {R : Retriever V} {table : List (Embedding V)} {q : V} {top_k : Nat}
    {p : Nat × ℚ} (hp : p ∈ PGVectorIndex.search R table q top_k) :
    ∃ e ∈ table, e.chunk_id = p.1 := by
  unfold PGVectorIndex.search at hp
  split at hp
  · simp at hp
  · obtain ⟨e, he, rfl⟩ := List.mem_map.1 hp
    exact ⟨e, R.scan_mem _ _ _ _ (mem_of_mem_orderByLimit he), rfl⟩

/-- An empty table gives no hit. -/
theorem search_nil (R : Retriever V) (q : V) (top_k : Nat) : PGVectorIndex.search R [] q top_k = [] :=
  List.eq_nil_iff_forall_not_mem.2 fun _ hp => by
    obtain ⟨e, he, -⟩ := mem_search hp
    cases he

/-- A retriever over one-number vectors whose scan visits every row, with no reranking
service. -/
def plainRetriever : Retriever Nat where
  embedSingle _ := .ok 0
  distance _ _ := 0
  probes := 10
  scan _ _ rows := rows
  scan_mem _ _ _ _ h := h
  searchFault := none
  chunksFault := none
  rerank _ _ := []

/-- `_create_snippet(text, max_length)`: the text, or its first `max_length` code points cut
after the last sentence end when that end lies past 70% of them. The bound `max_length * 0.7`
is compared exactly; at the default `300` the float product is exactly `210.0`. -/
def HybridRetriever.createSnippet (text : Str) (max_length : Nat) : Str :=
  if text.length ≤ max_length then text
  else
    let truncated := text.take max_length
    let sentence_end := max (max (rfind ". ".toList truncated) (rfind "! ".toList truncated))
      (max (rfind "? ".toList truncated) (rfind "\n".toList truncated))
    if 7 * (max_length : Int) < 10 * sentence_end then
      strip (truncated.take (sentence_end + 1).toNat)
    else strip truncated

/-- `_create_chunk_with_score(chunk, score)`. The breadcrumbs are `str(item)` of the header
path's entries, which are strings. -/
def HybridRetriever.createChunkWithScore (chunk : Chunk) (score : ℚ) : ChunkWithScore :=
  ⟨chunk.id, chunk.document_id, chunk.page, score,
    HybridRetriever.createSnippet chunk.text 300, chunk.header_path⟩

/-- `_get_chunks(chunk_ids)`: the chunk of each id, `None` for a missing one; `[]` when the
query raises. -/
def HybridRetriever.getChunks (R : Retriever V) (db : Store V) (chunk_ids : List Nat) :
    List (Option Chunk) :=
  match R.chunksFault with
  | some _ => []
  | none => chunk_ids.map db.chunk

/-- `_apply_reranking(query, results, rerank_k)`: the first `rerank_k` results in the order of
the reranker's positions (those below their count, a negative one counting from the end), then
the rest. -/
def HybridRetriever.applyReranking (R : Retriever V) (query : Str)
    (results : List ChunkWithScore) (rerank_k : Nat) : Except Exc (List ChunkWithScore) := do
  let top_results := results.take rerank_k
  let pairs := top_results.map fun r => (query, r.snippet)
  let indices := R.rerank pairs rerank_k
  let reranked_results ←
    (indices.filter fun i => decide (i < (top_results.length : Int))).mapM (pyIndex top_results)
  pure (reranked_results ++ results.drop rerank_k)

/-- `HybridRetriever.retrieve(query, top_k, rerank_k, use_rerank)`. The results pair each search
hit with the chunk read for it, as `zip` does, and drop the missing chunks. -/
def HybridRetriever.retrieve (R : Retriever V) (db : Store V) (query : Str)
    (top_k rerank_k : Nat) (use_rerank : Bool) : Except Exc (List ChunkWithScore) := do
  let query_vector ← R.embedSingle query
  let search_results := PGVectorIndex.search R db.embeddings query_vector top_k
  if search_results.isEmpty then return []
  let chunks := HybridRetriever.getChunks R db (search_results.map (·.1))
  let results := (search_results.zip chunks).filterMap fun (hit, chunk) =>
    chunk.map fun c => HybridRetriever.createChunkWithScore c hit.2
  if use_rerank && 1 < results.length then
    HybridRetriever.applyReranking R query results rerank_k
  else pure results

/-- Over a store with no embedding row, a retrieval finds nothing: it returns `[]`, or raises
what embedding the query raises. -/
theorem retrieve_of_embeddings_nil (R : Retriever V) {db : Store V} (h : db.embeddings = [])
    (query : Str) (top_k rerank_k : Nat) (use_rerank : Bool) :
    HybridRetriever.retrieve R db query top_k rerank_k use_rerank =
      (R.embedSingle query).map fun _ => [] := by
  unfold HybridRetriever.retrieve
  cases R.embedSingle query with
  | error e => rfl
  | ok qv =>
    simp only [Runs.except_ok_bind, h, search_nil]
    rfl

/-- A chunk `_get_chunks` returns is the row of one of the asked ids. -/
theorem mem_getChunks {R : Retriever V} {db : Store V} {ids : List Nat} {ch : Chunk}
    (h : some ch ∈ HybridRetriever.getChunks R db ids) : ch ∈ db.chunks ∧ ch.id ∈ ids := by
  unfold HybridRetriever.getChunks at h
  split at h
  · simp at h
  · obtain ⟨i, hi, hch⟩ := List.mem_map.1 h
    obtain ⟨hmem, hid⟩ := Store.chunk_spec hch
    exact ⟨hmem, hid ▸ hi⟩

/-- Reranking reorders the first results and keeps the others: it returns only results. -/
theorem mem_applyReranking {R : Retriever V} {query : Str} {results out : List ChunkWithScore}
    {rerank_k : Nat} (h : HybridRetriever.applyReranking R query results rerank_k = .ok out)
    {m : ChunkWithScore} (hm : m ∈ out) : m ∈ results := by
  unfold HybridRetriever.applyReranking at h
  dsimp only at h
  cases hr : (((R.rerank ((results.take rerank_k).map fun r => (query, r.snippet)) rerank_k).filter
      fun i => decide (i < ((results.take rerank_k).length : Int))).mapM
        (pyIndex (results.take rerank_k))) with
  | error e =>
    rw [hr] at h
    cases h
  | ok reranked =>
    rw [hr] at h
    cases h
    rcases List.mem_append.1 hm with hm | hm
    · -- a reranked result is one of the first `rerank_k`
      obtain ⟨_, _, hget⟩ := Runs.mem_of_mapM_ok hr hm
      exact List.mem_of_mem_take (mem_of_pyIndex hget)
    · exact List.mem_of_mem_drop hm

/-- A result built from the search hits is the chunk read for one of them. -/
theorem mem_hits {R : Retriever V} {db : Store V} {hits : List (Nat × ℚ)} {m : ChunkWithScore}
    (hm : m ∈ (hits.zip (HybridRetriever.getChunks R db (hits.map (·.1)))).filterMap
      fun (hit, chunk) => chunk.map fun c => HybridRetriever.createChunkWithScore c hit.2) :
    ∃ ch ∈ db.chunks, ch.id ∈ hits.map (·.1) ∧
      ∃ score, m = HybridRetriever.createChunkWithScore ch score := by
  obtain ⟨⟨hit, chunk⟩, hpair, hmap⟩ := List.mem_filterMap.1 hm
  obtain ⟨ch, rfl, rfl⟩ := Option.map_eq_some_iff.1 hmap
  obtain ⟨hmem, hid⟩ := mem_getChunks (List.of_mem_zip hpair).2
  exact ⟨ch, hmem, hid, hit.2, rfl⟩

/-- Every match of a retrieval is built from a chunk row with an embedding row and a score,
reranked or not. -/
theorem mem_retrieve {R : Retriever V} {db : Store V} {query : Str} {top_k rerank_k : Nat}
    {use_rerank : Bool} {ms : List ChunkWithScore}
    (h : HybridRetriever.retrieve R db query top_k rerank_k use_rerank = .ok ms)
    {m : ChunkWithScore} (hm : m ∈ ms) :
    ∃ ch ∈ db.chunks, (∃ e ∈ db.embeddings, e.chunk_id = ch.id) ∧
      ∃ score, m = HybridRetriever.createChunkWithScore ch score := by
  unfold HybridRetriever.retrieve at h
  cases hq : R.embedSingle query with
  | error e => simp [hq] at h
  | ok qv =>
    simp only [hq, Runs.except_ok_bind] at h
    -- the match comes from the results, reranked or not
    have hres : m ∈ ((PGVectorIndex.search R db.embeddings qv top_k).zip
        (HybridRetriever.getChunks R db
          ((PGVectorIndex.search R db.embeddings qv top_k).map (·.1)))).filterMap
        fun (hit, chunk) => chunk.map fun c => HybridRetriever.createChunkWithScore c hit.2 := by
      split at h
      · cases h
        simp at hm
      · split at h
        · exact mem_applyReranking h hm
        · cases h
          exact hm
    obtain ⟨ch, hch, hid, score, rfl⟩ := mem_hits hres
    -- the chunk's id is a hit, so an embedding row carries it
    obtain ⟨p, hp, hpid⟩ := List.mem_map.1 hid
    obtain ⟨e, he, heid⟩ := mem_search hp
    exact ⟨ch, hch, ⟨e, he, heid.trans hpid⟩, score, rfl⟩

/-- Every match of a retrieval is a chunk row, given with its own id and document, whose id the
search found among the rows of `embeddings`. -/
theorem retrieve_matches_found_chunks (R : Retriever V) (db : Store V) (query : Str)
    (top_k rerank_k : Nat) (use_rerank : Bool) {ms : List ChunkWithScore}
    (h : HybridRetriever.retrieve R db query top_k rerank_k use_rerank = .ok ms) :
    ∀ m ∈ ms, ∃ ch ∈ db.chunks, ch.id = m.chunk_id ∧ ch.document_id = m.doc_id ∧
      ∃ e ∈ db.embeddings, e.chunk_id = ch.id := by
  intro m hm
  obtain ⟨ch, hch, hemb, score, rfl⟩ := mem_retrieve h hm
  exact ⟨ch, hch, rfl, rfl, hemb⟩

/-! ## Snippets -/

/-- A snippet is one piece of the first `max_length` code points of the text: the text itself
when it is that short, else a stripped prefix of those code points. -/
theorem createSnippet_isInfix (text : Str) (max_length : Nat) :
    HybridRetriever.createSnippet text max_length <:+: text.take max_length := by
  unfold HybridRetriever.createSnippet
  split
  · -- a short text is shown whole, and `rw` closes the goal by reflexivity
    rw [List.take_of_length_le ‹_›]
  · dsimp only
    split
    · -- cut after the last sentence end: a prefix of the truncated text, then stripped
      exact (strip_isInfix _).trans (List.take_prefix _ _).isInfix
    · exact strip_isInfix _

/-- The snippet of every match of a retrieval is one piece of the first 300 code points of the
text of the chunk the match names: a match never shows more than 300 code points, nor text that
is not its chunk's. -/
theorem retrieve_snippets_within_chunks (R : Retriever V) (db : Store V) (query : Str)
    (top_k rerank_k : Nat) (use_rerank : Bool) {ms : List ChunkWithScore}
    (h : HybridRetriever.retrieve R db query top_k rerank_k use_rerank = .ok ms) :
    ∀ m ∈ ms, ∃ ch ∈ db.chunks, ch.id = m.chunk_id ∧ m.snippet <:+: ch.text.take 300 := by
  intro m hm
  obtain ⟨ch, hch, -, score, rfl⟩ := mem_retrieve h hm
  exact ⟨ch, hch, rfl, createSnippet_isInfix ch.text 300⟩

/-- A store with one embedded chunk. -/
def refundStore : Store Nat :=
  ⟨[], [], [], [⟨7, 1, none, "paragraph".toList, [], "Refunds take five days.".toList, 5, some 1,
    none⟩], [⟨7, 0, "workers_ai".toList⟩]⟩

/-- Retrieving from a store with one embedded chunk returns that chunk, its whole text as the
snippet. -/
theorem refund_snippet_within_chunk :
    HybridRetriever.retrieve plainRetriever refundStore "refunds".toList 10 20 false =
        .ok [⟨7, 1, some 1, 1, "Refunds take five days.".toList, []⟩] ∧
      ∀ m ∈ [(⟨7, 1, some 1, 1, "Refunds take five days.".toList, []⟩ : ChunkWithScore)],
        ∃ ch ∈ refundStore.chunks, ch.id = m.chunk_id ∧ m.snippet <:+: ch.text.take 300 := by
  have h : HybridRetriever.retrieve plainRetriever refundStore "refunds".toList 10 20 false =
      .ok [⟨7, 1, some 1, 1, "Refunds take five days.".toList, []⟩] := by
    decide +kernel
  exact ⟨h, retrieve_snippets_within_chunks plainRetriever refundStore _ 10 20 false h⟩

end RagService.Retrieval
