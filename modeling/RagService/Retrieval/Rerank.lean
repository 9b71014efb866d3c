import RagService.Retrieval.Search
import Mathlib.Data.List.Perm.Subperm

/-!
# Reranking: `WorkersAIReranker.rerank` and its callers

`services/retrieve/rerank.py` asks the Workers AI service to order `(query, document)` pairs and
returns positions into the pairs. The service is an input: its reply to each request
(`Reply`), read by the retry loop (`attempts`). The positions of a reply are taken as they come
and topped up by the least missing position (`fillUp`); the original order is the fallback
when the service is not configured or gives no results.

Two callers turn positions back into results: `HybridRetriever._apply_reranking`
(`Retrieval.Search`) reorders the first `rerank_k` results, and `AnswerOrchestrator`
(`services/answer/orchestrator.py`) reorders the chunks it gives `build_messages`
(`contextChunks`).

- `fillUp_length`: the top-up loop always ends with at least `min(top_k, len(pairs))`
  positions;
- `rerank_perm`: when the service is not configured, fails, or replies with distinct positions
  of the pairs, the reranker returns a permutation of the positions, and then
  `_apply_reranking` returns a permutation of the results with the tail unchanged
  (`applyReranking_perm`);
- `applyReranking_duplicates`: a reply naming one position twice makes `_apply_reranking`
  return that result twice and drop another.
-/

set_option autoImplicit false

namespace RagService.Retrieval

open PyText RagService.Db

/-- The positions `0, …, n - 1` as Python `int`s. -/
def positions (n : Nat) : List Int := (List.range n).map fun k : Nat => (k : Int)

theorem mem_positions {n : Nat} {i : Int} : i ∈ positions n ↔ 0 ≤ i ∧ i < n := by
  unfold positions
  rw [List.mem_map]
  constructor
  · rintro ⟨k, hk, rfl⟩
    have := List.mem_range.1 hk
    omega
  · rintro ⟨h0, hn⟩
    exact ⟨i.toNat, List.mem_range.2 (by omega), by omega⟩

theorem nodup_positions (n : Nat) : (positions n).Nodup :=
  List.nodup_range.map fun _ _ h => Int.ofNat.inj h

theorem length_positions (n : Nat) : (positions n).length = n := by
  simp [positions]

namespace WorkersAIReranker

/-- The service's reply to one request. -/
inductive Reply where
  /-- `requests.post`, `raise_for_status()` or `.json()` raised a `RequestException`; the request
  is sent again. -/
  | raised
  /-- A JSON body without `"results"`, or one whose items cannot be read (the outer handler
  catches that): the loop ends and the original order is returned. -/
  | noResults
  /-- A JSON body whose `"results"` items carry these `"index"` values, `none` for an item
  without one. -/
  | results (items : List (Option Int))
  deriving DecidableEq, Repr

/-- `self.max_retries`. -/
def maxRetries : Nat := 3

/-- `for attempt in range(self.max_retries)`, from the replies to the successive requests: the
items of the first reply with results, or `none` when the loop ends without one. A request with
no reply given counts as raised. -/
def attempts : Nat → List Reply → Option (List (Option Int))
  | 0, _ => none
  | _ + 1, [] => none
  | n + 1, .raised :: rest => attempts n rest
  | _ + 1, .noResults :: _ => none
  | _ + 1, .results items :: _ => some items

/-- `list(range(min(top_k, len(pairs))))`: the original order. -/
def fallback (top_k n : Nat) : List Int := positions (min top_k n)

/-- `while len(indices) < target: for i in range(n): if i not in indices: append; break`: while
there are fewer than `target` positions, append the least position below `n` that is missing.
Each pass appends one, so `target` passes are enough (`fillUp_length`). -/
def fillUp (n target : Nat) : Nat → List Int → List Int
  | 0, indices => indices
  | fuel + 1, indices =>
    if indices.length < target then
      match (List.range n).find? (fun i : Nat => !indices.contains (i : Int)) with
      | some i => fillUp n target fuel (indices ++ [(i : Int)])
      | none => indices
    else indices

/-- `WorkersAIReranker.rerank(pairs, top_k)`. `configured` says whether `WORKERS_AI_RERANK_URL`
and `WORKERS_AI_API_KEY` are set; `replies` are the service's replies to successive requests. -/
def rerank (configured : Bool) (replies : List Reply) (pairs : List (Str × Str)) (top_k : Nat) :
    List Int :=
  if pairs.isEmpty || !configured then fallback top_k pairs.length
  else
    match attempts maxRetries replies with
    | some items =>
      let target := min top_k pairs.length
      (fillUp pairs.length target target (items.filterMap id)).take top_k
    | none => fallback top_k pairs.length

/-! ## The top-up loop -/

section FillUp

variable {n target : Nat}

/-- A list of positions below `n` without repeats and shorter than `n` misses one. -/
theorem exists_missing {indices : List Int} (hlen : indices.length < n) :
    ∃ i : Nat, i ∈ List.range n ∧ indices.contains (i : Int) = false := by
  by_contra hall
  simp only [not_exists, not_and, Bool.not_eq_false] at hall
  -- every position is there, so there are at least `n` of them
  have hsub : positions n ⊆ indices := by
    intro i hi
    obtain ⟨k, hk, rfl⟩ := List.mem_map.1 hi
    simpa using hall k hk
  have := ((nodup_positions n).subperm hsub).length_le
  rw [length_positions] at this
  omega

/-- With enough passes the loop reaches `target` positions, or keeps what it had. -/
theorem fillUp_length (htarget : target ≤ n) :
    ∀ (fuel : Nat) (indices : List Int), target - indices.length ≤ fuel →
      (fillUp n target fuel indices).length = max indices.length target
  | 0, indices, h => by
    rw [fillUp]
    omega
  | fuel + 1, indices, h => by
    rw [fillUp]
    split
    · rename_i hlt
      obtain ⟨i, hi, hmiss⟩ := @exists_missing n indices (by omega)
      split
      · rename_i j _
        rw [fillUp_length htarget fuel _ (by rw [List.length_append]; simp; omega),
          List.length_append, List.length_singleton]
        omega
      · rename_i hnone
        have := List.find?_eq_none.1 hnone i hi
        simp only [hmiss, Bool.not_false, not_true_eq_false] at this
    · omega

/-- The loop keeps what it had and only appends missing positions below `n`. -/
theorem fillUp_spec :
    ∀ (fuel : Nat) (indices : List Int),
      indices <+: fillUp n target fuel indices ∧
        (indices.Nodup → (fillUp n target fuel indices).Nodup) ∧
        ∀ i ∈ fillUp n target fuel indices, i ∈ indices ∨ i ∈ positions n
  | 0, indices => ⟨List.prefix_refl _, id, fun i hi => Or.inl hi⟩
  | fuel + 1, indices => by
    rw [fillUp]
    split
    · split
      · rename_i j hj
        -- `j` is a missing position below `n`
        have hj_mem : j ∈ List.range n := List.mem_of_find?_eq_some hj
        have hj_miss : (j : Int) ∉ indices := by simpa using List.find?_some hj
        obtain ⟨hpre, hnodup, hmem⟩ := fillUp_spec fuel (indices ++ [(j : Int)])
        refine ⟨(List.prefix_append _ _).trans hpre, fun hnd => hnodup ?_, fun i hi => ?_⟩
        · exact List.nodup_append.2 ⟨hnd, List.nodup_singleton _,
            fun a ha b hb hab => hj_miss (by rw [List.mem_singleton.1 hb] at hab; rwa [← hab])⟩
        · rcases hmem i hi with hi | hi
          · rcases List.mem_append.1 hi with hi | hi
            · exact Or.inl hi
            · rw [List.mem_singleton.1 hi]
              exact Or.inr (List.mem_map.2 ⟨j, hj_mem, rfl⟩)
          · exact Or.inr hi
      · exact ⟨List.prefix_refl _, id, fun i hi => Or.inl hi⟩
    · exact ⟨List.prefix_refl _, id, fun i hi => Or.inl hi⟩

/-- Topped up to `n` positions, distinct positions below `n` are all of them. -/
theorem fillUp_perm {indices : List Int} (hnodup : indices.Nodup)
    (hrange : ∀ i ∈ indices, i ∈ positions n) :
    List.Perm (fillUp n n n indices) (positions n) := by
  obtain ⟨-, hnd, hmem⟩ := @fillUp_spec n n n indices
  have hsub : fillUp n n n indices ⊆ positions n := fun i hi =>
    (hmem i hi).elim (hrange i) id
  have hlen_le : indices.length ≤ n := by
    have := (hnodup.subperm fun i hi => hrange i hi).length_le
    rwa [length_positions] at this
  have hlen := fillUp_length (le_refl n) n indices (by omega)
  refine ((hnd hnodup).subperm hsub).perm_of_length_le ?_
  rw [hlen, length_positions]
  exact le_max_right _ _

end FillUp

/-! ## When the reranker permutes -/

/-- The service replies with distinct positions of the pairs, whenever it replies with
results. -/
def ValidReplies (n : Nat) (replies : List Reply) : Prop :=
  ∀ items, attempts maxRetries replies = some items →
    (items.filterMap id).Nodup ∧ ∀ i ∈ items.filterMap id, i ∈ positions n

/-- Asked for at least as many positions as there are pairs, the reranker returns a permutation
of the positions when it falls back or the service replies with distinct positions. -/
theorem rerank_perm (configured : Bool) (replies : List Reply) (pairs : List (Str × Str))
    (top_k : Nat) (hk : pairs.length ≤ top_k) (hvalid : ValidReplies pairs.length replies) :
    List.Perm (rerank configured replies pairs top_k) (positions pairs.length) := by
  have hmin : min top_k pairs.length = pairs.length := Nat.min_eq_right hk
  unfold rerank
  split
  · rw [fallback, hmin]
  · split
    · rename_i items hitems
      obtain ⟨hnodup, hrange⟩ := hvalid items hitems
      dsimp only
      rw [hmin]
      have hperm := fillUp_perm hnodup hrange
      rw [List.take_of_length_le (by rw [hperm.length_eq, length_positions]; exact hk)]
      exact hperm
    · rw [fallback, hmin]

end WorkersAIReranker

/-! ## `_apply_reranking` -/

/-- `top_results[k]` for a position below the count reads the result there. -/
theorem pyIndex_ofNat {α : Type} {xs : List α} {k : Nat} (hk : k < xs.length) :
    pyIndex xs (k : Int) = .ok xs[k] := by
  unfold pyIndex pyPosition
  rw [if_neg (by omega)]
  split
  · rename_i k' hk'
    cases Int.ofNat.inj hk'
    rw [List.getElem?_eq_getElem hk]
  · rename_i a ha
    cases ha

/-- Reading the results at positions below their count. -/
theorem mapM_pyIndex {α : Type} (xs : List α) :
    ∀ (σ : List Int), (∀ i ∈ σ, i ∈ positions xs.length) →
      σ.mapM (pyIndex xs) = .ok (σ.filterMap fun i => xs[i.toNat]?)
  | [], _ => rfl
  | i :: σ, h => by
    obtain ⟨k, hk, rfl⟩ := List.mem_map.1 (h i List.mem_cons_self)
    have hlt := List.mem_range.1 hk
    rw [List.mapM_cons, pyIndex_ofNat hlt,
      mapM_pyIndex xs σ fun j hj => h j (List.mem_cons_of_mem _ hj), List.filterMap_cons]
    simp [List.getElem?_eq_getElem hlt]

/-- Reading the results at all positions, in order, gives the results. -/
theorem filterMap_positions {α : Type} (xs : List α) :
    (positions xs.length).filterMap (fun i => xs[i.toNat]?) = xs := by
  have hmap : (List.range xs.length).map (fun k => xs[k]?) = xs.map some := by
    apply List.ext_getElem
    · simp
    · intro i h1 h2
      simp
  calc (positions xs.length).filterMap (fun i => xs[i.toNat]?)
      = ((List.range xs.length).map fun k => xs[k]?).filterMap id := by
        rw [positions, List.filterMap_map, List.filterMap_map]
        rfl
    _ = (xs.map some).filterMap id := by rw [hmap]
    _ = xs := by rw [List.filterMap_map]; exact List.filterMap_some

variable {V : Type}

/-- When the reranker returns a permutation of the positions of the first `rerank_k` results,
`_apply_reranking` returns a permutation of them followed by the other results, unchanged. -/
theorem applyReranking_perm (R : Retriever V) (query : Str) (results : List ChunkWithScore)
    (rerank_k : Nat)
    (hperm : List.Perm (R.rerank ((results.take rerank_k).map fun r => (query, r.snippet)) rerank_k)
      (positions (results.take rerank_k).length)) :
    ∃ top, HybridRetriever.applyReranking R query results rerank_k =
        .ok (top ++ results.drop rerank_k) ∧ List.Perm top (results.take rerank_k) := by
  set top_results := results.take rerank_k
  set indices := R.rerank (top_results.map fun r => (query, r.snippet)) rerank_k
  have hrange : ∀ i ∈ indices, i ∈ positions top_results.length := fun i hi => hperm.subset hi
  -- the filter keeps every position
  have hfilter : indices.filter (fun i => decide (i < (top_results.length : Int))) = indices :=
    List.filter_eq_self.2 fun i hi => by simpa using (mem_positions.1 (hrange i hi)).2
  refine ⟨indices.filterMap fun i => top_results[i.toNat]?, ?_, ?_⟩
  · unfold HybridRetriever.applyReranking
    dsimp only
    rw [hfilter, mapM_pyIndex top_results indices hrange]
    rfl
  · have h := hperm.filterMap fun i => top_results[i.toNat]?
    rwa [filterMap_positions] at h

/-- The Workers AI reranker behind `_apply_reranking`: when it falls back, or the service
replies with distinct positions of the pairs it was sent, the results come back permuted, the
ones past `rerank_k` unchanged at the end. -/
theorem applyReranking_workersAI_perm (R : Retriever V) (configured : Bool)
    (replies : List WorkersAIReranker.Reply) (query : Str) (results : List ChunkWithScore)
    (rerank_k : Nat) (hvalid : WorkersAIReranker.ValidReplies (results.take rerank_k).length replies) :
    ∃ top, HybridRetriever.applyReranking
        { R with rerank := WorkersAIReranker.rerank configured replies } query results rerank_k =
        .ok (top ++ results.drop rerank_k) ∧ List.Perm top (results.take rerank_k) := by
  apply applyReranking_perm
  have hlen : ((results.take rerank_k).map fun r => (query, r.snippet)).length =
      (results.take rerank_k).length := List.length_map _
  have := WorkersAIReranker.rerank_perm configured replies
    ((results.take rerank_k).map fun r => (query, r.snippet)) rerank_k
    (by rw [hlen, List.length_take]; omega) (by rw [hlen]; exact hvalid)
  rwa [hlen] at this

/-- The service fails once, then replies with the two positions swapped: the two results come
back permuted. -/
theorem workersAI_swaps_two_results :
    WorkersAIReranker.ValidReplies
        ([(⟨1, 1, none, 0, [], []⟩ : ChunkWithScore), ⟨2, 1, none, 0, [], []⟩].take 2).length
        [.raised, .results [some 1, some 0]] ∧
      ∃ top, HybridRetriever.applyReranking
          { plainRetriever with
            rerank := WorkersAIReranker.rerank true [.raised, .results [some 1, some 0]] }
          "q".toList [⟨1, 1, none, 0, [], []⟩, ⟨2, 1, none, 0, [], []⟩] 2 =
          .ok (top ++ [(⟨1, 1, none, 0, [], []⟩ : ChunkWithScore), ⟨2, 1, none, 0, [], []⟩].drop 2) ∧
        List.Perm top
          ([(⟨1, 1, none, 0, [], []⟩ : ChunkWithScore), ⟨2, 1, none, 0, [], []⟩].take 2) := by
  have hvalid : WorkersAIReranker.ValidReplies
      ([(⟨1, 1, none, 0, [], []⟩ : ChunkWithScore), ⟨2, 1, none, 0, [], []⟩].take 2).length
      [.raised, .results [some 1, some 0]] := by
    intro items h
    -- the first request raises, the second reply is read
    have hitems : WorkersAIReranker.attempts WorkersAIReranker.maxRetries
        [.raised, .results [some 1, some 0]] = some [some 1, some 0] := rfl
    rw [hitems] at h
    cases h
    decide
  exact ⟨hvalid, applyReranking_workersAI_perm plainRetriever true _ _ _ 2 hvalid⟩

/-- A reply naming the first position twice: `_apply_reranking` returns the first result twice
and loses the second, whatever the results and the query. -/
theorem applyReranking_duplicates (R : Retriever V) (query : Str) (r₀ r₁ : ChunkWithScore) :
    HybridRetriever.applyReranking
        { R with rerank := WorkersAIReranker.rerank true [.results [some 0, some 0]] }
        query [r₀, r₁] 2 = .ok [r₀, r₀] := by
  rfl

/-! ## The orchestrator's context

`generate_answer` and `stream_answer` read the rows of the searched ids with
`Chunk.id.in_(chunk_ids)`, which returns them in the database's order and leaves out ids
without a row, and key them by id. Without reranking, `build_messages` gets the rows in the
database's order; with it, the reranker's positions index the search results and each id is
looked up in the map, which raises `KeyError` for an id without a row. -/

namespace AnswerOrchestrator

/-- `KeyError(chunk_id)`. -/
def keyError (chunk_id : Nat) : Exc := ⟨"KeyError".toList, Nat.toDigits 10 chunk_id⟩

/-- `chunk_map[chunk_id]` for `chunk_map = {chunk.id: chunk for chunk in chunks}`: the last
row with the id. -/
def chunkMapGet (chunks : List Chunk) (chunk_id : Nat) : Except Exc Chunk :=
  match chunks.reverse.find? (·.id = chunk_id) with
  | some c => .ok c
  | none => .error (keyError chunk_id)

/-- The chunks `generate_answer` and `stream_answer` give `build_messages`, from the search
hits and the rows the database returned for their ids, in its order. -/
def contextChunks (reranker : List (Str × Str) → Nat → List Int) (query : Str) (rerank : Bool)
    (search_results : List (Nat × ℚ)) (chunks : List Chunk) : Except Exc (List Chunk) := do
  if rerank && 1 < chunks.length then
    let ordered_chunk_ids := search_results.map (·.1)
    let pairs ← ordered_chunk_ids.mapM fun chunk_id =>
      (chunkMapGet chunks chunk_id).map fun c => (query, c.text)
    let reranked_indices := reranker pairs pairs.length
    (reranked_indices.filter fun i => decide (i < (ordered_chunk_ids.length : Int))).mapM
      fun i => do
        let chunk_id ← pyIndex ordered_chunk_ids i
        chunkMapGet chunks chunk_id
  else pure chunks

/-- The map raises exactly for an id without a row. -/
theorem chunkMapGet_error {chunks : List Chunk} {chunk_id : Nat} {e : Exc}
    (h : chunkMapGet chunks chunk_id = .error e) :
    e = keyError chunk_id ∧ ∀ c ∈ chunks, c.id ≠ chunk_id := by
  unfold chunkMapGet at h
  split at h
  · cases h
  · rename_i hnone
    cases h
    refine ⟨rfl, fun c hc hid => ?_⟩
    have := List.find?_eq_none.1 hnone c (List.mem_reverse.2 hc)
    simp [hid] at this

end AnswerOrchestrator

end RagService.Retrieval
