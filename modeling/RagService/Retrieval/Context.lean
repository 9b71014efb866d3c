import RagService.Retrieval.Search
import RagService.Lib.Grouping
import Mathlib.Data.List.Sort
import Mathlib.Algebra.Order.BigOperators.Group.List

/-!
# Context assembly: `ContextBuilder.build`

`ContextBuilder.build(matches, max_ctx_tokens)` (`services/retrieve/context_builder.py`) turns the
retrieved matches into the context of the prompt:

- `_remove_duplicates` keeps the first match of each `chunk_id` (a loop with a seen set);
- `_merge_neighbors` groups the matches by `(doc_id, page)` in a dict, so in order of first
  appearance, and replaces each group of two or more, sorted by `chunk_id`, by one match
  (`_merge_chunk_group`): the first's ids, the best score, the snippets joined by a space and the
  breadcrumbs concatenated;
- `_filter_by_tokens` keeps matches while their running token count stays within the budget and
  stops at the first that does not fit;
- at most six matches are returned.

The token counter (`TokenTextSplitter.count_tokens`) is a parameter.

## What this module delivers

- `contextSpec`: the list the context is a prefix of, stated without the loops: the first match of
  each `chunk_id`, grouped by `(doc_id, page)` in order of first appearance, each group of two or
  more replaced by the match with the smallest `chunk_id`, the largest score, and the snippets and
  breadcrumbs in `chunk_id` order (`mergedMatch`);
- `mergeNeighbors_eq`: the code's grouping and merging computes it, and never raises;
- `build_context`: for every list of matches, every budget `max_ctx_tokens ≥ 0` and every token
  counter, the context has at most six matches, distinct `chunk_id`s, distinct `(doc_id, page)`,
  snippets whose token counts sum to at most the budget, and is a prefix of `contextSpec`.
-/

set_option autoImplicit false

namespace RagService.Retrieval.ContextBuilder

open PyText Grouping

/-! ## The code -/

/-- `_remove_duplicates`: the seen-set loop on `chunk_id`. -/
def removeDuplicates (matchList : List ChunkWithScore) : List ChunkWithScore :=
  keepFirst ChunkWithScore.chunk_id matchList

/-- The key `_merge_neighbors` groups by. -/
def groupKey (m : ChunkWithScore) : Nat × Option Nat := (m.doc_id, m.page)

/-- The `ValueError` of `max()` on an empty sequence. -/
def emptyMaxError : Exc := ⟨"ValueError".toList, "max() arg is an empty sequence".toList⟩

/-- `_merge_chunk_group(group)`. `max` keeps the first score and takes each larger one. -/
def mergeChunkGroup (group : List ChunkWithScore) : Except Exc ChunkWithScore :=
  match group with
  | [m] => .ok m
  | [] => .error emptyMaxError
  | base :: rest =>
    .ok ⟨base.chunk_id, base.doc_id, base.page, rest.foldl (fun s m => max s m.score) base.score,
      " ".toList.intercalate (group.map (·.snippet)), group.flatMap (·.breadcrumbs)⟩

theorem mergeChunkGroup_cons_cons (base r : ChunkWithScore) (rs : List ChunkWithScore) :
    mergeChunkGroup (base :: r :: rs) =
      .ok ⟨base.chunk_id, base.doc_id, base.page, (r :: rs).foldl (fun s m => max s m.score) base.score,
        " ".toList.intercalate ((base :: r :: rs).map (·.snippet)),
        (base :: r :: rs).flatMap (·.breadcrumbs)⟩ := rfl

/-- `group.sort(key=lambda x: x["chunk_id"])`, a stable sort. -/
def sortByChunkId (group : List ChunkWithScore) : List ChunkWithScore :=
  group.mergeSort fun a b => decide (a.chunk_id ≤ b.chunk_id)

/-- `_merge_neighbors`: a one-element group is kept, a larger one is sorted and merged. -/
def mergeNeighbors (matchList : List ChunkWithScore) : Except Exc (List ChunkWithScore) :=
  if matchList.isEmpty then .ok []
  else
    (groupBy groupKey matchList).mapM fun (_, group) =>
      match group with
      | [m] => .ok m
      | _ => mergeChunkGroup (sortByChunkId group)

/-- `_filter_by_tokens` from the running total `current`: it stops at the first match that does
not fit. -/
def filterByTokens (count : Str → Nat) : List ChunkWithScore → Int → Int → List ChunkWithScore
  | [], _, _ => []
  | m :: ms, max_tokens, current =>
    if current + count m.snippet ≤ max_tokens then
      m :: filterByTokens count ms max_tokens (current + count m.snippet)
    else []

/-- At most six matches: `filtered[:6]` when there are more. -/
def capSix (filtered : List ChunkWithScore) : List ChunkWithScore :=
  if filtered.length > 6 then filtered.take 6 else filtered

/-- `ContextBuilder.build(matches, max_ctx_tokens)`; `count` is `count_tokens`. -/
def build (count : Str → Nat) (matchList : List ChunkWithScore) (max_ctx_tokens : Int) :
    Except Exc (List ChunkWithScore) :=
  if matchList.isEmpty then .ok []
  else do
    let merged ← mergeNeighbors (removeDuplicates matchList)
    pure (capSix (filterByTokens count merged max_ctx_tokens 0))

/-! ## What the context is a prefix of -/

/-- A group of two or more as one match: the smallest `chunk_id`, the group's document and page,
the largest score, and the snippets (joined by a space) and breadcrumbs in `chunk_id` order. -/
def mergedMatch (key : Nat × Option Nat) (group : List ChunkWithScore) : ChunkWithScore :=
  ⟨((group.map (·.chunk_id)).min?).getD 0, key.1, key.2, ((group.map (·.score)).max?).getD 0,
    " ".toList.intercalate ((sortByChunkId group).map (·.snippet)),
    (sortByChunkId group).flatMap (·.breadcrumbs)⟩

/-- A group as the context shows it: a one-element group unchanged, a larger one merged. -/
def groupMatch (key : Nat × Option Nat) (group : List ChunkWithScore) : ChunkWithScore :=
  match group with
  | [m] => m
  | _ => mergedMatch key group

/-- The list the context is a prefix of: the first match of each `chunk_id`, grouped by
`(doc_id, page)` in order of first appearance, each group as `groupMatch` shows it. -/
def contextSpec (matchList : List ChunkWithScore) : List ChunkWithScore :=
  (groupsSpec groupKey (firstOccurrences ChunkWithScore.chunk_id matchList)).map
    fun g => groupMatch g.1 g.2

/-! ## Sorting and merging a group -/

theorem mem_sortByChunkId {g : List ChunkWithScore} {m : ChunkWithScore} :
    m ∈ sortByChunkId g ↔ m ∈ g := List.mem_mergeSort

theorem length_sortByChunkId (g : List ChunkWithScore) : (sortByChunkId g).length = g.length :=
  List.length_mergeSort g

theorem pairwise_sortByChunkId (g : List ChunkWithScore) :
    (sortByChunkId g).Pairwise fun a b => a.chunk_id ≤ b.chunk_id := by
  have h := @List.pairwise_mergeSort _ (fun a b : ChunkWithScore => decide (a.chunk_id ≤ b.chunk_id))
    (fun a b c hab hbc => by simp only [decide_eq_true_eq] at *; omega)
    (fun a b => by simp only [Bool.or_eq_true, decide_eq_true_eq]; omega) g
  simp only [decide_eq_true_eq] at h
  exact h

/-- A group of two or more, sorted and merged, is `mergedMatch` of its key. -/
theorem mergeChunkGroup_sortByChunkId {k : Nat × Option Nat} {g : List ChunkWithScore}
    (hk : ∀ m ∈ g, groupKey m = k) (hlen : 2 ≤ g.length) :
    mergeChunkGroup (sortByChunkId g) = .ok (mergedMatch k g) := by
  have hslen := length_sortByChunkId g
  obtain ⟨base, r, rs, hs⟩ : ∃ base r rs, sortByChunkId g = base :: r :: rs := by
    match h : sortByChunkId g with
    | [] => simp [h] at hslen; omega
    | [_] => simp [h] at hslen; omega
    | base :: r :: rs => exact ⟨base, r, rs, rfl⟩
  have hsorted := pairwise_sortByChunkId g
  rw [hs, List.pairwise_cons] at hsorted
  have hbase : base ∈ g := mem_sortByChunkId.1 (hs ▸ List.mem_cons_self)
  -- the first in `chunk_id` order has the smallest `chunk_id`
  have hmin : (g.map (·.chunk_id)).min? = some base.chunk_id := by
    refine List.min?_eq_some_iff.2 ⟨List.mem_map_of_mem hbase, fun b hb => ?_⟩
    obtain ⟨m, hm, rfl⟩ := List.mem_map.1 hb
    have hm' : m ∈ base :: r :: rs := hs ▸ mem_sortByChunkId.2 hm
    rcases List.mem_cons.1 hm' with rfl | hm'
    · exact le_rfl
    · exact hsorted.1 m hm'
  -- `max` over the sorted group is the largest score of the group
  have hmax : (g.map (·.score)).max? =
      some ((r :: rs).foldl (fun s m => max s m.score) base.score) := by
    -- Python's `max` over a non-empty sequence is its largest element
    have hfold : (base.score :: (r :: rs).map (·.score)).max? =
        some (((r :: rs).map (·.score)).foldl max base.score) := List.max?_cons'
    obtain ⟨hmem, hle⟩ := List.max?_eq_some_iff.1 hfold
    rw [List.foldl_map] at hmem hle
    have hperm : ∀ q, q ∈ base.score :: (r :: rs).map (·.score) ↔ q ∈ g.map (·.score) := by
      intro q
      rw [← List.map_cons, ← hs]
      simp only [List.mem_map, mem_sortByChunkId]
    exact List.max?_eq_some_iff.2 ⟨(hperm _).1 hmem, fun b hb => hle b ((hperm b).2 hb)⟩
  have hkey : groupKey base = k := hk base hbase
  rw [hs, mergeChunkGroup_cons_cons]
  simp only [mergedMatch, hmin, hmax, Option.getD_some, hs, ← hkey, groupKey]

/-- The code's branch for one group: a one-element group is kept, a larger one merged. -/
theorem mergeGroup_ok {k : Nat × Option Nat} :
    ∀ {g : List ChunkWithScore}, g ≠ [] → (∀ m ∈ g, groupKey m = k) →
      (match g with
        | [m] => .ok m
        | _ => mergeChunkGroup (sortByChunkId g)) = Except.ok (groupMatch k g)
  | [], hne, _ => absurd rfl hne
  | [_], _, _ => rfl
  | m₁ :: m₂ :: rest, _, hk => by
    rw [mergeChunkGroup_sortByChunkId hk (by simp)]
    rfl

/-! ## The code computes the specification -/

/-- `_merge_neighbors` never raises, and computes the groups of `groupsSpec` as `groupMatch`
shows them. -/
theorem mergeNeighbors_eq (l : List ChunkWithScore) :
    mergeNeighbors l = .ok ((groupsSpec groupKey l).map fun g => groupMatch g.1 g.2) := by
  unfold mergeNeighbors
  split
  · rename_i hl
    rw [List.isEmpty_iff.1 hl]
    rfl
  · rw [groupBy_eq]
    apply Runs.mapM_ok
    intro g hg
    obtain ⟨hne, hk⟩ := mem_groupsSpec groupKey hg
    exact mergeGroup_ok hne fun m hm => (hk m hm).2

/-! ## Distinct ids and distinct pages -/

theorem chunk_id_groupMatch_mem {k : Nat × Option Nat} :
    ∀ {g : List ChunkWithScore}, g ≠ [] → (groupMatch k g).chunk_id ∈ g.map (·.chunk_id)
  | [], hne => absurd rfl hne
  | [m], _ => List.mem_singleton_self _
  | m₁ :: m₂ :: rest, _ => by
    have ha := @List.min?_cons ℕ m₁.chunk_id _ _ ((m₂ :: rest).map (·.chunk_id))
    have hmem := (List.min?_eq_some_iff.1 ha).1
    show (((m₁ :: m₂ :: rest).map (·.chunk_id)).min?).getD 0 ∈ _
    rw [List.map_cons, ha, Option.getD_some]
    exact hmem

theorem groupKey_groupMatch {k : Nat × Option Nat} :
    ∀ {g : List ChunkWithScore}, g ≠ [] → (∀ m ∈ g, groupKey m = k) → groupKey (groupMatch k g) = k
  | [], hne, _ => absurd rfl hne
  | [m], _, hk => hk m List.mem_cons_self
  | _ :: _ :: _, _, _ => rfl

/-- The matches of the specification have distinct `chunk_id`s: each is the id of a kept match
of its own group, and the kept matches have distinct ids. -/
theorem nodup_chunk_ids_contextSpec (l : List ChunkWithScore) :
    ((contextSpec l).map (·.chunk_id)).Nodup := by
  set kept := firstOccurrences ChunkWithScore.chunk_id l
  have hkept : (kept.map (·.chunk_id)).Nodup := nodup_map_firstOccurrences _ l
  have hgroups := nodup_keys_groupsSpec groupKey kept
  unfold contextSpec
  rw [List.map_map]
  refine List.Nodup.map_on ?_ (List.Nodup.of_map Prod.fst hgroups)
  intro g₁ hg₁ g₂ hg₂ hid
  obtain ⟨hne₁, hin₁⟩ := mem_groupsSpec groupKey hg₁
  obtain ⟨hne₂, hin₂⟩ := mem_groupsSpec groupKey hg₂
  obtain ⟨y₁, hy₁, hid₁⟩ := List.mem_map.1 (@chunk_id_groupMatch_mem g₁.1 g₁.2 hne₁)
  obtain ⟨y₂, hy₂, hid₂⟩ := List.mem_map.1 (@chunk_id_groupMatch_mem g₂.1 g₂.2 hne₂)
  have hid' : (groupMatch g₁.1 g₁.2).chunk_id = (groupMatch g₂.1 g₂.2).chunk_id := hid
  -- the two ids are those of kept matches, which are then one match, of one group
  have hy : y₁ = y₂ := List.inj_on_of_nodup_map hkept (hin₁ y₁ hy₁).1 (hin₂ y₂ hy₂).1 (by
    show y₁.chunk_id = y₂.chunk_id
    rw [hid₁, hid₂]
    exact hid')
  have hkey : g₁.1 = g₂.1 := by
    rw [← (hin₁ y₁ hy₁).2, ← (hin₂ y₂ hy₂).2, hy]
  exact List.inj_on_of_nodup_map hgroups hg₁ hg₂ hkey

/-- The matches of the specification have distinct `(doc_id, page)`. -/
theorem nodup_groupKeys_contextSpec (l : List ChunkWithScore) :
    ((contextSpec l).map groupKey).Nodup := by
  set kept := firstOccurrences ChunkWithScore.chunk_id l
  have hkeys : (contextSpec l).map groupKey = (groupsSpec groupKey kept).map Prod.fst := by
    unfold contextSpec
    rw [List.map_map]
    apply List.map_congr_left
    intro g hg
    obtain ⟨hne, hin⟩ := mem_groupsSpec groupKey hg
    exact groupKey_groupMatch hne fun m hm => (hin m hm).2
  rw [hkeys]
  exact nodup_keys_groupsSpec groupKey kept

/-! ## The budget and the cap -/

theorem filterByTokens_isPrefix (count : Str → Nat) (max_tokens : Int) :
    ∀ (l : List ChunkWithScore) (current : Int), filterByTokens count l max_tokens current <+: l
  | [], _ => List.prefix_refl _
  | m :: ms, current => by
    unfold filterByTokens
    split
    · exact List.cons_prefix_cons.2 ⟨rfl, filterByTokens_isPrefix count max_tokens ms _⟩
    · exact List.nil_prefix

/-- The running total stays within the budget. -/
theorem filterByTokens_sum (count : Str → Nat) (max_tokens : Int) :
    ∀ (l : List ChunkWithScore) (current : Int), current ≤ max_tokens →
      current + ((filterByTokens count l max_tokens current).map fun m => (count m.snippet : Int)).sum
        ≤ max_tokens
  | [], _, h => by simpa [filterByTokens] using h
  | m :: ms, current, h => by
    unfold filterByTokens
    split
    · rename_i hfit
      have := filterByTokens_sum count max_tokens ms _ hfit
      simp only [List.map_cons, List.sum_cons]
      omega
    · simpa using h

theorem capSix_isPrefix (l : List ChunkWithScore) : capSix l <+: l := by
  unfold capSix
  split
  · exact List.take_prefix 6 l
  · exact List.prefix_refl l

theorem length_capSix (l : List ChunkWithScore) : (capSix l).length ≤ 6 := by
  unfold capSix
  split
  · simp
  · omega

/-- A prefix of a list of non-negative counts has no larger total. -/
theorem sum_le_of_isPrefix {l₁ l₂ : List ChunkWithScore} (h : l₁ <+: l₂) (count : Str → Nat) :
    (l₁.map fun m => (count m.snippet : Int)).sum ≤ (l₂.map fun m => (count m.snippet : Int)).sum := by
  obtain ⟨t, rfl⟩ := h
  have hnonneg : 0 ≤ (t.map fun m => (count m.snippet : Int)).sum :=
    List.sum_nonneg fun x hx => by
      obtain ⟨m, -, rfl⟩ := List.mem_map.1 hx
      exact Int.natCast_nonneg _
  simp only [List.map_append, List.sum_append]
  omega

/-! ## The context -/

/-- `ContextBuilder.build` never raises. For every budget `max_ctx_tokens ≥ 0` and every token
counter, the context has at most six matches, with distinct `chunk_id`s and distinct
`(doc_id, page)`, whose snippets' token counts sum to at most the budget, and it is a prefix of
`contextSpec`. -/
theorem build_context (count : Str → Nat) (matchList : List ChunkWithScore) (max_ctx_tokens : Int)
    (hbudget : 0 ≤ max_ctx_tokens) :
    ∃ context, build count matchList max_ctx_tokens = .ok context ∧ context.length ≤ 6 ∧
      (context.map (·.chunk_id)).Nodup ∧ (context.map groupKey).Nodup ∧
      (context.map fun m => (count m.snippet : Int)).sum ≤ max_ctx_tokens ∧
      context <+: contextSpec matchList := by
  -- the context is a prefix of the merged matches, which are `contextSpec`
  have hmerged : mergeNeighbors (removeDuplicates matchList) = .ok (contextSpec matchList) := by
    rw [removeDuplicates, keepFirst_eq, mergeNeighbors_eq]
    rfl
  set filtered := filterByTokens count (contextSpec matchList) max_ctx_tokens 0
  have hpre : capSix filtered <+: contextSpec matchList :=
    (capSix_isPrefix filtered).trans (filterByTokens_isPrefix count max_ctx_tokens _ 0)
  have hsum : (filtered.map fun m => (count m.snippet : Int)).sum ≤ max_ctx_tokens := by
    have h0 := filterByTokens_sum count max_ctx_tokens (contextSpec matchList) 0 hbudget
    rw [zero_add] at h0
    exact h0
  by_cases hempty : matchList.isEmpty
  · -- no matches, no context
    refine ⟨[], by simp [build, hempty], by simp, List.nodup_nil, List.nodup_nil, by simpa using hbudget,
      List.nil_prefix⟩
  · refine ⟨capSix filtered, ?_, length_capSix filtered,
      (nodup_chunk_ids_contextSpec matchList).sublist (hpre.map _).sublist,
      (nodup_groupKeys_contextSpec matchList).sublist (hpre.map _).sublist,
      le_trans (sum_le_of_isPrefix (capSix_isPrefix filtered) count) hsum, hpre⟩
    simp only [build, hempty, hmerged]
    rfl

/-- The matches of `test_merge_neighbors`, with the length as the token counter and a budget of
1000. -/
theorem build_context_neighbors :
    (0 : Int) ≤ 1000 ∧
    ∃ context, build (fun s => s.length)
        [⟨1, 1, some 1, 9 / 10, "First chunk".toList, ["H1".toList]⟩,
          ⟨2, 1, some 1, 8 / 10, "Second chunk".toList, ["H1".toList]⟩,
          ⟨3, 1, some 2, 7 / 10, "Third chunk".toList, ["H2".toList]⟩] 1000 = .ok context ∧
      context.length ≤ 6 ∧ (context.map (·.chunk_id)).Nodup ∧ (context.map groupKey).Nodup ∧
      (context.map fun m => ((fun s : Str => s.length) m.snippet : Int)).sum ≤ 1000 ∧
      context <+: contextSpec
        [⟨1, 1, some 1, 9 / 10, "First chunk".toList, ["H1".toList]⟩,
          ⟨2, 1, some 1, 8 / 10, "Second chunk".toList, ["H1".toList]⟩,
          ⟨3, 1, some 2, 7 / 10, "Third chunk".toList, ["H2".toList]⟩] :=
  ⟨by decide, build_context (fun s => s.length) _ 1000 (by decide)⟩

end RagService.Retrieval.ContextBuilder
