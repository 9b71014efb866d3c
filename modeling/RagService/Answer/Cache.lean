import Mathlib
import RagService.Lib.Glob
import RagService.Lib.JsonRoundTrip
import RagService.Api.Auth

/-!
# The answer cache

`AnswerCache` (`services/cache/answers.py`) keeps answers in Redis under the key
`answer:{tenant_id}:{hash(query)}`: `cache_answer` stores the JSON text of
`{"answer", "citations", "usage", "tenant_id"}` with `SETEX`, `get_cached_answer` reads it back
with `json.loads`, and `invalidate_cache(tenant_id, pattern="*")` deletes the keys that
`KEYS answer:{tenant_id}:{pattern}` returns. Without a connection every method gives its
default (`None`, `False`, `0`); an exception of Redis or of `json.loads` gives the same.

The server is `Redis`, its entries with distinct keys; expiry (`ttl`) is not modelled, so an
entry is held until it is replaced or deleted. `hash` is a parameter: Python salts the hash of a
string per process, and every result below holds for every hash function.

## What this module delivers

- `getCachedAnswer_cacheAnswer`: a lookup of the query just cached, or of any query with the same
  hash, under the same tenant, reads back exactly the entry stored, through `parse_dumps`;
- `getCachedAnswer_invalidateCache`: for a tenant id without glob characters,
  `invalidate_cache(t)` removes the entries of `t` and of every tenant id that starts with
  `t + ":"`, and no other;
- `generateAnswer_raises`: `AnswerOrchestrator.generate_answer` calls `self.cache.get(...)`,
  which `AnswerCache` does not define, so it raises `AttributeError` before any lookup.
-/

set_option autoImplicit false

namespace RagService.Answer

open PyText JsonText

/-! ## Lookups in a filtered list -/

section Find

variable {α : Type} {p q : α → Bool}

/-- A filter that keeps everything a lookup can find leaves the lookup as it was. -/
theorem find?_filter_of_imp (h : ∀ a, q a = true → p a = true) (l : List α) :
    (l.filter p).find? q = l.find? q := by
  induction l with
  | nil => rfl
  | cons a l ih =>
    by_cases hq : q a = true
    · simp [h a hq, hq]
    · cases hp : p a <;> simp [hp, hq, ih]

/-- A filter that drops everything a lookup can find leaves it nothing to find. -/
theorem find?_filter_eq_none (h : ∀ a, p a = true → q a = false) (l : List α) :
    (l.filter p).find? q = none := by
  rw [List.find?_eq_none]
  intro a ha
  simp [h a (List.mem_filter.1 ha).2]

end Find

/-! ## The Redis server -/

/-- The entries of the Redis server, one per key. -/
structure Redis where
  entries : List (Str × Str)
  nodup : (entries.map Prod.fst).Nodup

namespace Redis

/-- The keys an operation leaves are among the keys it started with, so they stay distinct. -/
theorem nodup_filter (r : Redis) (p : Str × Str → Bool) : ((r.entries.filter p).map Prod.fst).Nodup :=
  r.nodup.sublist (List.filter_sublist.map Prod.fst)

/-- `GET key`. -/
def get (r : Redis) (key : Str) : Option Str := (r.entries.find? (·.1 = key)).map Prod.snd

/-- `SETEX key ttl value`: the value replaces what the key held. -/
def setex (r : Redis) (key value : Str) : Redis where
  entries := r.entries.filter (·.1 ≠ key) ++ [(key, value)]
  nodup := by
    rw [List.map_append, List.nodup_append]
    refine ⟨r.nodup_filter _, List.nodup_singleton _, ?_⟩
    intro a ha b hb hab
    obtain ⟨e, he, rfl⟩ := List.mem_map.1 ha
    rw [List.map_singleton, List.mem_singleton] at hb
    have hne := (List.mem_filter.1 he).2
    simp_all

/-- `KEYS pattern`. -/
def keys (r : Redis) (pattern : Str) : List Str := (r.entries.map Prod.fst).filter (Glob.globMatch pattern)

/-- `DEL key ...`: the server without those keys, and how many of them it held. -/
def delete (r : Redis) (ks : List Str) : Redis × Nat :=
  let kept := r.entries.filter (·.1 ∉ ks)
  (⟨kept, r.nodup_filter _⟩, r.entries.length - kept.length)

theorem get_eq_none_of_not_mem {r : Redis} {key : Str} (h : key ∉ r.entries.map Prod.fst) :
    r.get key = none := by
  rw [get, Option.map_eq_none_iff, List.find?_eq_none]
  intro e he hkey
  exact h (List.mem_map.2 ⟨e, he, by simpa using hkey⟩)

theorem get_setex (r : Redis) (key value k : Str) :
    (r.setex key value).get k = if k = key then some value else r.get k := by
  simp only [get, setex, List.find?_append]
  by_cases hk : k = key
  · -- the old entry of the key is filtered out
    subst hk
    rw [find?_filter_eq_none (fun e he => by simpa using he)]
    simp
  · rw [find?_filter_of_imp (fun e he => by simp_all)]
    have hnew : [(key, value)].find? (fun e : Str × Str => decide (e.1 = k)) = none := by
      simp [Ne.symm hk]
    rw [hnew, Option.or_none, if_neg hk]

theorem get_delete (r : Redis) (ks : List Str) (k : Str) :
    (r.delete ks).1.get k = if k ∈ ks then none else r.get k := by
  simp only [get, delete]
  by_cases hk : k ∈ ks
  · -- no kept entry has the key
    rw [find?_filter_eq_none (fun e he => by
        simp only [decide_eq_true_eq] at he
        exact decide_eq_false fun h => he (h ▸ hk)), if_pos hk, Option.map_none]
  · rw [find?_filter_of_imp (fun e he => by simp only [decide_eq_true_eq] at he; simp [he, hk]), if_neg hk]

theorem mem_keys {r : Redis} {pattern k : Str} :
    k ∈ r.keys pattern ↔ k ∈ r.entries.map Prod.fst ∧ Glob.globMatch pattern k = true :=
  List.mem_filter

/-- Removing the keys a pattern selects removes what the pattern matches: a key that matches
and is not held reads as nothing anyway. -/
theorem get_unless_keys (r : Redis) (pattern k : Str) :
    (if k ∈ r.keys pattern then none else r.get k) =
      if Glob.globMatch pattern k = true then none else r.get k := by
  by_cases hmatch : Glob.globMatch pattern k = true
  · by_cases hmem : k ∈ r.entries.map Prod.fst
    · rw [if_pos (mem_keys.2 ⟨hmem, hmatch⟩), if_pos hmatch]
    · rw [if_pos hmatch, get_eq_none_of_not_mem hmem, ite_self]
  · rw [if_neg (fun h => hmatch (mem_keys.1 h).2), if_neg hmatch]

end Redis

/-! ## The cache -/

/-- An `AnswerCache`: its connection, `None` when the ping at construction failed. -/
structure AnswerCache where
  redis : Option Redis

/-- The message of Python's `AttributeError` for a name a class does not define. -/
def noAttribute (cls name : Str) : Exc :=
  ⟨"AttributeError".toList, "'".toList ++ cls ++ "' object has no attribute '".toList ++ name ++ "'".toList⟩

namespace AnswerCache

/-- The attributes of an `AnswerCache`: the connection it keeps and the methods its class
defines. -/
def attributes : List Str :=
  ["redis".toList, "_make_key".toList, "get_cached_answer".toList, "cache_answer".toList,
    "invalidate_cache".toList, "get_cache_stats".toList]

/-- Looking a method up on an `AnswerCache`. -/
def method (name : Str) : Except Exc Unit :=
  if name ∈ attributes then .ok () else .error (noAttribute "AnswerCache".toList name)

/-- What the server holds under a key, through the cache's connection. -/
def stored (c : AnswerCache) (key : Str) : Option Str := c.redis.bind (·.get key)

/-- The entry `cache_answer` stores. -/
def answerEntry (answer : Str) (citations : List JValue) (usage : JValue) (tenant_id : Str) : JValue :=
  .obj [("answer".toList, .str answer), ("citations".toList, .arr citations), ("usage".toList, usage),
    ("tenant_id".toList, .str tenant_id)]

/-- `invalidate_cache`: the keys `KEYS answer:{tenant_id}:{pattern}` returns are deleted, and
their number returned. -/
def invalidateCache (c : AnswerCache) (tenant_id pattern : Str) : AnswerCache × Nat :=
  match c.redis with
  | none => (c, 0)
  | some r =>
    let keys := r.keys ("answer:".toList ++ tenant_id ++ ":".toList ++ pattern)
    if keys.isEmpty then (c, 0)
    else (⟨some (r.delete keys).1⟩, (r.delete keys).2)

section Hash

variable (hash : Str → Int)

/-- The text of an object starts with its brace, so it is never a miss. -/
theorem dumps_obj_isEmpty (fields : List (Str × JValue)) : (dumps (.obj fields)).isEmpty = false := by
  rw [dumps]
  rfl

/-- `_make_key`. -/
def makeKey (query tenant_id : Str) : Str :=
  "answer:".toList ++ tenant_id ++ ":".toList ++ Api.intDigits (hash query)

/-- `get_cached_answer`. -/
def getCachedAnswer (c : AnswerCache) (query tenant_id : Str) : Option JValue :=
  match c.redis with
  | none => none
  | some r =>
    match r.get (makeKey hash query tenant_id) with
    -- an empty text is a miss; text `json.loads` rejects raises, and the handler returns `None`
    | some cached_data => if cached_data.isEmpty then none else parse cached_data
    | none => none

/-- `cache_answer`: whether the entry was stored. -/
def cacheAnswer (c : AnswerCache) (query tenant_id answer : Str) (citations : List JValue)
    (usage : JValue) : AnswerCache × Bool :=
  match c.redis with
  | none => (c, false)
  | some r =>
    (⟨some (r.setex (makeKey hash query tenant_id) (dumps (answerEntry answer citations usage tenant_id)))⟩,
      true)

theorem getCachedAnswer_eq (c : AnswerCache) (query tenant_id : Str) :
    getCachedAnswer hash c query tenant_id =
      (c.stored (makeKey hash query tenant_id)).bind fun d => if d.isEmpty then none else parse d := by
  rcases c with ⟨_ | r⟩
  · rfl
  · simp only [getCachedAnswer, stored, Option.bind_some]
    split <;> simp_all

/-- A lookup under the tenant of the entry just cached, for a query with the same hash, reads
that entry back. -/
theorem getCachedAnswer_cacheAnswer (r : Redis) {query query' : Str} (hq : hash query' = hash query)
    (tenant_id answer : Str) (citations : List JValue) (usage : JValue) :
    getCachedAnswer hash (cacheAnswer hash ⟨some r⟩ query tenant_id answer citations usage).1 query'
      tenant_id = some (answerEntry answer citations usage tenant_id) := by
  have hkey : makeKey hash query' tenant_id = makeKey hash query tenant_id := by
    unfold makeKey
    rw [hq]
  have hne : (dumps (answerEntry answer citations usage tenant_id)).isEmpty = false := by
    unfold answerEntry
    exact dumps_obj_isEmpty _
  simp only [getCachedAnswer_eq, hkey, cacheAnswer, stored, Option.bind_some, Redis.get_setex, if_true,
    hne, Bool.false_eq_true, if_false]
  exact parse_dumps _

end Hash

/-! ## Invalidation -/

/-- After `invalidate_cache`, the server holds nothing under the keys the pattern matches and
what it held under every other key. -/
theorem stored_invalidateCache (r : Redis) (tenant_id pattern k : Str) :
    (invalidateCache ⟨some r⟩ tenant_id pattern).1.stored k =
      if Glob.globMatch ("answer:".toList ++ tenant_id ++ ":".toList ++ pattern) k = true then none
      else r.get k := by
  rw [← Redis.get_unless_keys]
  simp only [invalidateCache]
  split
  · -- no key matched, and nothing was deleted
    rename_i hempty
    rw [List.isEmpty_iff.1 hempty]
    simp [stored]
  · simp [stored, Redis.get_delete]

/-- The characters of `str(i)` are digits and `-`. -/
theorem colon_not_mem_intDigits (i : Int) : ':' ∉ Api.intDigits i := by
  have hdigits : ∀ n, ':' ∉ Nat.toDigits 10 n := fun n h => by
    have := Nat.isDigit_of_mem_toDigits (by decide) (by decide) h
    exact absurd this (by decide)
  cases i with
  | ofNat n => exact hdigits n
  | negSucc n =>
    intro h
    rcases List.mem_cons.1 h with h | h
    · exact absurd h (by decide)
    · exact hdigits (n + 1) h

/-- A tenant prefix `t + ":"` of a key `t' + ":" + d`, where `d` has no colon, is `t' = t` or a
prefix of `t'`. -/
theorem colon_prefix_iff {d : Str} (hd : ':' ∉ d) :
    ∀ (t t' : Str), t ++ [':'] <+: t' ++ ':' :: d ↔ t = t' ∨ t ++ [':'] <+: t'
  | [], [] => by simp
  | [], c :: t' => by simp [List.cons_prefix_cons]
  | a :: t, [] => by
    simp only [List.cons_append, List.nil_append, List.cons_prefix_cons, reduceCtorEq,
      List.prefix_nil, false_or, iff_false, not_and]
    -- the colon of the prefix would lie in `d`
    intro _ hpre
    exact hd (hpre.subset (List.mem_append_right t List.mem_cons_self))
  | a :: t, b :: t' => by
    simp only [List.cons_append, List.cons_prefix_cons, colon_prefix_iff hd t t', List.cons.injEq]
    tauto

/-- The key of a query for tenant `t'` starts with the prefix of tenant `t` exactly when
`t' = t` or `t'` starts with `t + ":"`. -/
theorem prefix_makeKey_iff (hash : Str → Int) (t query t' : Str) :
    "answer:".toList ++ t ++ ":".toList <+: makeKey hash query t' ↔ t = t' ∨ t ++ [':'] <+: t' := by
  have hcolon : ":".toList = [':'] := rfl
  unfold makeKey
  rw [hcolon, List.append_assoc, List.append_assoc, List.append_assoc,
    List.prefix_append_right_inj, List.singleton_append, ← colon_prefix_iff (colon_not_mem_intDigits _)]

/-- For a tenant id without glob characters, `invalidate_cache(t)` removes every entry of the
tenant `t` and of every tenant whose id starts with `t + ":"`, and keeps every other entry. -/
theorem getCachedAnswer_invalidateCache (hash : Str → Int) {t : Str}
    (ht : ∀ c ∈ t, Glob.special c = false) (r : Redis) (query t' : Str) :
    getCachedAnswer hash (invalidateCache ⟨some r⟩ t "*".toList).1 query t' =
      if t = t' ∨ t ++ [':'] <+: t' then none else getCachedAnswer hash ⟨some r⟩ query t' := by
  -- the pattern is a literal prefix followed by a star
  have hpattern : "answer:".toList ++ t ++ ":".toList ++ "*".toList =
      ("answer:".toList ++ t ++ ":".toList) ++ ['*'] := rfl
  have hanswer : ∀ c ∈ "answer:".toList, Glob.special c = false := by simp [Glob.special]
  have hcolon : ∀ c ∈ ":".toList, Glob.special c = false := by simp [Glob.special]
  have hliteral : ∀ c ∈ "answer:".toList ++ t ++ ":".toList, Glob.special c = false :=
    List.forall_mem_append.2 ⟨List.forall_mem_append.2 ⟨hanswer, ht⟩, hcolon⟩
  have hmatch : Glob.globMatch ("answer:".toList ++ t ++ ":".toList ++ "*".toList) (makeKey hash query t') =
      decide (t = t' ∨ t ++ [':'] <+: t') := by
    rw [hpattern, Glob.globMatch_literal_star (by simp) hliteral, Bool.eq_iff_iff,
      List.isPrefixOf_iff_prefix, prefix_makeKey_iff, decide_eq_true_iff]
  rw [getCachedAnswer_eq, getCachedAnswer_eq, stored_invalidateCache, hmatch]
  by_cases hgone : t = t' ∨ t ++ [':'] <+: t'
  · simp [hgone]
  · simp [hgone, stored]

end AnswerCache

/-! ## The orchestrator's cache calls -/

/-- `generate_answer` up to its cache check: `model = model or "gemini-2.5-flash"`, then
`cached_result = self.cache.get(tenant_id, query, top_k, rerank, max_ctx_tokens, model)`, which
looks `get` up on the cache before calling it; `get` stands for what the call would return and
`retrieve` for the rest of the method, from the query embedding on. -/
def generateAnswer {α : Type} (get : Except Exc (Option α)) (retrieve : Except Exc α) :
    Except Exc α := do
  AnswerCache.method "get".toList
  match ← get with
  | some cached_result => pure cached_result
  | none => retrieve

/-- `AnswerCache` defines no `get`: every call of `generate_answer` raises `AttributeError` at its
cache check, before a lookup or a retrieval. -/
theorem generateAnswer_raises {α : Type} (get : Except Exc (Option α)) (retrieve : Except Exc α) :
    generateAnswer get retrieve = .error (noAttribute "AnswerCache".toList "get".toList) := by
  have hmissing : "get".toList ∉ AnswerCache.attributes := by decide
  simp only [generateAnswer, AnswerCache.method, if_neg hmissing]
  rfl

/-- The cache is not exact: the orchestrator's lookup raises before it reads anything, and
`invalidate_cache("a")` removes the answer cached for the tenant `"a:x"`, whatever the hash, the
server, the query and the answer. -/
theorem answerCache_lookup_and_invalidate_inexact (hash : Str → Int) (r : Redis) (query answer : Str)
    (citations : List JValue) (usage : JValue) :
    (∀ {α : Type} (get : Except Exc (Option α)) (retrieve : Except Exc α),
      generateAnswer get retrieve = .error (noAttribute "AnswerCache".toList "get".toList)) ∧
    let c := (AnswerCache.cacheAnswer hash ⟨some r⟩ query "a:x".toList answer citations usage).1
    AnswerCache.getCachedAnswer hash c query "a:x".toList =
        some (AnswerCache.answerEntry answer citations usage "a:x".toList) ∧
      AnswerCache.getCachedAnswer hash (AnswerCache.invalidateCache c "a".toList "*".toList).1 query
        "a:x".toList = none := by
  refine ⟨fun get retrieve => generateAnswer_raises get retrieve, ?_⟩
  intro c
  refine ⟨AnswerCache.getCachedAnswer_cacheAnswer hash r rfl _ answer citations usage, ?_⟩
  -- `"a:x"` starts with `"a" + ":"`, and `"a"` has no glob character
  have hliteral : ∀ ch ∈ "a".toList, Glob.special ch = false := by simp [Glob.special]
  have hprefix : "a".toList ++ [':'] <+: "a:x".toList := by decide
  obtain ⟨r', hc⟩ : ∃ r', c = ⟨some r'⟩ := ⟨_, rfl⟩
  rw [hc, AnswerCache.getCachedAnswer_invalidateCache hash hliteral, if_pos (Or.inr hprefix)]

end RagService.Answer
