import RagService.Workers.Index

/-!
# The Workers AI embedder

`WorkersAIEmbedder` (`services/embed/workers_ai.py`) is the embedder `EmbeddingProvider` uses by
default (`EMBED_PROVIDER=workers_ai`); the tasks' `Services.embedTexts` stands for what it
returns. `embed_texts` posts the texts to Workers AI in batches of `batch_size`, and
`_embed_batch` posts one batch up to `max_retries` times: a `429` answer, a
`requests.RequestException`, or a `200` answer whose body is no JSON (which `requests` raises as
a `RequestException`) is tried again after a sleep of `retry_delay * 2 ** attempt` seconds,
unless it came at the last attempt; every other answer ends the batch, with the embeddings
L2-normalised or with a `ValueError`.

The API is read as the replies to the posts, the `n`-th POST of a payload getting
`api n payload` (`Reply`); a run records what the embedder posts and how long it sleeps (`Net`).

## What this module delivers

- `embedBatch_eq`: the retry loop in closed form (`retryPolicy`). The first reply among the
  first `max_retries` that ends the loop (`Reply.final`) decides the batch, after one POST per
  attempt and a sleep of `retry_delay * 2 ** i` after each attempt `i` before it; when none
  does, the last reply's exception is raised again, or
  `RuntimeError("Failed to embed texts after all retries")` after a `429`.
- `embedTexts_eq_map`: batching leaves the result alone. For every positive batch size and an
  API that embeds each text on its own, with one width for all, `embed_texts` returns the
  normalised embedding of each text in order, after posting the consecutive slices of the texts
  once each.
-/

set_option autoImplicit false

namespace RagService.Embed

open PyText Batches

/-! ## The API and the network -/

/-- The JSON body of a `200` answer as `_embed_batch` reads it: the truthiness of
`result.get("success")`, `result.get("result", {}).get("embeddings", [])`, and
`result.get("errors", [])` as an f-string prints it. -/
structure Body where
  success : Bool
  embeddings : List (List Float)
  errors : Str

/-- What a POST comes back with: an answer with its status code and its body as
`response.json()` reads it, raising `requests.exceptions.JSONDecodeError` (a
`RequestException`) on a body that is no JSON; or the `RequestException` that
`requests.post` raised, a timeout or a refused connection. -/
inductive Reply where
  | response (status_code : Nat) (body : Except Exc Body)
  | requestException (e : Exc)

/-- What the embedder has done on the network: the batches it posted and the sleeps, in seconds,
in order. -/
structure Net where
  posts : List (List Str)
  sleeps : List Nat

/-- Programs of the embedder: they post, sleep and raise. -/
abbrev EmbedM := ExceptT Exc (StateM Net)

/-- `requests.post(self.workers_url, json={"texts": texts}, ...)`: the `n`-th POST of the run
gets `api n texts`. -/
def post (api : Nat → List Str → Reply) (texts : List Str) : EmbedM Reply :=
  modifyGet fun net => (api net.posts.length texts, { net with posts := net.posts ++ [texts] })

/-- `time.sleep(seconds)`. -/
def sleep (seconds : Nat) : EmbedM Unit :=
  modify fun net => { net with sleeps := net.sleeps ++ [seconds] }

/-- A run of an embedder program from `net`. -/
def runNet {α : Type} (x : EmbedM α) (net : Net) : Except Exc α × Net := x.run.run net

/-! ## `_embed_batch` -/

/-- A `WorkersAIEmbedder` as `__init__` leaves it. `__init__` raises without a token, so the
token is never empty, and it sets `max_retries = 3` and `retry_delay = 1`. The URL, the model
id, the timeout and `dimension` are read by nothing the model follows. -/
structure WorkersAIEmbedder where
  api_token : Str
  token_ne : api_token ≠ []
  batch_size : Int
  max_retries : Nat
  retries_pos : 0 < max_retries
  retry_delay : Nat

/-- `ValueError(message)`. -/
def valueError (message : Str) : Exc := ⟨"ValueError".toList, message⟩

/-- `WorkersAIEmbedder(api_token, batch_size)`: `api_token or os.getenv("WORKERS_AI_TOKEN")`,
which must be truthy. -/
def WorkersAIEmbedder.init (api_token workersAiToken : Option Str) (batch_size : Int) :
    Except Exc WorkersAIEmbedder :=
  let token := if api_token.getD [] = [] then workersAiToken else api_token
  match token with
  | some t =>
    if h : t ≠ [] then .ok ⟨t, h, batch_size, 3, by decide, 1⟩
    else .error (valueError
      "WORKERS_AI_TOKEN environment variable is required for Workers AI embedder".toList)
  | none => .error (valueError
      "WORKERS_AI_TOKEN environment variable is required for Workers AI embedder".toList)

/-- `embeddings_array / (norms + 1e-8)` on one row, `norms` being `np.linalg.norm(..., axis=1)`.
The code computes in `float32`, the model in `Float`. -/
def l2Normalize (row : List Float) : List Float :=
  let norm := Float.sqrt (row.foldl (fun acc x => acc + x * x) 0)
  row.map (· / (norm + 1e-8))

/-- What numpy 1.24 raises for `np.array` of `n` rows of several lengths. -/
def inhomogeneous (n : Nat) : Exc :=
  valueError ("setting an array element with a sequence. The requested array has an inhomogeneous shape after 1 dimensions. The detected shape was (".toList ++
    Nat.toDigits 10 n ++ ",) + inhomogeneous part.".toList)

/-- `np.array(rows, dtype=np.float32)`: rows of one length make a matrix. -/
def npArray (rows : List (List Float)) : Except Exc (List (List Float)) :=
  match rows with
  | [] => .ok []
  | r :: rs => if rs.all (·.length == r.length) then .ok rows else .error (inhomogeneous rows.length)

/-- What `_embed_batch` does with the body of a `200` answer. -/
def readBody (body : Body) : Except Exc (List (List Float)) :=
  if body.success then
    match body.embeddings with
    | [] => .error (valueError "No embeddings in response".toList)
    | rows => (npArray rows).map (·.map l2Normalize)
  else .error (valueError ("API error: ".toList ++ body.errors))

/-- `RuntimeError("Failed to embed texts after all retries")`. -/
def retriesExhausted : Exc :=
  ⟨"RuntimeError".toList, "Failed to embed texts after all retries".toList⟩

/-- `ValueError(f"HTTP error: {response.status_code}")`. -/
def httpError (status_code : Nat) : Exc := valueError ("HTTP error: ".toList ++ Nat.toDigits 10 status_code)

section Batch

variable (self : WorkersAIEmbedder) (api : Nat → List Str → Reply) (texts : List Str)

/-- `if attempt < self.max_retries - 1: time.sleep(...); continue`, and `last` at the last
attempt. -/
def retryOr {α : Type} (attempt : Nat) (next last : EmbedM α) : EmbedM α :=
  if attempt < self.max_retries - 1 then do
    sleep (self.retry_delay * 2 ^ attempt)
    next
  else last

/-- The loop `for attempt in range(self.max_retries)` at `attempt`, with `left` attempts left,
the current one included; after the last, `raise RuntimeError(...)`. Only a
`RequestException` is caught: the `ValueError`s raised in the `try` block leave the loop. -/
def attempts : Nat → Nat → EmbedM (List (List Float))
  | 0, _ => throw retriesExhausted
  | left + 1, attempt => do
    match ← post api texts with
    | .requestException e => retryOr self attempt (attempts left (attempt + 1)) (throw e)
    | .response status body =>
      if status = 200 then
        match body with
        | .ok body => MonadExcept.ofExcept (readBody body)
        | .error e => retryOr self attempt (attempts left (attempt + 1)) (throw e)
      else if status = 429 then
        -- at the last attempt the `try` block ends, and so does the loop
        retryOr self attempt (attempts left (attempt + 1)) (attempts left (attempt + 1))
      else throw (httpError status)

/-- `_embed_batch(texts)`. -/
def embedBatch : EmbedM (List (List Float)) := attempts self api texts self.max_retries 0

end Batch

/-! ## `embed_texts` -/

/-- The width of a matrix: the length of its first row. -/
def width (rows : List (List Float)) : Nat := (rows.head?.map List.length).getD 0

/-- What numpy 1.24 raises when `np.vstack` meets two widths. -/
def dimensionMismatch (w0 j wj : Nat) : Exc :=
  valueError ("all the input array dimensions except for the concatenation axis must match exactly, but along dimension 1, the array at index 0 has size ".toList ++
    Nat.toDigits 10 w0 ++ " and the array at index ".toList ++ Nat.toDigits 10 j ++
    " has size ".toList ++ Nat.toDigits 10 wj)

/-- `np.vstack(arrays)` of the matrices `_embed_batch` returns: their rows, once all have the
width of the first. -/
def vstack (arrays : List (List (List Float))) : Except Exc (List (List Float)) :=
  match arrays with
  | [] => .error (valueError "need at least one array to concatenate".toList)
  | a :: rest =>
    match (rest.zipIdx 1).find? (fun p => width p.1 != width a) with
    | some (b, j) => .error (dimensionMismatch (width a) j (width b))
    | none => .ok (a :: rest).flatten

/-- `embed_texts(texts)`: the batches at the starts of `range(0, len(texts), self.batch_size)`,
one `_embed_batch` each, stacked. -/
def WorkersAIEmbedder.embedTexts (self : WorkersAIEmbedder) (api : Nat → List Str → Reply)
    (texts : List Str) : EmbedM (List (List Float)) := do
  if self.api_token = [] then throw (valueError "Cloudflare API token not provided".toList)
  if texts = [] then return []
  let starts ← MonadExcept.ofExcept (Workers.batchStarts texts.length self.batch_size)
  let all_embeddings ← starts.mapM fun i =>
    embedBatch self api (slice texts i self.batch_size.toNat)
  match all_embeddings with
  | [] => pure []
  | _ => MonadExcept.ofExcept (vstack all_embeddings)

/-- `embed_single(text)`: the first row of `embed_texts([text])`. -/
def WorkersAIEmbedder.embedSingle (self : WorkersAIEmbedder) (api : Nat → List Str → Reply)
    (text : Str) : EmbedM (List Float) := do
  match ← self.embedTexts api [text] with
  | row :: _ => pure row
  | [] => throw ⟨"IndexError".toList, "index 0 is out of bounds for axis 0 with size 0".toList⟩

/-! ## The retry policy -/

/-- A reply that ends the loop at every attempt: neither a request exception, nor a `429`, nor
a `200` answer whose body is no JSON. -/
def Reply.final : Reply → Bool
  | .requestException _ => false
  | .response status body => status != 429 && (status != 200 || body.isOk)

/-- What a reply that ends the loop makes `_embed_batch` return or raise. -/
def Reply.outcome : Reply → Except Exc (List (List Float))
  | .response status (.ok body) => if status = 200 then readBody body else .error (httpError status)
  | .response status (.error _) => .error (httpError status)
  | .requestException e => .error e

/-- What the loop raises after a last attempt whose reply does not end it. -/
def Reply.lastError : Reply → Exc
  | .requestException e => e
  | .response 200 (.error e) => e
  | .response _ _ => retriesExhausted

/-- The sleeps after the attempts `a, a + 1, ...`, `k` of them. -/
def backoff (retry_delay a k : Nat) : List Nat := (List.range k).map fun i => retry_delay * 2 ^ (a + i)

/-- The policy `_embed_batch` follows, without its loop: the first of the first `max_retries`
replies that ends the loop decides, after a POST per attempt up to it and a sleep after each
attempt before it; when none ends it, the last reply's error. -/
def retryPolicy (self : WorkersAIEmbedder) (api : Nat → List Str → Reply) (texts : List Str)
    (net : Net) : Except Exc (List (List Float)) × Net :=
  let n := net.posts.length
  match (List.range self.max_retries).find? fun i => (api (n + i) texts).final with
  | some k => ((api (n + k) texts).outcome,
      ⟨net.posts ++ List.replicate (k + 1) texts, net.sleeps ++ backoff self.retry_delay 0 k⟩)
  | none => (.error (api (n + (self.max_retries - 1)) texts).lastError,
      ⟨net.posts ++ List.replicate self.max_retries texts,
        net.sleeps ++ backoff self.retry_delay 0 (self.max_retries - 1)⟩)

/-! ## Running the embedder -/

section Run

variable {α β : Type}

theorem runNet_bind (x : EmbedM α) (f : α → EmbedM β) (net : Net) :
    runNet (x >>= f) net = match runNet x net with
      | (.ok a, net') => runNet (f a) net'
      | (.error e, net') => (.error e, net') := by
  simp only [runNet, ExceptT.run_bind, StateT.run_bind]
  rcases (x.run.run net) with ⟨r, net'⟩
  cases r <;> rfl

@[simp] theorem runNet_pure (a : α) (net : Net) : runNet (pure a : EmbedM α) net = (.ok a, net) :=
  rfl

@[simp] theorem runNet_throw (e : Exc) (net : Net) :
    runNet (throw e : EmbedM α) net = (.error e, net) := rfl

@[simp] theorem runNet_ofExcept (r : Except Exc α) (net : Net) :
    runNet (MonadExcept.ofExcept r : EmbedM α) net = (r, net) := by
  cases r <;> rfl

theorem runNet_post_bind (api : Nat → List Str → Reply) (texts : List Str)
    (f : Reply → EmbedM α) (net : Net) :
    runNet (post api texts >>= f) net =
      runNet (f (api net.posts.length texts)) { net with posts := net.posts ++ [texts] } := rfl

theorem runNet_sleep_bind (seconds : Nat) (x : EmbedM α) (net : Net) :
    runNet (sleep seconds >>= fun _ => x) net =
      runNet x { net with sleeps := net.sleeps ++ [seconds] } := rfl

end Run

section Policy

variable (self : WorkersAIEmbedder) (api : Nat → List Str → Reply) (texts : List Str)

theorem runNet_retryOr {α : Type} (attempt : Nat) (next last : EmbedM α) (net : Net) :
    runNet (retryOr self attempt next last) net =
      if attempt < self.max_retries - 1 then
        runNet next { net with sleeps := net.sleeps ++ [self.retry_delay * 2 ^ attempt] }
      else runNet last net := by
  unfold retryOr
  split
  · exact runNet_sleep_bind _ _ _
  · rfl

/-- One attempt of the loop, with `l` attempts after it. -/
theorem runNet_attempts_succ (l a : Nat) (hl : a + (l + 1) = self.max_retries) (net : Net) :
    runNet (attempts self api texts (l + 1) a) net =
      if (api net.posts.length texts).final then
        ((api net.posts.length texts).outcome, { net with posts := net.posts ++ [texts] })
      else if l = 0 then
        (.error (api net.posts.length texts).lastError, { net with posts := net.posts ++ [texts] })
      else runNet (attempts self api texts l (a + 1))
        ⟨net.posts ++ [texts], net.sleeps ++ [self.retry_delay * 2 ^ a]⟩ := by
  -- the last attempt is the one with no attempt after it
  have hlast : a < self.max_retries - 1 ↔ l ≠ 0 := by omega
  rw [attempts, runNet_post_bind]
  generalize api net.posts.length texts = r
  cases r with
  | requestException e =>
    rw [runNet_retryOr]
    by_cases hl0 : l = 0 <;> simp [Reply.final, Reply.lastError, hl0, hlast]
  | response status body =>
    by_cases h200 : status = 200
    · subst h200
      cases body with
      | ok body => simp [Reply.final, Reply.outcome, Except.isOk, Except.toBool]
      | error e =>
        -- `response.json()` raised: retried like a failed request
        simp only [if_true]
        rw [runNet_retryOr]
        by_cases hl0 : l = 0 <;>
          simp [Reply.final, Reply.lastError, Except.isOk, Except.toBool, hl0, hlast]
    · by_cases h429 : status = 429
      · subst h429
        simp only [if_neg h200, if_true]
        rw [runNet_retryOr]
        by_cases hl0 : l = 0
        · -- the loop is over: `RuntimeError`
          subst hl0
          have hlast' : ¬a < self.max_retries - 1 := by omega
          simp [Reply.final, Reply.lastError, attempts, hlast']
        · simp [Reply.final, hl0, hlast]
      · have hfinal : (Reply.response status body).final = true := by
          simp [Reply.final, h200, h429]
        cases body <;> simp [hfinal, Reply.outcome, h200, h429]

theorem backoff_zero (retry_delay a : Nat) : backoff retry_delay a 0 = [] := rfl

theorem backoff_succ (retry_delay a k : Nat) :
    backoff retry_delay a (k + 1) = retry_delay * 2 ^ a :: backoff retry_delay (a + 1) k := by
  simp only [backoff, List.range_succ_eq_map, List.map_cons, List.map_map, Nat.add_zero]
  congr 1
  refine List.map_congr_left fun i _ => ?_
  simp only [Function.comp, Nat.succ_eq_add_one]
  rw [Nat.add_assoc, Nat.add_comm 1 i]

/-- After a POST, the `i`-th reply from there is the `i + 1`-th from before it. -/
theorem length_posts_succ (net : Net) (texts : List Str) (i : Nat) :
    net.posts.length + (i + 1) = (net.posts ++ [texts]).length + i := by
  rw [List.length_append, List.length_singleton]
  omega

/-- The loop up to the first reply that ends it, the `k`-th: a POST per attempt up to it, and a
sleep after each attempt before it. -/
theorem runNet_attempts_of_final (k : Nat) : ∀ (l a : Nat) (net : Net), k ≤ l →
    a + (l + 1) = self.max_retries →
    (api (net.posts.length + k) texts).final = true →
    (∀ i < k, (api (net.posts.length + i) texts).final = false) →
    runNet (attempts self api texts (l + 1) a) net =
      ((api (net.posts.length + k) texts).outcome,
        ⟨net.posts ++ List.replicate (k + 1) texts, net.sleeps ++ backoff self.retry_delay a k⟩) := by
  induction k with
  | zero =>
    intro l a net _ hl hfinal _
    rw [Nat.add_zero] at hfinal ⊢
    rw [runNet_attempts_succ self api texts l a hl, if_pos hfinal, backoff_zero]
    simp
  | succ k ih =>
    intro l a net hk hl hfinal hbefore
    -- the first reply does not end the loop, and an attempt follows it
    have h0 : (api net.posts.length texts).final = false := by
      simpa using hbefore 0 (Nat.succ_pos k)
    obtain ⟨l, rfl⟩ : ∃ l', l = l' + 1 := ⟨l - 1, by omega⟩
    rw [runNet_attempts_succ self api texts (l + 1) a hl, if_neg (by simp [h0]),
      if_neg (Nat.succ_ne_zero l)]
    -- the rest of the loop, from the next POST
    have hnext := length_posts_succ net texts
    rw [ih l (a + 1) _ (by omega) (by omega) (by rw [← hnext]; exact hfinal)
      fun i hi => by rw [← hnext]; exact hbefore (i + 1) (by omega)]
    rw [hnext k, backoff_succ]
    simp only [List.append_assoc, List.singleton_append, List.replicate_succ]

/-- The loop when no reply ends it: a POST per attempt, a sleep after each but the last, and
the last reply's error. -/
theorem runNet_attempts_of_not_final : ∀ (l a : Nat) (net : Net),
    a + (l + 1) = self.max_retries →
    (∀ i ≤ l, (api (net.posts.length + i) texts).final = false) →
    runNet (attempts self api texts (l + 1) a) net =
      (.error (api (net.posts.length + l) texts).lastError,
        ⟨net.posts ++ List.replicate (l + 1) texts, net.sleeps ++ backoff self.retry_delay a l⟩) := by
  intro l
  induction l with
  | zero =>
    intro a net hl hnone
    have h0 : (api net.posts.length texts).final = false := by simpa using hnone 0 le_rfl
    rw [runNet_attempts_succ self api texts 0 a hl, if_neg (by simp [h0]), if_pos rfl,
      Nat.add_zero, backoff_zero]
    simp
  | succ l ih =>
    intro a net hl hnone
    have h0 : (api net.posts.length texts).final = false := by simpa using hnone 0 (Nat.zero_le _)
    rw [runNet_attempts_succ self api texts (l + 1) a hl, if_neg (by simp [h0]),
      if_neg (Nat.succ_ne_zero l)]
    have hnext := length_posts_succ net texts
    rw [ih (a + 1) _ (by omega) fun i hi => by rw [← hnext]; exact hnone (i + 1) (by omega)]
    rw [← hnext l, backoff_succ]
    simp only [List.append_assoc, List.singleton_append, List.replicate_succ]

/-- `_embed_batch` follows its retry policy, on every stream of replies. -/
theorem embedBatch_eq (net : Net) :
    runNet (embedBatch self api texts) net = retryPolicy self api texts net := by
  obtain ⟨l, hl⟩ : ∃ l, self.max_retries = l + 1 :=
    ⟨_, (Nat.succ_pred_eq_of_pos self.retries_pos).symm⟩
  unfold embedBatch retryPolicy
  dsimp only
  cases hfind : (List.range self.max_retries).find? fun i => (api (net.posts.length + i) texts).final with
  | some k =>
    obtain ⟨hfinal, hk, hbefore⟩ := List.find?_range_eq_some.mp hfind
    rw [List.mem_range] at hk
    conv_lhs => rw [hl]
    exact runNet_attempts_of_final self api texts k l 0 net (by omega) (by omega) hfinal
      fun i hi => by simpa using hbefore i hi
  | none =>
    have hnone := List.find?_range_eq_none.mp hfind
    conv_lhs => rw [hl]
    rw [runNet_attempts_of_not_final self api texts l 0 net (by omega)
      fun i hi => by simpa using hnone i (by omega)]
    rw [hl, Nat.add_sub_cancel]

end Policy

/-- The embedder `__init__` builds from a token, here with batches of two. -/
def sampleEmbedder : WorkersAIEmbedder := ⟨"token".toList, by decide, 2, 3, by decide, 1⟩

example : (WorkersAIEmbedder.init (some "token".toList) none 2).map
    (fun e => (e.api_token, e.max_retries, e.retry_delay)) = .ok ("token".toList, 3, 1) := rfl

/-- Workers AI rate-limiting every request. -/
def rateLimited : Nat → List Str → Reply := fun _ _ => .response 429 (.ok ⟨false, [], []⟩)

/-- Rate-limited at every attempt: three POSTs, sleeps of one and two seconds, then the
`RuntimeError`. -/
example : runNet (embedBatch sampleEmbedder rateLimited ["a".toList]) ⟨[], []⟩ =
    (.error retriesExhausted, ⟨[["a".toList], ["a".toList], ["a".toList]], [1, 2]⟩) := rfl

/-! ## Batching leaves the result alone -/

/-- An API that answers every POST at once with the embedding `embed t` of each text `t` posted. -/
def EmbedsEach (api : Nat → List Str → Reply) (embed : Str → List Float) : Prop :=
  ∀ n batch, ∃ errors, api n batch = .response 200 (.ok ⟨true, batch.map embed, errors⟩)

section Batching

variable (self : WorkersAIEmbedder) {api : Nat → List Str → Reply}

theorem length_l2Normalize (row : List Float) : (l2Normalize row).length = row.length := by
  simp [l2Normalize]

theorem npArray_of_width {rows : List (List Float)} {w : Nat} (h : ∀ r ∈ rows, r.length = w) :
    npArray rows = .ok rows := by
  cases rows with
  | nil => rfl
  | cons r rs =>
    -- every row has the length of the first
    have hall : rs.all (·.length == r.length) = true := by
      simp only [List.all_eq_true, beq_iff_eq]
      intro x hx
      rw [h x (List.mem_cons_of_mem r hx), h r List.mem_cons_self]
    simp only [npArray, hall, if_true]

theorem vstack_of_width {a : List (List Float)} {rest : List (List (List Float))}
    (h : ∀ b ∈ rest, width b = width a) : vstack (a :: rest) = .ok (a :: rest).flatten := by
  have hnone : (rest.zipIdx 1).find? (fun p => width p.1 != width a) = none := by
    rw [List.find?_eq_none]
    intro p hp
    simp only [bne_iff_ne, ne_eq, Decidable.not_not]
    exact h p.1 (List.fst_mem_of_mem_zipIdx hp)
  simp only [vstack, hnone]

/-- Stacking the batches of a list, each mapped row by row with rows of one width, gives the
mapped list. -/
theorem vstack_slices {f : Str → List Float} {w : Nat} (hw : ∀ t, (f t).length = w)
    {texts : List Str} (htexts : texts ≠ []) {k : Nat} (hk : 0 < k) :
    vstack ((pyRange 0 texts.length k).map fun i => (slice texts i k).map f) =
      .ok (texts.map f) := by
  obtain ⟨i, is, hcons⟩ : ∃ i is, pyRange 0 texts.length k = i :: is :=
    ⟨_, _, pyRange_cons (List.length_pos_iff.mpr htexts) hk⟩
  -- every batch holds a row, and every row has width `w`
  have hwidth : ∀ j ∈ i :: is, width ((slice texts j k).map f) = w := by
    intro j hj
    obtain ⟨t, ts, hts⟩ := List.exists_cons_of_ne_nil
      (slice_ne_nil_of_mem_pyRange hk (hcons ▸ hj : j ∈ pyRange 0 texts.length k))
    simp [width, hts, hw]
  have hflat := flatten_map_slices f texts hk
  rw [hcons, List.map_cons] at hflat ⊢
  rw [vstack_of_width (fun b hb => ?_), hflat]
  obtain ⟨j, hj, rfl⟩ := List.mem_map.mp hb
  rw [hwidth j (List.mem_cons_of_mem i hj), hwidth i List.mem_cons_self]

/-- A reply that ends the loop at the first attempt decides the batch, after one POST. -/
theorem retryPolicy_of_final (texts : List Str) (net : Net)
    (h : (api net.posts.length texts).final = true) :
    retryPolicy self api texts net =
      ((api net.posts.length texts).outcome, ⟨net.posts ++ [texts], net.sleeps⟩) := by
  obtain ⟨l, hl⟩ : ∃ l, self.max_retries = l + 1 :=
    ⟨_, (Nat.succ_pred_eq_of_pos self.retries_pos).symm⟩
  have hfind : (List.range self.max_retries).find?
      (fun i => (api (net.posts.length + i) texts).final) = some 0 := by
    rw [hl, List.range_succ_eq_map, List.find?_cons_of_pos (by simpa using h)]
  simp only [retryPolicy, hfind, Nat.add_zero, Nat.zero_add, List.replicate_one, backoff_zero,
    List.append_nil]

variable {embed : Str → List Float} {w : Nat}

/-- A batch of texts, posted to an API that embeds each, is embedded in one POST. -/
theorem embedBatch_of_embedsEach (hapi : EmbedsEach api embed) (hw : ∀ t, (embed t).length = w)
    {batch : List Str} (hne : batch ≠ []) (net : Net) :
    runNet (embedBatch self api batch) net =
      (.ok (batch.map fun t => l2Normalize (embed t)), ⟨net.posts ++ [batch], net.sleeps⟩) := by
  obtain ⟨errors, hreply⟩ := hapi net.posts.length batch
  have hfinal : (api net.posts.length batch).final = true := by
    rw [hreply]
    rfl
  rw [embedBatch_eq, retryPolicy_of_final self batch net hfinal, hreply]
  -- the body: a success with one row of width `w` per text
  obtain ⟨t, ts, rfl⟩ := List.exists_cons_of_ne_nil hne
  have hrows : ∀ r ∈ embed t :: ts.map embed, r.length = w := by
    intro r hr
    rcases List.mem_cons.mp hr with rfl | hr
    · exact hw t
    · obtain ⟨u, -, rfl⟩ := List.mem_map.mp hr
      exact hw u
  simp only [Reply.outcome, if_true, readBody, List.map_cons]
  rw [npArray_of_width hrows]
  simp [Except.map]

/-- The batches of a run of `embed_texts`, each embedded in one POST. -/
theorem runNet_mapM_embedBatch (hapi : EmbedsEach api embed) (hw : ∀ t, (embed t).length = w)
    (texts : List Str) (k : Nat) :
    ∀ (starts : List Nat), (∀ i ∈ starts, slice texts i k ≠ []) → ∀ net : Net,
      runNet (starts.mapM fun i => embedBatch self api (slice texts i k)) net =
        (.ok (starts.map fun i => (slice texts i k).map fun t => l2Normalize (embed t)),
          ⟨net.posts ++ starts.map (slice texts · k), net.sleeps⟩) := by
  intro starts
  induction starts with
  | nil =>
    intro _ net
    simp
  | cons i starts ih =>
    intro hne net
    rw [List.mapM_cons, runNet_bind, embedBatch_of_embedsEach self hapi hw (hne i List.mem_cons_self)]
    dsimp only
    rw [runNet_bind, ih (fun j hj => hne j (List.mem_cons_of_mem i hj))]
    simp

/-- Batching leaves the result alone: for every positive batch size, an API that embeds each
text on its own, with one width for all, makes `embed_texts` return the normalised embedding of
each text, in order, after posting the slices `texts[i:i + batch_size]` once each. -/
theorem embedTexts_eq_map (hapi : EmbedsEach api embed) (hw : ∀ t, (embed t).length = w)
    (hb : 0 < self.batch_size) (texts : List Str) (net : Net) :
    runNet (self.embedTexts api texts) net =
      (.ok (texts.map fun t => l2Normalize (embed t)),
        ⟨net.posts ++ (pyRange 0 texts.length self.batch_size.toNat).map
          (slice texts · self.batch_size.toNat), net.sleeps⟩) := by
  have hk : 0 < self.batch_size.toNat := by omega
  unfold WorkersAIEmbedder.embedTexts
  rw [if_neg self.token_ne]
  by_cases htexts : texts = []
  · subst htexts
    simp [pyRange_of_le (le_refl 0) hk]
  rw [if_neg htexts]
  -- the starts of `range(0, len(texts), batch_size)`
  have hstarts : Workers.batchStarts texts.length self.batch_size =
      .ok (pyRange 0 texts.length self.batch_size.toNat) := by
    rw [Workers.batchStarts, if_neg (by omega)]
  rw [runNet_bind, hstarts, runNet_ofExcept]
  dsimp only
  rw [runNet_bind, runNet_mapM_embedBatch self hapi hw texts _ _
    fun i hi => slice_ne_nil_of_mem_pyRange hk hi]
  dsimp only
  -- at least one batch; stacked, the batches are the texts in order
  obtain ⟨i, is, hcons⟩ : ∃ i is, pyRange 0 texts.length self.batch_size.toNat = i :: is :=
    ⟨_, _, pyRange_cons (List.length_pos_iff.mpr htexts) hk⟩
  have hstack := vstack_slices (f := fun t => l2Normalize (embed t))
    (fun t => (length_l2Normalize _).trans (hw t)) htexts hk
  rw [hcons, List.map_cons] at hstack
  rw [hcons, List.map_cons]
  dsimp only
  rw [hstack, runNet_ofExcept]

end Batching

/-- An API that embeds every text as `[1, 0]`. -/
def constantApi : Nat → List Str → Reply :=
  fun _ batch => .response 200 (.ok ⟨true, batch.map fun _ => [1, 0], []⟩)

theorem constant_embedTexts_eq_map :
    EmbedsEach constantApi (fun _ => [1, 0]) ∧
      runNet (sampleEmbedder.embedTexts constantApi ["a".toList, "b".toList, "c".toList])
          ⟨[], []⟩ =
        (.ok (["a".toList, "b".toList, "c".toList].map fun _ => l2Normalize [1, 0]),
          ⟨[] ++ (pyRange 0 ["a".toList, "b".toList, "c".toList].length
              sampleEmbedder.batch_size.toNat).map
            (slice ["a".toList, "b".toList, "c".toList] · sampleEmbedder.batch_size.toNat), []⟩) :=
  ⟨fun _ _ => ⟨[], rfl⟩,
    embedTexts_eq_map sampleEmbedder (fun _ _ => ⟨[], rfl⟩) (fun _ => rfl) (by decide) _ _⟩

end RagService.Embed
