import RagService.Embed.WorkersAI
import RagService.Api.Auth

/-!
# The embedding provider

`EmbeddingProvider` (`services/embed/provider.py`) is what the embed and index tasks and the
orchestrator embed with. It reads its provider's name (`EMBED_PROVIDER`, `workers_ai` by
default) and its batch size (`int(EMBED_BATCH_SIZE)`, `64` by default) when it is made, and
builds its embedder at the first call that needs it and keeps it: `BGEM3Embedder`
(`services/embed/bge_m3.py`) for `local`, `WorkersAIEmbedder` for `workers_ai`. `embed_texts`
raises `ValueError` for any other name, where `get_dimension` falls back to Workers AI.

`BGEM3Embedder.embed_texts` runs the batch loop of `WorkersAIEmbedder.embed_texts` over the
model's `encode`; what the model returns for a batch, and how importing
`sentence_transformers` and loading the model go, are parameters (`EmbedEnv`). The module is
the model of these calls; the properties proved of embedding are those of the Workers AI
embedder (`Embed.WorkersAI`), which the tasks and the orchestrator use by default.
-/

set_option autoImplicit false

namespace RagService.Embed

open PyText Batches

/-- What the embedders meet outside: the variable `WORKERS_AI_TOKEN`, how importing
`sentence_transformers` and loading `BAAI/bge-m3` go, what the model's `encode` returns for a
batch (with `normalize_embeddings=True`), and the replies of Workers AI. -/
structure EmbedEnv where
  workersAiToken : Option Str
  loadModel : Except Exc Unit
  encode : List Str → Except Exc (List (List Float))
  api : Nat → List Str → Reply

/-! ## `BGEM3Embedder` -/

/-- A `BGEM3Embedder` whose model has loaded. -/
structure BGEM3Embedder where
  batch_size : Int

/-- `isinstance(e, ImportError)`: `ModuleNotFoundError` is one. -/
def isImportError (e : Exc) : Bool :=
  e.name = "ImportError".toList || e.name = "ModuleNotFoundError".toList

/-- `BGEM3Embedder(batch_size)`: an `ImportError` of the import or the load becomes a
`ValueError`; any other exception passes. -/
def BGEM3Embedder.init (loadModel : Except Exc Unit) (batch_size : Int) :
    Except Exc BGEM3Embedder :=
  match loadModel with
  | .ok () => .ok ⟨batch_size⟩
  | .error e =>
    if isImportError e then
      .error (valueError ("Local embeddings require `sentence-transformers` and compatible deps. ".toList ++
        "Either install deps or set EMBED_PROVIDER=workers_ai.".toList))
    else .error e

/-- `embed_texts(texts)`: the batches at the starts of `range(0, len(texts), self.batch_size)`,
one `encode` each, stacked; `astype(np.float32)` leaves the model's `float32` rows alone. -/
def BGEM3Embedder.embedTexts (self : BGEM3Embedder)
    (encode : List Str → Except Exc (List (List Float))) (texts : List Str) :
    Except Exc (List (List Float)) := do
  if texts = [] then return []
  let starts ← Workers.batchStarts texts.length self.batch_size
  let all_embeddings ← starts.mapM fun i => encode (slice texts i self.batch_size.toNat)
  match all_embeddings with
  | [] => pure []
  | _ => vstack all_embeddings

/-- `get_dimension()`. -/
def dimension : Nat := 1024

/-! ## `EmbeddingProvider` -/

/-- The embedder a provider has built. -/
inductive Embedder where
  | local (e : BGEM3Embedder)
  | workersAi (e : WorkersAIEmbedder)

/-- `embedder.embed_texts(texts)`. -/
def Embedder.embedTexts (E : EmbedEnv) : Embedder → List Str → EmbedM (List (List Float))
  | .local e, texts => MonadExcept.ofExcept (e.embedTexts E.encode texts)
  | .workersAi e, texts => e.embedTexts E.api texts

/-- An `EmbeddingProvider`: its name, its batch size, and the embedders it has built. -/
structure EmbeddingProvider where
  provider : Str
  batch_size : Int
  local_embedder : Option BGEM3Embedder
  workers_ai_embedder : Option WorkersAIEmbedder

/-- `EmbeddingProvider(provider)`: `provider or os.getenv("EMBED_PROVIDER", "workers_ai")`, and
`int(os.getenv("EMBED_BATCH_SIZE", "64"))`. -/
def EmbeddingProvider.init (provider embedProvider embedBatchSize : Option Str) :
    Except Exc EmbeddingProvider := do
  let name := if provider.getD [] = [] then embedProvider.getD "workers_ai".toList
    else provider.getD []
  let batch_size ← Api.pyInt (.str (embedBatchSize.getD "64".toList))
  pure ⟨name, batch_size, none, none⟩

namespace EmbeddingProvider

/-- The `ImportError` `_get_local_embedder` raises for an `ImportError` of the build. -/
def localImportError : Exc :=
  ⟨"ImportError".toList, ("Local embeddings require sentence-transformers. ".toList ++
    "Set EMBED_PROVIDER=workers_ai or install dependencies.".toList)⟩

/-- `_get_local_embedder()`: the embedder built before, or a new one, kept. -/
def getLocalEmbedder (self : EmbeddingProvider) (E : EmbedEnv) :
    EmbeddingProvider × Except Exc BGEM3Embedder :=
  match self.local_embedder with
  | some e => (self, .ok e)
  | none =>
    match BGEM3Embedder.init E.loadModel self.batch_size with
    | .ok e => ({ self with local_embedder := some e }, .ok e)
    | .error err => (self, .error (if isImportError err then localImportError else err))

/-- `_get_workers_ai_embedder()`: the embedder built before, or a new one, kept. -/
def getWorkersAiEmbedder (self : EmbeddingProvider) (E : EmbedEnv) :
    EmbeddingProvider × Except Exc WorkersAIEmbedder :=
  match self.workers_ai_embedder with
  | some e => (self, .ok e)
  | none =>
    match WorkersAIEmbedder.init none E.workersAiToken self.batch_size with
    | .ok e => ({ self with workers_ai_embedder := some e }, .ok e)
    | .error err => (self, .error err)

/-- The embedder `embed_texts` picks by the provider's name. -/
def embedder (self : EmbeddingProvider) (E : EmbedEnv) : EmbeddingProvider × Except Exc Embedder :=
  if self.provider = "local".toList then
    let (p, e) := self.getLocalEmbedder E
    (p, e.map .local)
  else if self.provider = "workers_ai".toList then
    let (p, e) := self.getWorkersAiEmbedder E
    (p, e.map .workersAi)
  else (self, .error (valueError ("Unknown embedding provider: ".toList ++ self.provider)))

/-- `embed_texts(texts)`: the provider after picking its embedder, and the embedding. -/
def embedTexts (self : EmbeddingProvider) (E : EmbedEnv) (texts : List Str) :
    EmbeddingProvider × EmbedM (List (List Float)) :=
  let (p, e) := self.embedder E
  (p, match e with
    | .ok embedder => embedder.embedTexts E texts
    | .error err => throw err)

/-- `embed_single(text)`: the first row of `embed_texts([text])`. -/
def embedSingle (self : EmbeddingProvider) (E : EmbedEnv) (text : Str) :
    EmbeddingProvider × EmbedM (List Float) :=
  let (p, run) := self.embedTexts E [text]
  (p, do
    match ← run with
    | row :: _ => pure row
    | [] => throw ⟨"IndexError".toList, "index 0 is out of bounds for axis 0 with size 0".toList⟩)

/-- `get_dimension()`: the local embedder's for `local`, Workers AI's for any other name. -/
def getDimension (self : EmbeddingProvider) (E : EmbedEnv) : EmbeddingProvider × Except Exc Nat :=
  if self.provider = "local".toList then
    let (p, e) := self.getLocalEmbedder E
    (p, e.map fun _ => dimension)
  else
    let (p, e) := self.getWorkersAiEmbedder E
    (p, e.map fun _ => dimension)

end EmbeddingProvider

end RagService.Embed
