import RagService.Lib.JsonRoundTrip
import RagService.Lib.LineReader
import RagService.Lib.Runs

/-!
# The streamed answer: provider, orchestrator, router and chat page

`POST /answer/stream` passes messages through four hands:

- `GeminiProvider.stream` (`services/llm/gemini.py`) yields a dict
  `{"type": "chunk", "text": t}` for each non-empty text of the SDK's stream, then
  `{"type": "done", "usage": ...}`, and turns an exception of the SDK into
  `Exception("LLM_UNAVAILABLE: ...")`;
- `AnswerOrchestrator.stream_answer` (`services/answer/orchestrator.py`) yields
  `{"type": "chunk", "text": chunk_text}` for each item `chunk_text` of the provider, whatever it
  is, then `{"type": "done", "citations": ..., "usage": ...}`;
- `generate_stream` (`api/routers/answer.py`) writes each item as a server-sent event
  `event: <type>\ndata: <json>\n\n`, whose data is `{"text": chunk["text"]}` or
  `{"citations": ..., "usage": ...}`, and ends the stream with an `error` event when an
  exception is raised;
- the chat page (`web/src/pages/Chat.tsx`) reads the body in chunks, splits its buffer into lines,
  parses each `data: ` line with `JSON.parse` and dispatches on the field `type` of the value:
  `chunk` appends `text` to the assistant's message, `done` sets its citations.

A generator is modelled by what it does when it is run to the end (`Run`): the items it yields,
then its return or the exception it raises. The page's reads are chunks of characters: the
router writes printable ASCII only (`printable_dumps`), one byte per character, so cutting the
bytes anywhere cuts between characters.

## What this module delivers

- `handleLine_of_member_type`: a `data: ` line carrying a written value with no `type` member
  leaves the message as it is, through the round trip `parse_dumps`;
- `generateStream_ignored`: a stream whose items are all written without a `type` member is a
  text of lines the page ignores, and `readStream_of_ignored`: the page reads such a text, cut
  anyhow, without changing the message;
- `readStream_answer`: for every text the SDK streams, every usage, every citation list and
  every way the body is cut into reads, the page's assistant message stays empty and gets no
  citations, since no value the router writes has a `type` member.
-/

set_option autoImplicit false

namespace RagService.Answer

open PyText JsonText

/-! ## Dicts and generators -/

/-- A Python dict with string keys, its items in insertion order. -/
abbrev Dict := List (Str × JValue)

/-- `KeyError(k)`; its `str()` is the key's `repr`. -/
def keyError (k : Str) : Exc := ⟨"KeyError".toList, "'".toList ++ k ++ "'".toList⟩

/-- `d[k]`. -/
def getItem (d : Dict) (k : Str) : Except Exc JValue :=
  match d.find? (·.1 = k) with
  | some (_, v) => .ok v
  | none => .error (keyError k)

/-- `v == s` for a string `s`. -/
def isStr (v : JValue) (s : Str) : Bool :=
  match v with
  | .str t => t == s
  | _ => false

/-- A generator run to the end: the items it yields, then either its return (`none`) or the
`str()` of the exception it raises. -/
structure Run (α : Type) where
  items : List α
  failure : Option Str

/-! ## `GeminiProvider.stream` -/

/-- The Gemini SDK's stream: the `text` of each chunk it delivers (the empty text for `None`),
then its end or the `str()` of the exception it raises. -/
structure SdkStream where
  texts : List Str
  failure : Option Str

/-- The usage the provider reports: the model, the counted input tokens, the time the stream
took and the estimated cost, a float written as its `repr`. -/
structure GeminiUsage where
  model : Str
  in_tokens : Nat
  latency_ms : Nat
  cost_usd : NumLit

/-- The provider's `usage` dict. -/
def GeminiUsage.toDict (u : GeminiUsage) : Dict :=
  [("provider".toList, .str "gemini".toList), ("model".toList, .str u.model),
    ("in_tokens".toList, .num (.ofNat u.in_tokens)), ("out_tokens".toList, .num (.ofNat 0)),
    ("latency_ms".toList, .num (.ofNat u.latency_ms)), ("cost_usd".toList, .num u.cost_usd)]

/-- The message of the exception the provider raises for an exception of the SDK; `lower` is
`str.lower`, which reads the Unicode database. -/
def llmUnavailable (lower : Str → Str) (e : Str) : Str :=
  if containsSub "API key".toList e || containsSub "403".toList e then
    "LLM_UNAVAILABLE: Invalid API key".toList
  else if containsSub "429".toList e then "LLM_UNAVAILABLE: Rate limit exceeded".toList
  else if containsSub "timeout".toList (lower e) then "LLM_UNAVAILABLE: Request timeout".toList
  else "LLM_UNAVAILABLE: ".toList ++ e

/-- `GeminiProvider.stream`: a chunk item for each non-empty text, then the done item with the
usage; an exception of the SDK ends the run with the provider's own exception. -/
def geminiStream (lower : Str → Str) (sdk : SdkStream) (usage : GeminiUsage) : Run Dict :=
  let chunks := (sdk.texts.filter (fun t => !t.isEmpty)).map
    fun t => [("type".toList, .str "chunk".toList), ("text".toList, .str t)]
  match sdk.failure with
  | none => ⟨chunks ++ [[("type".toList, .str "done".toList), ("usage".toList, .obj usage.toDict)]], none⟩
  | some e => ⟨chunks, some (llmUnavailable lower e)⟩

/-! ## `AnswerOrchestrator.stream_answer` -/

/-- A citation of the answer: the chunk's document, id and page, and the search score, a float
written as its `repr`. -/
structure Citation where
  doc_id : Nat
  chunk_id : Nat
  page : Option Nat
  score : NumLit

/-- The citation dict. -/
def Citation.toDict (c : Citation) : Dict :=
  [("doc_id".toList, .num (.ofNat c.doc_id)), ("chunk_id".toList, .num (.ofNat c.chunk_id)),
    ("page".toList, match c.page with
      | some p => .num (.ofNat p)
      | none => .null),
    ("score".toList, .num c.score)]

/-- `model or "gemini-2.5-flash"`. -/
def streamModel (model : Option Str) : Str :=
  match model with
  | some m => if m.isEmpty then "gemini-2.5-flash".toList else m
  | none => "gemini-2.5-flash".toList

/-- The usage dict of `stream_answer`. -/
def streamUsage (latency_ms : Nat) (model : Str) : Dict :=
  [("in_tokens".toList, .null), ("out_tokens".toList, .null),
    ("latency_ms".toList, .num (.ofNat latency_ms)), ("provider".toList, .str "gemini".toList),
    ("model".toList, .str model), ("cost_usd".toList, .null)]

/-- `stream_answer` from the call of the provider on: each item of the provider becomes the
`text` of a chunk item, and when the provider returns, the done item carries the citations and
the usage. An exception of the provider passes through. -/
def streamAnswer (llm : Run Dict) (citations : List Citation) (latency_ms : Nat) (model : Str) :
    Run Dict :=
  let wrapped := llm.items.map fun c => [("type".toList, .str "chunk".toList), ("text".toList, .obj c)]
  match llm.failure with
  | none =>
    ⟨wrapped ++ [[("type".toList, .str "done".toList),
      ("citations".toList, .arr (citations.map fun c => .obj c.toDict)),
      ("usage".toList, .obj (streamUsage latency_ms model))]], none⟩
  | some e => ⟨wrapped, some e⟩

/-! ## `generate_stream` -/

/-- A server-sent event: `f"event: {event}\ndata: {data}\n\n"`. -/
def frame (event data : Str) : Str :=
  "event: ".toList ++ event ++ '\n' :: "data: ".toList ++ data ++ ['\n', '\n']

/-- The frame `generate_stream` writes for one item of the orchestrator; an item of another type
writes nothing. -/
def itemFrame (chunk : Dict) : Except Exc Str := do
  let type ← getItem chunk "type".toList
  if isStr type "chunk".toList then
    let text ← getItem chunk "text".toList
    pure (frame "chunk".toList (dumps (.obj [("text".toList, text)])))
  else if isStr type "done".toList then
    let citations ← getItem chunk "citations".toList
    let usage ← getItem chunk "usage".toList
    pure (frame "done".toList (dumps (.obj [("citations".toList, citations), ("usage".toList, usage)])))
  else pure []

/-- The data of the error event. -/
def errorData (e : Str) : JValue :=
  .obj (("error".toList, .str e) ::
    if containsSub "LLM_UNAVAILABLE".toList e then [("code".toList, .str "LLM_UNAVAILABLE".toList)]
    else if containsSub "No relevant context".toList e then [("code".toList, .str "NO_CONTEXT".toList)]
    else [])

/-- `generate_stream`: the frames of the items in turn; the first exception, of the orchestrator
or of the loop itself, ends the stream with an error event. -/
def generateStream : List Dict → Option Str → Str
  | [], none => []
  | [], some e => frame "error".toList (dumps (errorData e))
  | c :: cs, failure =>
    match itemFrame c with
    | .ok f => f ++ generateStream cs failure
    | .error e => frame "error".toList (dumps (errorData e.message))

/-! ## The chat page -/

/-- The assistant's message as the page builds it: its content and its citations (`none` while
`undefined`). -/
structure Message where
  content : Str
  citations : Option JValue

/-- The message the page starts from. -/
def Message.init : Message := ⟨[], none⟩

/-- What the page does with one line: a `data: ` line is parsed (a parse error is caught and
logged), and the value's `type` selects appending its `text` or setting the citations. -/
def handleLine (m : Message) (line : Str) : Message :=
  if "data: ".toList.isPrefixOf line then
    match parse (line.drop 6) with
    | none => m
    | some data =>
      match data.member "type".toList with
      | some (.str t) =>
        if t = "chunk".toList then { m with content := jsAppend m.content (data.member "text".toList) }
        else if t = "done".toList then { m with citations := data.member "citations".toList }
        else m
      | _ => m
  else m

/-- The page's read loop over the chunks `reader.read()` returns, with its line buffer. -/
def readStream (chunks : List Str) : Message :=
  (chunks.foldl (LineReader.feed (· == '\n') handleLine) ([], Message.init)).2

/-- The body `POST /answer/stream` sends once the provider is called: the orchestrator's items
over the Gemini provider's run, written by `generate_stream`. -/
def streamBody (lower : Str → Str) (sdk : SdkStream) (usage : GeminiUsage) (citations : List Citation)
    (latency_ms : Nat) (model : Str) : Str :=
  let run := streamAnswer (geminiStream lower sdk usage) citations latency_ms model
  generateStream run.items run.failure

/-! ## Lines the page ignores -/

/-- A line without a line break that the page does nothing with. -/
def Ignored (line : Str) : Prop := '\n' ∉ line ∧ ∀ m, handleLine m line = m

/-- The lines of an event. -/
def frameLines (event data : Str) : List Str := ["event: ".toList ++ event, "data: ".toList ++ data, []]

theorem frame_eq_flatMap (event data : Str) :
    frame event data = (frameLines event data).flatMap (· ++ ['\n']) := by
  unfold frame frameLines
  simp only [List.flatMap_cons, List.flatMap_nil, List.append_assoc, List.cons_append,
    List.nil_append, List.append_nil]

theorem dataPrefix_isPrefixOf (s : Str) : "data: ".toList.isPrefixOf ("data: ".toList ++ s) = true :=
  List.isPrefixOf_iff_prefix.2 (List.prefix_append _ _)

theorem ignored_nil : Ignored [] := by
  refine ⟨List.not_mem_nil, fun m => ?_⟩
  rfl

theorem ignored_event {event : Str} (h : '\n' ∉ event) : Ignored ("event: ".toList ++ event) := by
  have hd : "data: ".toList = 'd' :: "ata: ".toList := by decide
  have he : "event: ".toList = 'e' :: "vent: ".toList := by decide
  refine ⟨?_, fun m => ?_⟩
  · rw [List.mem_append, not_or]
    exact ⟨by decide, h⟩
  · -- an `event:` line is not a `data: ` line
    unfold handleLine
    rw [hd, he, List.cons_append]
    simp [List.isPrefixOf]

/-- A `data: ` line carrying a written value with no `type` member changes nothing. -/
theorem handleLine_of_member_type {v : JValue} (hv : v.member "type".toList = none) (m : Message) :
    handleLine m ("data: ".toList ++ dumps v) = m := by
  have hdrop : ("data: ".toList ++ dumps v).drop 6 = dumps v := List.drop_left' rfl
  unfold handleLine
  rw [if_pos (dataPrefix_isPrefixOf _), hdrop, parse_dumps]
  simp only [hv]

theorem ignored_data {v : JValue} (hv : v.member "type".toList = none) :
    Ignored ("data: ".toList ++ dumps v) := by
  refine ⟨?_, handleLine_of_member_type hv⟩
  rw [List.mem_append, not_or]
  exact ⟨by decide, newline_not_mem_dumps v⟩

/-- The lines of an event whose value has no `type` member are all ignored. -/
theorem ignored_frameLines {event : Str} (he : '\n' ∉ event) {v : JValue}
    (hv : v.member "type".toList = none) : ∀ l ∈ frameLines event (dumps v), Ignored l := by
  intro l hl
  simp only [frameLines, List.mem_cons, List.not_mem_nil, or_false] at hl
  rcases hl with rfl | rfl | rfl
  · exact ignored_event he
  · exact ignored_data hv
  · exact ignored_nil

/-- The page's message after reading a text of ignored lines, however it is cut into reads. -/
theorem readStream_of_ignored {ls : List Str} (hls : ∀ l ∈ ls, Ignored l) {chunks : List Str}
    (hchunks : chunks.flatten = ls.flatMap (· ++ ['\n'])) : readStream chunks = Message.init := by
  have hsep : ∀ l ∈ ls, ∀ x ∈ l, (x == '\n') = false := by
    intro l hl x hx
    have hne : x ≠ '\n' := fun h => (hls l hl).1 (h ▸ hx)
    simpa using hne
  rw [readStream, LineReader.run_lines (· == '\n') handleLine (by decide) hsep hchunks]
  -- every line leaves the message as it is
  exact Runs.foldl_invariant handleLine (· = Message.init) ls
    (fun m l hl hm => hm ▸ (hls l hl).2 m) Message.init rfl

/-! ## What the router writes -/

/-- An item that `generate_stream` writes as an event whose value has no `type` member. -/
def WritesUntyped (c : Dict) : Prop :=
  ∃ event v, itemFrame c = .ok (frame event (dumps v)) ∧ '\n' ∉ event ∧
    v.member "type".toList = none

/-- The error event has no `type` member either. -/
theorem errorData_member_type (e : Str) : (errorData e).member "type".toList = none := by
  apply member_eq_none
  intro f hf
  simp only [List.mem_cons] at hf
  rcases hf with rfl | hf
  · exact (by decide : "error".toList ≠ "type".toList)
  · split_ifs at hf with h1 h2 <;> simp only [List.mem_cons, List.not_mem_nil, or_false] at hf <;>
      (subst hf; decide)

/-- A stream whose items are all written untyped is a text of ignored lines, whether it ends or
raises. -/
theorem generateStream_ignored :
    ∀ (cs : List Dict) (failure : Option Str), (∀ c ∈ cs, WritesUntyped c) →
      ∃ ls : List Str, generateStream cs failure = ls.flatMap (· ++ ['\n']) ∧ ∀ l ∈ ls, Ignored l
  | [], none, _ => ⟨[], rfl, fun _ h => absurd h List.not_mem_nil⟩
  | [], some e, _ =>
    ⟨frameLines "error".toList (dumps (errorData e)), frame_eq_flatMap _ _,
      ignored_frameLines (by decide) (errorData_member_type e)⟩
  | c :: cs, failure, h => by
    obtain ⟨event, v, hc, he, hv⟩ := h c List.mem_cons_self
    obtain ⟨ls, hls, hign⟩ :=
      generateStream_ignored cs failure (fun c' hc' => h c' (List.mem_cons_of_mem c hc'))
    refine ⟨frameLines event (dumps v) ++ ls, ?_, ?_⟩
    · simp only [generateStream, hc, hls, frame_eq_flatMap, List.flatMap_append]
    · intro l hl
      rcases List.mem_append.1 hl with hl | hl
      · exact ignored_frameLines he hv l hl
      · exact hign l hl

/-- A chunk item of the orchestrator is written as `{"text": ...}`. -/
theorem writesUntyped_chunk (d : Dict) :
    WritesUntyped [("type".toList, .str "chunk".toList), ("text".toList, .obj d)] :=
  ⟨"chunk".toList, .obj [("text".toList, .obj d)], rfl, by decide,
    member_eq_none (by
      simp only [List.mem_singleton]
      rintro f rfl
      exact (by decide : "text".toList ≠ "type".toList))⟩

/-- The done item of the orchestrator is written as `{"citations": ..., "usage": ...}`. -/
theorem writesUntyped_done (citations usage : JValue) :
    WritesUntyped [("type".toList, .str "done".toList), ("citations".toList, citations),
      ("usage".toList, usage)] :=
  ⟨"done".toList, .obj [("citations".toList, citations), ("usage".toList, usage)], rfl, by decide,
    member_eq_none (by
      simp only [List.mem_cons, List.not_mem_nil, or_false]
      rintro f (rfl | rfl)
      · exact (by decide : "citations".toList ≠ "type".toList)
      · exact (by decide : "usage".toList ≠ "type".toList))⟩

/-- Every item of the orchestrator is written untyped, whatever the provider yields. -/
theorem streamAnswer_writesUntyped (llm : Run Dict) (citations : List Citation) (latency_ms : Nat)
    (model : Str) : ∀ c ∈ (streamAnswer llm citations latency_ms model).items, WritesUntyped c := by
  have hwrapped : ∀ c ∈ llm.items.map (fun c => [("type".toList, JValue.str "chunk".toList),
      ("text".toList, JValue.obj c)]), WritesUntyped c := by
    intro c hc
    obtain ⟨d, -, rfl⟩ := List.mem_map.1 hc
    exact writesUntyped_chunk d
  unfold streamAnswer
  split
  · intro c hc
    rcases List.mem_append.1 hc with hc | hc
    · exact hwrapped c hc
    · rw [List.mem_singleton] at hc
      subst hc
      exact writesUntyped_done _ _
  · exact hwrapped

/-! ## What the page shows -/

/-- Whatever the SDK streams, and however the page's reads cut the body, the assistant's
message stays empty and gets no citations: no value the router writes has the `type` member the
page dispatches on. -/
theorem readStream_answer (lower : Str → Str) (sdk : SdkStream) (usage : GeminiUsage)
    (citations : List Citation) (latency_ms : Nat) (model : Str) (chunks : List Str)
    (hchunks : chunks.flatten = streamBody lower sdk usage citations latency_ms model) :
    readStream chunks = Message.init := by
  obtain ⟨ls, hls, hign⟩ := generateStream_ignored _ _
    (streamAnswer_writesUntyped (geminiStream lower sdk usage) citations latency_ms model)
  exact readStream_of_ignored hign (hchunks.trans hls)

/-- The SDK streams `Hi`, the body is read in two chunks cut after ten characters, and the page
shows an empty answer. -/
theorem readStream_answer_hi :
    readStream [(streamBody id ⟨["Hi".toList], none⟩ ⟨"gemini-2.5-flash".toList, 3, 120, .ofNat 0⟩
        [] 120 "gemini-2.5-flash".toList).take 10,
      (streamBody id ⟨["Hi".toList], none⟩ ⟨"gemini-2.5-flash".toList, 3, 120, .ofNat 0⟩
        [] 120 "gemini-2.5-flash".toList).drop 10] = Message.init :=
  readStream_answer id _ _ _ _ _ _ (by
    rw [List.flatten_cons, List.flatten_cons, List.flatten_nil, List.append_nil,
      List.take_append_drop])

end RagService.Answer
