import RagService.Lib.Grouping
import RagService.Answer.Stream
import RagService.Prompt.Answer

/-!
# The Gemini provider

`GeminiProvider` (`services/llm/gemini.py`) is the provider `get_llm_provider` returns. It turns
the chat messages into Gemini contents (`_prepare_messages`), hands them to the SDK, and reports
the usage: the input tokens estimated from the words of the messages (`_count_tokens`) and a cost
from the model and the token limit (`_estimate_cost`). Every exception of the SDK becomes an
`LLM_UNAVAILABLE` exception (`llmUnavailable`, in `Stream`). The SDK is a parameter: what it
answers for the contents and the model.

`_prepare_messages` keeps one piece of state, the contents built so far. A `user` message
appends a user content and an `assistant` message a model content; a `system` message is
written in front of the text of the last content, with a blank line between, when that content
is a user content, and appends a user content otherwise; a message of any other role is dropped.

- `prepareMessages_eq_turns`: the loop is a grouping. The messages it keeps fall into maximal
  runs in which every message after the first is a `system` message following a message that is
  not an `assistant` one (`List.splitBy`), and each run is one content: a model content for an
  assistant, a user content otherwise, whose text is the run's system texts, the latest first,
  then the first message's text, joined by blank lines.
-/

set_option autoImplicit false

namespace RagService.Answer

open PyText JsonText RagService.Prompt

/-- A Gemini content, `types.Content(role=role, parts=[types.Part.from_text(text)])`: the
contents built here have one part. -/
structure Content where
  role : Str
  text : Str
  deriving DecidableEq, Repr

namespace GeminiProvider

/-- What `_prepare_messages` writes between a system text and the text it goes in front of. -/
def blankLine : Str := "\n\n".toList

/-- One iteration of the loop of `_prepare_messages`. -/
def prepareStep (gemini_messages : List Content) (message : Prompt.Message) : List Content :=
  let role := message.role
  let content := message.content
  if role = "system".toList then
    match gemini_messages.getLast? with
    | some last =>
      if last.role = "user".toList then
        gemini_messages.dropLast ++ [{ last with text := content ++ blankLine ++ last.text }]
      else gemini_messages ++ [⟨"user".toList, content⟩]
    | none => gemini_messages ++ [⟨"user".toList, content⟩]
  else if role = "user".toList then gemini_messages ++ [⟨"user".toList, content⟩]
  else if role = "assistant".toList then gemini_messages ++ [⟨"model".toList, content⟩]
  else gemini_messages

/-- `_prepare_messages(messages)`. -/
def prepareMessages (messages : List Prompt.Message) : List Content :=
  messages.foldl prepareStep []

/-! ### One lemma per branch of the loop -/

section Steps

variable {gemini_messages : List Content} {message : Prompt.Message}

theorem prepareStep_of_user_last (hsys : message.role = "system".toList) {last : Content}
    (hlast : gemini_messages.getLast? = some last) (hu : last.role = "user".toList) :
    prepareStep gemini_messages message =
      gemini_messages.dropLast ++ [{ last with text := message.content ++ blankLine ++ last.text }] := by
  unfold prepareStep
  dsimp only
  rw [if_pos hsys, hlast]
  exact if_pos hu

theorem prepareStep_of_model_last (hsys : message.role = "system".toList) {last : Content}
    (hlast : gemini_messages.getLast? = some last) (hu : last.role ≠ "user".toList) :
    prepareStep gemini_messages message = gemini_messages ++ [⟨"user".toList, message.content⟩] := by
  unfold prepareStep
  dsimp only
  rw [if_pos hsys, hlast]
  exact if_neg hu

theorem prepareStep_of_first (hsys : message.role = "system".toList)
    (hnil : gemini_messages.getLast? = none) :
    prepareStep gemini_messages message = gemini_messages ++ [⟨"user".toList, message.content⟩] := by
  unfold prepareStep
  dsimp only
  rw [if_pos hsys, hnil]

theorem prepareStep_of_user (hu : message.role = "user".toList) :
    prepareStep gemini_messages message = gemini_messages ++ [⟨"user".toList, message.content⟩] := by
  unfold prepareStep
  dsimp only
  rw [if_neg (by rw [hu]; decide), if_pos hu]

theorem prepareStep_of_assistant (ha : message.role = "assistant".toList) :
    prepareStep gemini_messages message = gemini_messages ++ [⟨"model".toList, message.content⟩] := by
  unfold prepareStep
  dsimp only
  rw [if_neg (by rw [ha]; decide), if_neg (by rw [ha]; decide), if_pos ha]

theorem prepareStep_of_other (hs : message.role ≠ "system".toList)
    (hu : message.role ≠ "user".toList) (ha : message.role ≠ "assistant".toList) :
    prepareStep gemini_messages message = gemini_messages := by
  unfold prepareStep
  dsimp only
  rw [if_neg hs, if_neg hu, if_neg ha]

end Steps

/-- `_count_tokens(messages)`: `int` of the sum of `len(content.split()) * 1.3`, in floating
point. -/
def countTokens (messages : List Prompt.Message) : Nat :=
  (messages.foldl (fun total message => total + (splitWs message.content).length.toFloat * 1.3)
    0).toUInt64.toNat

/-- The cost per thousand tokens of `_estimate_cost`. -/
def costs : List (Str × Float) := [("gemini-pro".toList, 0.0005), ("gemini-pro-vision".toList, 0.0005)]

/-- `_estimate_cost(model, max_tokens)`. -/
def estimateCost (model : Str) (max_tokens : Nat) : Float :=
  let base_cost := (costs.lookup model).getD 0.001
  max_tokens.toFloat / 1000 * base_cost

/-- `generate(messages, model, max_tokens, ...)`: the SDK's text for the contents and the model,
with the usage, or the provider's exception for the SDK's; `latency_ms` is the time the call
took and `costRepr` writes a float as its `repr`. -/
def generate (lower : Str → Str) (sdk : List Content → Str → Except Str Str)
    (costRepr : Float → NumLit) (messages : List Prompt.Message) (model : Str) (max_tokens latency_ms : Nat) :
    Except Str (Str × Dict) :=
  match sdk (prepareMessages messages) model with
  | .error e => .error (llmUnavailable lower e)
  | .ok response => .ok (response,
      [("provider".toList, .str "gemini".toList), ("model".toList, .str model),
        ("in_tokens".toList, .num (.ofNat (countTokens messages))),
        ("out_tokens".toList, .num (.ofNat (splitWs response).length)),
        ("latency_ms".toList, .num (.ofNat latency_ms)),
        ("cost_usd".toList, .num (costRepr (estimateCost model max_tokens)))])

/-- `stream(messages, model, max_tokens, ...)`: the SDK's stream for the contents and the model,
read by `geminiStream` with the usage of the messages. -/
def stream (lower : Str → Str) (sdk : List Content → Str → SdkStream) (costRepr : Float → NumLit)
    (messages : List Prompt.Message) (model : Str) (max_tokens latency_ms : Nat) : Run Dict :=
  geminiStream lower (sdk (prepareMessages messages) model)
    ⟨model, countTokens messages, latency_ms, costRepr (estimateCost model max_tokens)⟩

/-! ## The contents as runs of messages -/

/-- The roles `_prepare_messages` acts on. -/
def chatRoles : List Str := ["system".toList, "user".toList, "assistant".toList]

/-- `b` goes into the content of `a`: a system message after a message that is not an
assistant one. -/
def joins (a b : Prompt.Message) : Bool :=
  decide (b.role = "system".toList) && decide (a.role ≠ "assistant".toList)

/-- The content of a run: the model's for an assistant, the user's otherwise, with the run's
system texts, the latest first, in front of the first message's text. -/
def turnOf : List Prompt.Message → Content
  | [] => ⟨"user".toList, []⟩
  | m :: systems => ⟨if m.role = "assistant".toList then "model".toList else "user".toList,
      blankLine.intercalate ((systems.map (·.content)).reverse ++ [m.content])⟩

/-- The contents, one per run of the messages with a role of `chatRoles`. -/
def turns (messages : List Prompt.Message) : List Content :=
  ((messages.filter fun m => decide (m.role ∈ chatRoles)).splitBy joins).map turnOf

/-! ## The loop builds the runs

Each iteration either extends the last run, when a system message follows a message that is not
an assistant one, or opens a new run; `Grouping.splitBy_concat_of_rel` and
`List.splitBy_append` are the two steps on the side of `splitBy`. What lets the loop decide by
the last content's role alone is `getLast_role_run`: a run ends with an assistant message exactly
when it starts with one. -/

section Runs

/-- Every message after the first of a run is a system message. -/
theorem system_of_mem_run {m : Prompt.Message} {systems : List Prompt.Message}
    (h : (m :: systems).IsChain fun a b => joins a b) :
    ∀ b ∈ systems, b.role = "system".toList := by
  induction systems generalizing m with
  | nil => exact fun _ hb => absurd hb List.not_mem_nil
  | cons s rest ih =>
    rw [List.isChain_cons_cons] at h
    intro b hb
    rcases List.mem_cons.1 hb with rfl | hb
    · have hjoin := h.1
      simp only [joins, Bool.and_eq_true, decide_eq_true_eq] at hjoin
      exact hjoin.1
    · exact ih h.2 b hb

/-- A run ends with an assistant message exactly when it starts with one: an assistant message
is a run of its own. -/
theorem getLast_role_run {g : List Prompt.Message} (hg : g ≠ [])
    (h : g.IsChain fun a b => joins a b) :
    (g.getLast hg).role = "assistant".toList ↔ (g.head hg).role = "assistant".toList := by
  obtain ⟨m, systems, rfl⟩ := List.exists_cons_of_ne_nil hg
  cases systems with
  | nil => rfl
  | cons s rest =>
    -- the run goes on after `m`, so `m` is not an assistant message and the last is a system one
    have hjoin : s.role = "system".toList ∧ m.role ≠ "assistant".toList := by
      have hms := (List.isChain_cons_cons.1 h).1
      simpa only [joins, Bool.and_eq_true, decide_eq_true_eq] using hms
    have hlast : ((m :: s :: rest).getLast hg).role = "system".toList := by
      rw [List.getLast_cons (List.cons_ne_nil s rest)]
      exact system_of_mem_run h _ (List.getLast_mem _)
    rw [hlast, List.head_cons]
    exact ⟨fun h => absurd h (by decide), fun h => absurd h hjoin.2⟩

/-- The role of a run's content. -/
theorem role_turnOf {g : List Prompt.Message} (hg : g ≠ []) :
    (turnOf g).role =
      if (g.head hg).role = "assistant".toList then "model".toList else "user".toList := by
  obtain ⟨m, systems, rfl⟩ := List.exists_cons_of_ne_nil hg
  rfl

/-- A system message joining a run goes in front of the run's text. -/
theorem turnOf_concat {g : List Prompt.Message} (hg : g ≠ []) (x : Prompt.Message) :
    turnOf (g ++ [x]) = { turnOf g with text := x.content ++ blankLine ++ (turnOf g).text } := by
  obtain ⟨m, systems, rfl⟩ := List.exists_cons_of_ne_nil hg
  simp only [List.cons_append, turnOf, List.map_append, List.map_cons, List.map_nil,
    List.reverse_append, List.reverse_cons, List.reverse_nil, List.nil_append]
  rw [intercalate_cons_of_ne_nil _ _ (by simp)]

/-- A message that opens a run of its own. -/
theorem turnOf_singleton (x : Prompt.Message) :
    turnOf [x] = ⟨if x.role = "assistant".toList then "model".toList else "user".toList,
      x.content⟩ := by
  simp only [turnOf, List.map_nil, List.reverse_nil, List.nil_append, List.intercalate_singleton]

/-- The last content of the runs' contents is the content of the last run. -/
theorem getLast?_map_turnOf (G : List (List Prompt.Message)) (g : List Prompt.Message) :
    ((G ++ [g]).map turnOf).getLast? = some (turnOf g) := by
  rw [List.map_append, List.map_singleton, List.getLast?_concat]

/-- An iteration of the loop on the contents of the runs of `K` gives the contents of the runs of
`K` followed by a system message. -/
theorem prepareStep_system (K : List Prompt.Message) {x : Prompt.Message}
    (hsys : x.role = "system".toList) :
    prepareStep ((K.splitBy joins).map turnOf) x = ((K ++ [x]).splitBy joins).map turnOf := by
  have hx : turnOf [x] = ⟨"user".toList, x.content⟩ := by
    rw [turnOf_singleton, if_neg (by rw [hsys]; decide)]
  have hsingle : [x].splitBy joins = [[x]] :=
    List.splitBy_of_isChain (List.cons_ne_nil x []) (List.isChain_singleton x)
  rcases List.eq_nil_or_concat (K.splitBy joins) with hnil | ⟨G, g, hsplit⟩
  · -- no message yet: the system message opens the first run
    rw [hnil, List.splitBy_eq_nil.1 hnil, List.nil_append, hsingle, List.map_singleton, hx,
      List.map_nil, prepareStep_of_first hsys rfl, List.nil_append]
  rw [List.concat_eq_append] at hsplit
  have hg : g ≠ [] := List.ne_nil_of_mem_splitBy (by rw [hsplit]; simp)
  have hchain : g.IsChain fun a b => joins a b := List.isChain_of_mem_splitBy (by rw [hsplit]; simp)
  -- the last message kept so far is the last of the last run
  have hlastK : K.getLast? = some (g.getLast hg) := by
    have hflat := List.flatten_splitBy joins K
    rw [hsplit, List.flatten_append, List.flatten_singleton] at hflat
    rw [← hflat, List.getLast?_append, List.getLast?_eq_some_getLast hg]
    rfl
  rw [hsplit]
  by_cases hA : (g.head hg).role = "assistant".toList
  · -- after an assistant's content the system message opens a run
    have hmodel : (turnOf g).role ≠ "user".toList := by
      rw [role_turnOf hg, if_pos hA]
      decide
    have hjoin : ∀ a ∈ K.getLast?, ∀ b ∈ [x].head?, joins a b = false := by
      rw [hlastK]
      intro a ha b hb
      rw [Option.mem_some_iff] at ha
      rw [List.head?_cons, Option.mem_some_iff] at hb
      subst ha hb
      simp only [joins, (getLast_role_run hg hchain).2 hA, ne_eq, not_true_eq_false,
        decide_false, Bool.and_false]
    rw [prepareStep_of_model_last hsys (getLast?_map_turnOf G g) hmodel, List.splitBy_append hjoin,
      hsplit, hsingle]
    simp only [List.map_append, List.map_singleton, hx]
  · -- after a user's content it joins the last run
    have huser : (turnOf g).role = "user".toList := by
      rw [role_turnOf hg, if_neg hA]
    have hjoin : joins (g.getLast hg) x = true := by
      simp only [joins, hsys, Bool.and_eq_true, decide_eq_true_eq, true_and]
      exact fun h => hA ((getLast_role_run hg hchain).1 h)
    rw [prepareStep_of_user_last hsys (getLast?_map_turnOf G g) huser,
      Grouping.splitBy_concat_of_rel hsplit hg hjoin]
    simp only [List.map_append, List.map_singleton, List.dropLast_concat, turnOf_concat hg]

/-- One iteration of the loop on the contents of the runs of the messages so far gives the
contents of the runs of the messages with the next one. -/
theorem prepareStep_turns (messages : List Prompt.Message) (x : Prompt.Message) :
    prepareStep (turns messages) x = turns (messages ++ [x]) := by
  unfold turns
  rw [List.filter_append]
  by_cases hsys : x.role = "system".toList
  · have hkept : [x].filter (fun m => decide (m.role ∈ chatRoles)) = [x] := by
      rw [List.filter_singleton, hsys]
      rfl
    rw [hkept]
    exact prepareStep_system _ hsys
  by_cases hknown : x.role ∈ chatRoles
  · -- a user or assistant message opens a run of its own
    have hkept : [x].filter (fun m => decide (m.role ∈ chatRoles)) = [x] := by
      rw [List.filter_singleton, decide_eq_true hknown]
      rfl
    have hjoin : ∀ a ∈ (messages.filter fun m => decide (m.role ∈ chatRoles)).getLast?,
        ∀ b ∈ [x].head?, joins a b = false := by
      intro a _ b hb
      rw [List.head?_singleton, Option.mem_some_iff] at hb
      subst hb
      simp only [joins, hsys, decide_false, Bool.false_and]
    have hsingle : [x].splitBy joins = [[x]] :=
      List.splitBy_of_isChain (List.cons_ne_nil x []) (List.isChain_singleton x)
    rw [hkept, List.splitBy_append hjoin, hsingle, List.map_append, List.map_singleton,
      turnOf_singleton]
    have hrole : x.role = "user".toList ∨ x.role = "assistant".toList := by
      simp only [chatRoles, List.mem_cons, List.not_mem_nil, or_false] at hknown
      exact hknown.resolve_left hsys
    rcases hrole with hu | ha
    · rw [prepareStep_of_user hu, if_neg (by rw [hu]; decide)]
    · rw [prepareStep_of_assistant ha, if_pos ha]
  · -- any other role is dropped
    have hkept : [x].filter (fun m => decide (m.role ∈ chatRoles)) = [] := by
      rw [List.filter_singleton, decide_eq_false hknown]
      rfl
    rw [hkept, List.append_nil]
    exact prepareStep_of_other hsys (fun h => hknown (by rw [h]; decide))
      (fun h => hknown (by rw [h]; decide))

/-- `_prepare_messages` builds one content per run of the messages it acts on, with the run's
system texts, the latest first, in front of the text of its first message. -/
theorem prepareMessages_eq_turns (messages : List Prompt.Message) :
    prepareMessages messages = turns messages := by
  induction messages using List.reverseRecOn with
  | nil => rfl
  | append_singleton messages x ih =>
    rw [prepareMessages, List.foldl_append, List.foldl_cons, List.foldl_nil, ← prepareMessages, ih,
      prepareStep_turns]

example : prepareMessages [⟨"system".toList, "s1".toList⟩, ⟨"user".toList, "u".toList⟩,
    ⟨"system".toList, "s2".toList⟩, ⟨"assistant".toList, "a".toList⟩,
    ⟨"system".toList, "s3".toList⟩, ⟨"tool".toList, "t".toList⟩, ⟨"system".toList, "s4".toList⟩] =
    [⟨"user".toList, "s1".toList⟩, ⟨"user".toList, "s2\n\nu".toList⟩, ⟨"model".toList, "a".toList⟩,
      ⟨"user".toList, "s4\n\ns3".toList⟩] := by
  decide

end Runs

end GeminiProvider

end RagService.Answer
