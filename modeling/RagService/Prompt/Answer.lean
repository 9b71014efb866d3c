import Mathlib
import RagService.Db.Models

/-!
# The prompt builder and its token budget

`build_messages` (`services/prompt/answer.py`) reserves the tokens of its system instruction,
of the query and 100 more out of `max_ctx_tokens`, and fills what is left, `available`, with
context chunks: a chunk whose stripped text is blank is skipped, and the loop stops at the
first chunk whose part `[doc:d chunk:c page:p]\n{text}\n` does not fit. It joins the parts
with blank lines into one user message and returns the budget left.

The token counts are `len(encoding.encode(s))` under a tokenizer given as a parameter.

- `takeParts_spec`: the loop keeps the longest prefix of the non-blank chunks' parts whose
  token counts fit the budget, and `buildMessages_eq` reads `build_messages` through it;
- `tokens_userMessage`: under a counter additive over concatenation, the message's count is
  the counts of its pieces plus one separator per join, which the reserved 100 tokens do not
  cover: `buildMessages_over_budget`.
-/

set_option autoImplicit false

namespace RagService.Prompt

open PyText RagService.Db RagService.Chunking

/-! ## The texts of the prompt -/

/-- The system instruction, with its placeholders as written. -/
def systemInstruction : Str :=
  ("Отвечай кратко и только по данным из контекста.\n" ++
    "Обязательно цитируй источники в тексте в формате [doc:\x7bdoc_id\x7d chunk:\x7bchunk_id\x7d].\n" ++
    "Если ответа в контексте нет, ответь: \"Не найдено в источниках.\".").toList

/-- The text between the instruction and the context. -/
def contextHeader : Str := "\n\nКонтекст:\n".toList

/-- The text between the context and the query. -/
def questionHeader : Str := "\n\nВопрос: ".toList

/-- The separator of the context parts. -/
def partSeparator : Str := "\n\n".toList

/-- `len(encoding.encode(s))`. -/
def tokens (enc : Tokenizer) (s : Str) : Nat := (enc.encode s).length

/-- `f"{chunk_info}\n{chunk_text}\n"`, where `chunk_info` is `[doc:{document_id} chunk:{id}`,
then ` page:{page}` when the page is truthy, then `]`. -/
def chunkPart (chunk : Chunk) (chunk_text : Str) : Str :=
  let page : Str :=
    match chunk.page with
    | some p => if p = 0 then [] else " page:".toList ++ Nat.toDigits 10 p
    | none => []
  "[doc:".toList ++ Nat.toDigits 10 chunk.document_id ++ " chunk:".toList ++ Nat.toDigits 10 chunk.id ++
    page ++ "]".toList ++ '\n' :: chunk_text ++ ['\n']

/-- The loop over the chunks, from the parts kept so far and their token total: a blank chunk
is skipped, a part that fits is kept, and the first part that does not fit ends the loop. -/
def takeParts (enc : Tokenizer) (available : Int) : List Chunk → List Str → Nat → List Str × Nat
  | [], parts, total => (parts, total)
  | chunk :: rest, parts, total =>
    let chunk_text := strip chunk.text
    if chunk_text = [] then takeParts enc available rest parts total
    else
      let full_chunk := chunkPart chunk chunk_text
      let chunk_tokens := tokens enc full_chunk
      if ((total + chunk_tokens : Nat) : Int) ≤ available then
        takeParts enc available rest (parts ++ [full_chunk]) (total + chunk_tokens)
      else (parts, total)

/-- The user message, `f"{system_instruction}\n\nКонтекст:\n{context_text}\n\nВопрос: {query}"`,
with `context_text` the parts joined by blank lines. -/
def userMessage (query : Str) (context_parts : List Str) : Str :=
  systemInstruction ++ contextHeader ++ partSeparator.intercalate context_parts ++ questionHeader ++ query

/-- A chat message `{"role", "content"}`. -/
structure Message where
  role : Str
  content : Str

/-- `build_messages(query, contexts, max_ctx_tokens)`: the messages and `remaining_tokens`. -/
def buildMessages (enc : Tokenizer) (query : Str) (contexts : List Chunk) (max_ctx_tokens : Int) :
    List Message × Int :=
  let reserved_tokens := tokens enc systemInstruction + tokens enc query + 100
  let available_tokens := max_ctx_tokens - reserved_tokens
  let (context_parts, total_tokens) := takeParts enc available_tokens contexts [] 0
  ([⟨"user".toList, userMessage query context_parts⟩], available_tokens - total_tokens)

/-! ## The parts kept -/

/-- The parts of the non-blank chunks, in order. -/
def candidateParts (contexts : List Chunk) : List Str :=
  contexts.filterMap fun chunk =>
    if strip chunk.text = [] then none else some (chunkPart chunk (strip chunk.text))

/-- The token total of a list of parts. -/
def partTokens (enc : Tokenizer) (parts : List Str) : Nat := (parts.map (tokens enc)).sum

@[simp] theorem partTokens_nil (enc : Tokenizer) : partTokens enc [] = 0 := rfl

@[simp] theorem partTokens_cons (enc : Tokenizer) (p : Str) (ps : List Str) :
    partTokens enc (p :: ps) = tokens enc p + partTokens enc ps := rfl

/-- The longest prefix of `ps` whose total, after `base`, fits `available`: it fits (or is
empty), and every longer prefix does not. -/
structure LongestFit (enc : Tokenizer) (available : Int) (base : Nat) (ps kept : List Str) : Prop where
  isPrefix : kept <+: ps
  fits : kept = [] ∨ ((base + partTokens enc kept : Nat) : Int) ≤ available
  maximal : ∀ q, q <+: ps → kept.length < q.length → available < ((base + partTokens enc q : Nat) : Int)

variable (enc : Tokenizer) (available : Int)

theorem LongestFit.nil (base : Nat) : LongestFit enc available base [] [] :=
  ⟨List.nil_prefix, Or.inl rfl, fun q hq hlen => by simp [List.prefix_nil.1 hq] at hlen⟩

/-- A part that does not fit stops the loop: nothing more is kept. -/
theorem LongestFit.stop {base : Nat} {p : Str} (ps : List Str)
    (hp : available < ((base + tokens enc p : Nat) : Int)) : LongestFit enc available base (p :: ps) [] := by
  refine ⟨List.nil_prefix, Or.inl rfl, fun q hq hlen => ?_⟩
  -- a longer prefix starts with `p`, whose tokens alone exceed the budget
  rcases List.prefix_cons_iff.1 hq with rfl | ⟨q', rfl, -⟩
  · simp at hlen
  · simp only [partTokens_cons]
    omega

/-- A part that fits is kept, and the rest is kept from the new total. -/
theorem LongestFit.keep {base : Nat} {p : Str} {ps kept : List Str}
    (hp : ((base + tokens enc p : Nat) : Int) ≤ available)
    (h : LongestFit enc available (base + tokens enc p) ps kept) :
    LongestFit enc available base (p :: ps) (p :: kept) := by
  refine ⟨List.cons_prefix_cons.2 ⟨rfl, h.isPrefix⟩, Or.inr ?_, fun q hq hlen => ?_⟩
  · rcases h.fits with rfl | hfit
    · simpa using hp
    · simp only [partTokens_cons]
      rwa [← Nat.add_assoc]
  · rcases List.prefix_cons_iff.1 hq with rfl | ⟨q', rfl, hq'⟩
    · simp at hlen
    · have hmax := h.maximal q' hq' (by simpa using hlen)
      simp only [partTokens_cons]
      rwa [← Nat.add_assoc]

/-- The loop keeps, after the parts it had, the longest prefix of the non-blank chunks' parts
that fits, and adds their tokens to its total. -/
theorem takeParts_spec : ∀ (contexts : List Chunk) (parts : List Str) (total : Nat),
    ∃ kept, LongestFit enc available total (candidateParts contexts) kept ∧
      takeParts enc available contexts parts total = (parts ++ kept, total + partTokens enc kept)
  | [], parts, total => ⟨[], LongestFit.nil enc available total, by simp [takeParts]⟩
  | chunk :: rest, parts, total => by
    by_cases hblank : strip chunk.text = []
    · -- a blank chunk is skipped and has no part
      obtain ⟨kept, hfit, hrun⟩ := takeParts_spec rest parts total
      have hcand : candidateParts (chunk :: rest) = candidateParts rest := by
        simp [candidateParts, hblank]
      refine ⟨kept, hcand ▸ hfit, ?_⟩
      simp only [takeParts, hblank, if_true, hrun]
    · have hcand : candidateParts (chunk :: rest) =
          chunkPart chunk (strip chunk.text) :: candidateParts rest := by
        simp [candidateParts, hblank]
      rw [hcand]
      by_cases hfit : (((total + tokens enc (chunkPart chunk (strip chunk.text))) : Nat) : Int) ≤ available
      · obtain ⟨kept, hlong, hrun⟩ := takeParts_spec rest
          (parts ++ [chunkPart chunk (strip chunk.text)]) (total + tokens enc (chunkPart chunk (strip chunk.text)))
        refine ⟨_ :: kept, LongestFit.keep enc available hfit hlong, ?_⟩
        simp only [takeParts, hblank, if_false, hfit, if_true, hrun, partTokens_cons,
          List.append_assoc, List.singleton_append, Nat.add_assoc]
      · refine ⟨[], LongestFit.stop enc available _ (Int.lt_of_not_ge hfit), ?_⟩
        simp only [takeParts, hblank, if_false, hfit, List.append_nil, partTokens_nil, Nat.add_zero]

/-- `build_messages` keeps the longest fitting prefix of the non-blank chunks' parts, and
returns `available` minus their tokens. -/
theorem buildMessages_eq (query : Str) (contexts : List Chunk) (max_ctx_tokens : Int) :
    let available := max_ctx_tokens - (tokens enc systemInstruction + tokens enc query + 100 : Nat)
    ∃ kept, LongestFit enc available 0 (candidateParts contexts) kept ∧
      buildMessages enc query contexts max_ctx_tokens =
        ([⟨"user".toList, userMessage query kept⟩], available - partTokens enc kept) := by
  intro available
  obtain ⟨kept, hfit, hrun⟩ := takeParts_spec enc available contexts [] 0
  refine ⟨kept, hfit, ?_⟩
  simp only [buildMessages]
  rw [show max_ctx_tokens - ((tokens enc systemInstruction + tokens enc query + 100 : Nat) : Int) = available
    from rfl, hrun]
  simp

/-! ## The size of the message -/

section Additive

variable {enc}
variable (hadd : ∀ a b, tokens enc (a ++ b) = tokens enc a + tokens enc b)
include hadd

theorem tokens_nil : tokens enc [] = 0 := by
  have h := hadd [] []
  rw [List.nil_append] at h
  omega

/-- Joined parts count their own tokens and one separator per join. -/
theorem tokens_intercalate (sep : Str) :
    ∀ parts : List Str, tokens enc (sep.intercalate parts) =
      partTokens enc parts + (parts.length - 1) * tokens enc sep
  | [] => by simp [tokens_nil hadd]
  | [p] => by simp
  | p :: q :: rest => by
    rw [List.intercalate_cons_cons, hadd, hadd, tokens_intercalate sep (q :: rest)]
    simp only [partTokens_cons, List.length_cons, Nat.add_sub_cancel, Nat.add_one_mul]
    omega

/-- The message counts the instruction, the two headers, the parts, a separator per join and
the query. -/
theorem tokens_userMessage (query : Str) (parts : List Str) :
    tokens enc (userMessage query parts) =
      tokens enc systemInstruction + tokens enc contextHeader + partTokens enc parts +
        (parts.length - 1) * tokens enc partSeparator + tokens enc questionHeader + tokens enc query := by
  unfold userMessage
  rw [hadd, hadd, hadd, hadd, tokens_intercalate hadd]
  omega

end Additive

/-- A chunk with the text `x`. -/
def shortChunk : Chunk := ⟨1, 1, none, [], [], "x".toList, 1, none, none⟩

theorem candidateParts_replicate (k : Nat) :
    candidateParts (List.replicate k shortChunk) =
      List.replicate k (chunkPart shortChunk "x".toList) := by
  have hstrip : strip shortChunk.text = "x".toList := by decide
  induction k with
  | zero => rfl
  | succ k ih =>
    rw [List.replicate_succ, List.replicate_succ, ← ih]
    simp [candidateParts, hstrip]

/-- With every part fitting, the loop keeps them all. -/
theorem LongestFit.eq_of_fits {base : Nat} {ps kept : List Str}
    (h : LongestFit enc available base ps kept) (hall : ((base + partTokens enc ps : Nat) : Int) ≤ available) :
    kept = ps := by
  by_contra hne
  -- a proper prefix is shorter, and the whole list would be a longer prefix that fits
  have hlen : kept.length < ps.length :=
    lt_of_le_of_ne h.isPrefix.length_le fun heq => hne (h.isPrefix.eq_of_length heq)
  have := h.maximal ps List.prefix_rfl hlen
  omega

theorem partTokens_replicate (k : Nat) (p : Str) :
    partTokens enc (List.replicate k p) = k * tokens enc p := by
  induction k with
  | zero => simp
  | succ k ih =>
    rw [List.replicate_succ, partTokens_cons, ih, Nat.succ_mul]
    omega

/-- `k` short chunks whose parts fill the budget exactly are all kept, and the message counts
`k - 1` separators. -/
theorem buildMessages_replicate (hadd : ∀ a b, tokens enc (a ++ b) = tokens enc a + tokens enc b)
    (k : Nat) (query : Str) :
    ∀ m ∈ (buildMessages enc query (List.replicate k shortChunk)
        ((tokens enc systemInstruction + tokens enc query + 100 +
          k * tokens enc (chunkPart shortChunk "x".toList) : Nat) : Int)).1,
      tokens enc m.content = tokens enc systemInstruction + tokens enc contextHeader +
        k * tokens enc (chunkPart shortChunk "x".toList) + (k - 1) * tokens enc partSeparator +
        tokens enc questionHeader + tokens enc query := by
  obtain ⟨kept, hfit, hrun⟩ := buildMessages_eq enc query (List.replicate k shortChunk)
    ((tokens enc systemInstruction + tokens enc query + 100 +
      k * tokens enc (chunkPart shortChunk "x".toList) : Nat) : Int)
  rw [candidateParts_replicate] at hfit
  -- the parts fill the budget exactly, so all of them fit
  have hkept : kept = List.replicate k (chunkPart shortChunk "x".toList) :=
    LongestFit.eq_of_fits enc _ hfit (by rw [partTokens_replicate]; push_cast; omega)
  intro m hm
  rw [hrun, hkept] at hm
  rw [List.mem_singleton.1 hm, tokens_userMessage hadd, partTokens_replicate, List.length_replicate]

/-- Under every counter additive over concatenation that counts the separator, and for every
query, some chunks and budget leave `available` non-negative and still give a message with
more tokens than `max_ctx_tokens`: 102 short chunks that fill the budget exactly add 101
separators, more than the 100 tokens reserved. -/
theorem buildMessages_over_budget (enc : Tokenizer)
    (hadd : ∀ a b, tokens enc (a ++ b) = tokens enc a + tokens enc b)
    (hsep : 0 < tokens enc partSeparator) (query : Str) :
    ∃ (contexts : List Chunk) (max_ctx_tokens : Int),
      0 ≤ max_ctx_tokens - (tokens enc systemInstruction + tokens enc query + 100 : Nat) ∧
      ∀ m ∈ (buildMessages enc query contexts max_ctx_tokens).1, max_ctx_tokens < tokens enc m.content := by
  refine ⟨List.replicate 102 shortChunk, ((tokens enc systemInstruction + tokens enc query + 100 +
    102 * tokens enc (chunkPart shortChunk "x".toList) : Nat) : Int), by push_cast; omega, ?_⟩
  intro m hm
  rw [buildMessages_replicate enc hadd 102 query m hm]
  have h101 : (102 - 1) * tokens enc partSeparator ≥ 101 := by omega
  push_cast
  omega

theorem buildMessages_over_budget_chars :
    (∀ a b, tokens charTokenizer (a ++ b) = tokens charTokenizer a + tokens charTokenizer b) ∧
      0 < tokens charTokenizer partSeparator ∧
      ∃ (contexts : List Chunk) (max_ctx_tokens : Int),
        0 ≤ max_ctx_tokens - (tokens charTokenizer systemInstruction + tokens charTokenizer "q".toList + 100 : Nat) ∧
        ∀ m ∈ (buildMessages charTokenizer "q".toList contexts max_ctx_tokens).1,
          max_ctx_tokens < tokens charTokenizer m.content := by
  have hadd : ∀ a b, tokens charTokenizer (a ++ b) = tokens charTokenizer a + tokens charTokenizer b := by
    intro a b
    simp [tokens, charTokenizer]
  have hsep : 0 < tokens charTokenizer partSeparator := by decide
  exact ⟨hadd, hsep, buildMessages_over_budget charTokenizer hadd hsep "q".toList⟩

end RagService.Prompt
