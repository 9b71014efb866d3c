import RagService.Parsing.Tables
import RagService.Lib.Batches

/-!
# The chunking pipeline

`services/chunking/` turns a document's elements into chunk dicts:

- `MarkdownHeaderSplitter.splitByHeaders` (`headers.py`) cuts the non-table elements into
  sections at every element whose type starts with `h`, keeping a breadcrumb path of header
  texts that it shortens to `level - 1` entries before appending the new header;
- `TokenTextSplitter.splitText` (`token.py`) cuts a section's text into windows of
  `chunk_size` tokens that overlap by `chunk_overlap`. The loop stops once the next start
  reaches the end, so it emits a window at every multiple of the stride below the text's
  length (`splitText_eq_windows`). No token is lost: the first window, then each later one past
  its first `chunk_overlap` tokens, are the text's tokens in order (`splitText_covers`); the
  last window can lie inside the one before (`splitText_redundant_tail`);
- `ChunkingPipeline.processTable` (`pipeline.py`) keeps a table of at most three lines as one
  chunk and otherwise repeats its header and separator lines over groups of 40 data lines;
- `ChunkingPipeline.buildChunks` runs the three, sections first, then tables.

The tokenizer (`tiktoken`'s `cl100k_base`) is a parameter. `int(element["type"][1])` and the
`pop()` of an empty path can raise, so the splitter and the pipeline return `Except`.
-/

set_option autoImplicit false

namespace RagService.Chunking

open PyText Batches RagService.Parsing

/-- The `tiktoken` encoding the splitter holds: `encode` and `decode`. -/
structure Tokenizer where
  encode : Str → List Nat
  decode : List Nat → Str

/-- A tokenizer with one token per character, to run the pipeline on small inputs. -/
def charTokenizer : Tokenizer := ⟨fun s => s.map Char.toNat, fun ts => ts.map Char.ofNat⟩

/-- `table_meta` of a table chunk. The single-chunk form has `rows`, `headers` and
`total_rows`; the grouped form has `rows`, `start_row`, `end_row`, `headers` and
`has_header_repeat`. `rows` is `len(lines) - 2`, an `int` that can be negative. -/
structure TableMeta where
  table_id : Option Str
  rows : Int
  start_row : Option Nat
  end_row : Option Nat
  headers : List Str
  total_rows : Option Int
  has_header_repeat : Option Bool
  deriving DecidableEq, Repr

/-- A chunk dict as `chunk_document` stores it: the keys it reads into the `Chunk` row. -/
structure ChunkData where
  level : Str
  header_path : List Str
  text : Str
  token_count : Nat
  page : Option Nat
  element_id : Option Nat
  table_meta : Option TableMeta
  deriving DecidableEq, Repr

/-! ## Header sections -/

namespace MarkdownHeaderSplitter

/-- A section: its elements and the breadcrumb path current when it was saved. -/
structure Section where
  elements : List ElementData
  header_path : List Str
  deriving DecidableEq, Repr

/-- The loop state: the saved sections, `current_section` and `current_header_path`. -/
structure SplitState where
  sections : List Section
  current : List ElementData
  path : List Str
  deriving DecidableEq, Repr

/-- `int(element["type"][1])`. -/
def headerLevel (cc : CharClasses) (type : Str) : Except Exc Nat :=
  match type with
  | _ :: d :: _ =>
      match cc.decimal d with
      | some n => .ok n
      | none => .error ⟨"ValueError".toList,
          "invalid literal for int() with base 10: '".toList ++ [d] ++ ['\'']⟩
  | _ => .error ⟨"IndexError".toList, "string index out of range".toList⟩

/-- `if current_section: sections.append(...)`. -/
def saveCurrent (st : SplitState) : List Section :=
  if st.current = [] then st.sections else st.sections ++ [⟨st.current, st.path⟩]

/-- One element of the loop. A header saves the current section and starts a new one; the
`while len(path) >= level: pop()` loop leaves the first `level - 1` entries, and at level 0
it pops the empty path and raises. -/
def splitStep (cc : CharClasses) (st : SplitState) (e : ElementData) : Except Exc SplitState :=
  if ['h'].isPrefixOf e.type then
    match headerLevel cc e.type with
    | .error err => .error err
    | .ok 0 => .error ⟨"IndexError".toList, "pop from empty list".toList⟩
    | .ok (level + 1) => .ok ⟨saveCurrent st, [e], st.path.take level ++ [e.text]⟩
  else .ok { st with current := st.current ++ [e] }

/-- `split_by_headers`. -/
def splitByHeaders (cc : CharClasses) (elements : List ElementData) :
    Except Exc (List Section) :=
  match elements.foldlM (splitStep cc) ⟨[], [], []⟩ with
  | .error err => .error err
  | .ok st => .ok (saveCurrent st)

end MarkdownHeaderSplitter

/-! ## Token windows -/

/-- A `TokenTextSplitter`. Every splitter the program builds has `chunk_overlap` below
`chunk_size` (`ChunkingPipeline` uses 500 and 75, `query.py` the defaults 500 and 75), so
the structure carries that fact; with it the window start grows on every pass. -/
structure TokenTextSplitter where
  chunk_size : Nat
  chunk_overlap : Nat
  overlap_lt : chunk_overlap < chunk_size

namespace TokenTextSplitter

/-- The `while start < len(tokens)` loop from `start`: decode `tokens[start:end]`, move
`start` to `end - chunk_overlap`, and stop once it reaches the end. The fuel bounds the number
of passes; `splitText` gives one per token, which the growth of `start` makes enough. -/
def windows (sp : TokenTextSplitter) (tok : Tokenizer) (tokens : List Nat) :
    Nat → Nat → List Str
  | 0, _ => []
  | fuel + 1, start =>
      if start < tokens.length then
        let chunk := tok.decode (slice tokens start sp.chunk_size)
        let next := start + sp.chunk_size - sp.chunk_overlap
        if tokens.length ≤ next then [chunk] else chunk :: windows sp tok tokens fuel next
      else []

/-- `split_text`: the text itself when it has at most `chunk_size` tokens, else the windows
from 0. -/
def splitText (sp : TokenTextSplitter) (tok : Tokenizer) (text : Str) : List Str :=
  let tokens := tok.encode text
  if tokens.length ≤ sp.chunk_size then [text]
  else windows sp tok tokens (tokens.length + 1) 0

/-- `count_tokens`. -/
def countTokens (tok : Tokenizer) (text : Str) : Nat := (tok.encode text).length

/-! ### Which windows the loop emits

Consecutive starts are `stride = chunk_size - chunk_overlap` apart, and the loop stops once
the next start reaches the end, so from `start` it makes `passes` passes, one per stride that
begins before the end (`windows_eq`). The last window then ends at the end of the text, but
the one before it may already have reached it (`splitText_eq_windows`). -/

/-- The distance between two window starts. -/
def stride (sp : TokenTextSplitter) : Nat := sp.chunk_size - sp.chunk_overlap

/-- The number of passes the loop makes from `start` over `n` tokens: `⌈(n - start) / stride⌉`. -/
def passes (sp : TokenTextSplitter) (n start : Nat) : Nat := (n - start + sp.stride - 1) / sp.stride

section Passes

variable (sp : TokenTextSplitter)

theorem stride_pos : 0 < sp.stride := by
  have := sp.overlap_lt
  unfold stride
  omega

theorem passes_of_le {n start : Nat} (h : n ≤ start) : sp.passes n start = 0 := by
  have hpos := sp.stride_pos
  unfold passes
  rw [Nat.div_eq_of_lt (by omega)]

/-- A start before the end makes one pass more than the start one stride later. -/
theorem passes_of_lt {n start : Nat} (h : start < n) :
    sp.passes n start = sp.passes n (start + sp.stride) + 1 := by
  have hpos := sp.stride_pos
  unfold passes
  by_cases hfar : start + sp.stride ≤ n
  · -- a whole stride fits before the end
    rw [show n - start + sp.stride - 1 = n - (start + sp.stride) + sp.stride - 1 + sp.stride by omega,
      Nat.add_div_right _ hpos]
  · -- the next start is past the end: this is the last pass
    have hlast : (n - (start + sp.stride) + sp.stride - 1) / sp.stride = 0 :=
      Nat.div_eq_of_lt (by omega)
    rw [hlast]
    exact Nat.div_eq_of_lt_le (by omega) (by omega)

theorem passes_le {n start : Nat} : sp.passes n start ≤ n - start := by
  rcases Nat.lt_or_ge start n with h | h
  · -- one pass per stride is at most one per token
    have hpos := sp.stride_pos
    unfold passes
    apply Nat.div_le_of_le_mul
    obtain ⟨d, hd⟩ : ∃ d, sp.stride = d + 1 := ⟨sp.stride - 1, by omega⟩
    have hd_le : d ≤ d * (n - start) := Nat.le_mul_of_pos_right d (by omega)
    rw [hd, Nat.add_mul, Nat.one_mul]
    omega
  · rw [sp.passes_of_le h]
    exact Nat.zero_le _

end Passes

/-- With fuel for its passes, the loop from `start` emits the window at each stride from
`start` that begins before the end. -/
theorem windows_eq (sp : TokenTextSplitter) (tok : Tokenizer) (tokens : List Nat) :
    ∀ (fuel start : Nat), sp.passes tokens.length start ≤ fuel →
      windows sp tok tokens fuel start =
        (List.range (sp.passes tokens.length start)).map fun k =>
          tok.decode (slice tokens (start + k * sp.stride) sp.chunk_size)
  | 0, start, h => by
    rw [Nat.le_zero.1 h, windows]
    rfl
  | fuel + 1, start, h => by
    have hnext : start + sp.chunk_size - sp.chunk_overlap = start + sp.stride := by
      have := sp.overlap_lt
      unfold stride
      omega
    rw [windows]
    dsimp only
    rw [hnext]
    by_cases hs : start < tokens.length
    · rw [if_pos hs, sp.passes_of_lt hs, List.range_succ_eq_map, List.map_cons, List.map_map,
        Nat.zero_mul, Nat.add_zero]
      by_cases hend : tokens.length ≤ start + sp.stride
      · -- the last pass
        rw [if_pos hend, sp.passes_of_le hend]
        rfl
      · -- the loop goes on from one stride later
        rw [if_neg hend, windows_eq sp tok tokens fuel (start + sp.stride)
          (by rw [sp.passes_of_lt hs] at h; omega)]
        congr 1
        apply List.map_congr_left
        intro k _
        rw [Function.comp_apply, Nat.succ_mul, Nat.add_comm (k * sp.stride), Nat.add_assoc]
    · rw [if_neg hs, sp.passes_of_le (Nat.le_of_not_lt hs)]
      rfl

/-- A text longer than `chunk_size` tokens is cut into the windows starting at every multiple
of the stride below its length. -/
theorem splitText_eq_windows (sp : TokenTextSplitter) (tok : Tokenizer) (text : Str)
    (hlong : sp.chunk_size < (tok.encode text).length) :
    sp.splitText tok text =
      (List.range (sp.passes (tok.encode text).length 0)).map fun k =>
        tok.decode (slice (tok.encode text) (k * sp.stride) sp.chunk_size) := by
  unfold splitText
  dsimp only
  have hfuel := @passes_le sp (tok.encode text).length 0
  rw [if_neg (Nat.not_le_of_lt hlong), windows_eq sp tok _ _ 0 (by omega)]
  simp only [Nat.zero_add]

/-- The window starts are the starts of `range(0, len(tokens), stride)`. -/
theorem range_passes_eq_pyRange (sp : TokenTextSplitter) (n : Nat) :
    (List.range (sp.passes n 0)).map (· * sp.stride) = pyRange 0 n sp.stride := by
  unfold pyRange passes
  refine List.ext_getElem (by simp) fun i h₁ h₂ => ?_
  rw [List.getElem_map, List.getElem_range, List.getElem_range', Nat.zero_add, Nat.mul_comm]

/-- `split_text` loses no token: a text of more than `chunk_size` tokens is cut into windows of
at most `chunk_size` tokens, and the first window, then each later one without its first
`chunk_overlap` tokens, are in order the tokens of the text. -/
theorem splitText_covers (sp : TokenTextSplitter) (tok : Tokenizer) (text : Str)
    (hlong : sp.chunk_size < (tok.encode text).length) :
    ∃ w ws, sp.splitText tok text = (w :: ws).map tok.decode ∧
      (∀ x ∈ w :: ws, x.length ≤ sp.chunk_size) ∧
      w ++ (ws.map (·.drop sp.chunk_overlap)).flatten = tok.encode text := by
  have hsize : sp.chunk_size = sp.stride + sp.chunk_overlap := by
    have := sp.overlap_lt
    unfold stride
    omega
  -- the windows start at the multiples of the stride below the length, `0` first
  have hwindows : sp.splitText tok text =
      ((pyRange 0 (tok.encode text).length sp.stride).map
        (slice (tok.encode text) · sp.chunk_size)).map tok.decode := by
    rw [splitText_eq_windows sp tok text hlong, ← range_passes_eq_pyRange, List.map_map,
      List.map_map]
    rfl
  rw [pyRange_cons (by omega) sp.stride_pos, Nat.zero_add] at hwindows
  refine ⟨slice (tok.encode text) 0 sp.chunk_size,
    (pyRange sp.stride (tok.encode text).length sp.stride).map (slice (tok.encode text) · sp.chunk_size),
    hwindows, fun x hx => ?_, ?_⟩
  · -- a window is a slice of `chunk_size` tokens
    rcases List.mem_cons.1 hx with rfl | hx
    · exact List.length_take_le _ _
    · obtain ⟨i, -, rfl⟩ := List.mem_map.1 hx
      exact List.length_take_le _ _
  · -- past their overlaps, the later windows are the tokens after the first window
    rw [List.map_map]
    have hdrop := flatten_drop_windows (tok.encode text) sp.stride_pos sp.chunk_overlap sp.stride
    rw [← hsize] at hdrop
    rw [Function.comp_def, hdrop, slice, List.drop_zero, List.take_append_drop]

end TokenTextSplitter

/-! ## The pipeline -/

namespace ChunkingPipeline

/-- `TokenTextSplitter(chunk_size=500, chunk_overlap=75)`. -/
def tokenSplitter : TokenTextSplitter := ⟨500, 75, by decide⟩

/-- With the pipeline's 500 and 75, a text of 870 tokens is cut into three windows, and the
third, tokens 850 to 869, lies inside the second, tokens 425 to 869: the loop tests the next
start against the end rather than the end of the window it has just cut. -/
theorem splitText_redundant_tail (tok : Tokenizer) (text : Str)
    (h870 : (tok.encode text).length = 870) :
    tokenSplitter.splitText tok text =
        [tok.decode (slice (tok.encode text) 0 500), tok.decode (slice (tok.encode text) 425 500),
          tok.decode (slice (tok.encode text) 850 500)] ∧
      slice (tok.encode text) 850 500 <:+ slice (tok.encode text) 425 500 := by
  have hpasses : tokenSplitter.passes (tok.encode text).length 0 = 3 := by
    rw [h870]
    rfl
  refine ⟨?_, ?_⟩
  · rw [TokenTextSplitter.splitText_eq_windows _ _ _ (by rw [h870]; decide), hpasses]
    rfl
  · -- both windows run to the end of the text
    have htail : ∀ i, 370 ≤ i → slice (tok.encode text) i 500 = (tok.encode text).drop i := by
      intro i hi
      rw [slice, List.take_of_length_le (by rw [List.length_drop, h870]; omega)]
    rw [htail 850 (by decide), htail 425 (by decide), show 850 = 425 + 425 from rfl,
      ← List.drop_drop]
    exact List.drop_suffix 425 _

theorem splitText_redundant_tail_ascii :
    (charTokenizer.encode (List.replicate 870 'a')).length = 870 ∧
      (tokenSplitter.splitText charTokenizer (List.replicate 870 'a') =
          [charTokenizer.decode (slice (charTokenizer.encode (List.replicate 870 'a')) 0 500),
            charTokenizer.decode (slice (charTokenizer.encode (List.replicate 870 'a')) 425 500),
            charTokenizer.decode (slice (charTokenizer.encode (List.replicate 870 'a')) 850 500)] ∧
        slice (charTokenizer.encode (List.replicate 870 'a')) 850 500 <:+
          slice (charTokenizer.encode (List.replicate 870 'a')) 425 500) :=
  have hlen : (charTokenizer.encode (List.replicate 870 'a')).length = 870 := by
    show ((List.replicate 870 'a').map Char.toNat).length = 870
    rw [List.length_map, List.length_replicate]
  ⟨hlen, splitText_redundant_tail charTokenizer _ hlen⟩

theorem splitText_covers_ascii :
    tokenSplitter.chunk_size < (charTokenizer.encode (List.replicate 870 'a')).length ∧
      ∃ w ws, tokenSplitter.splitText charTokenizer (List.replicate 870 'a') =
          (w :: ws).map charTokenizer.decode ∧
        (∀ x ∈ w :: ws, x.length ≤ tokenSplitter.chunk_size) ∧
        w ++ (ws.map (·.drop tokenSplitter.chunk_overlap)).flatten =
          charTokenizer.encode (List.replicate 870 'a') :=
  have hlong : tokenSplitter.chunk_size < (charTokenizer.encode (List.replicate 870 'a')).length := by
    show 500 < ((List.replicate 870 'a').map Char.toNat).length
    rw [List.length_map, List.length_replicate]
    omega
  ⟨hlong, TokenTextSplitter.splitText_covers _ _ _ hlong⟩

/-- `_extract_table_headers`: the `|`-separated, stripped fields of the first line when it
starts and ends with `|`, and `[]` otherwise. -/
def extractTableHeaders : List Str → List Str
  | [] => []
  | headerLine :: _ =>
      if ['|'].isPrefixOf headerLine && ['|'].isSuffixOf headerLine then
        ((innerSlice headerLine).splitOn '|').map strip
      else []

/-- The chunk of a large table covering the data lines from index `i` on. -/
def tableGroupChunk (tok : Tokenizer) (table : ElementData) (header separator : Str)
    (dataLines : List Str) (i : Nat) : ChunkData :=
  let chunkLines := slice dataLines i 40
  let chunkText := ['\n'].intercalate ([header, separator] ++ chunkLines)
  ⟨"table".toList, [], chunkText, TokenTextSplitter.countTokens tok chunkText, table.page, table.id,
    some ⟨table.table_id, chunkLines.length, some (i + 1), some (i + chunkLines.length),
      extractTableHeaders ([header, separator] ++ chunkLines), none, some true⟩⟩

/-- `_process_table`: a table of at most three lines is one chunk; otherwise the data lines
are cut into groups of `chunk_size = 40`, each chunk repeating the header and separator. -/
def processTable (tok : Tokenizer) (table : ElementData) : List ChunkData :=
  let lines := table.text.splitOn '\n'
  match lines with
  | header :: separator :: dataLines =>
      if lines.length ≤ 3 then
        [⟨"table".toList, [], table.text, TokenTextSplitter.countTokens tok table.text, table.page,
          table.id, some ⟨table.table_id, (lines.length : Int) - 2, none, none,
            extractTableHeaders lines, some ((lines.length : Int) - 2), none⟩⟩]
      else (pyRange 0 dataLines.length 40).map (tableGroupChunk tok table header separator dataLines)
  | _ =>
      [⟨"table".toList, [], table.text, TokenTextSplitter.countTokens tok table.text, table.page,
        table.id, some ⟨table.table_id, (lines.length : Int) - 2, none, none,
          extractTableHeaders lines, some ((lines.length : Int) - 2), none⟩⟩]

/-- The chunks of one section: the token windows of its elements' texts joined by spaces,
each carrying the section's path and its first element's page and id. -/
def sectionChunks (tok : Tokenizer) (sec : MarkdownHeaderSplitter.Section) : List ChunkData :=
  let sectionText := [' '].intercalate (sec.elements.map (·.text))
  (tokenSplitter.splitText tok sectionText).map fun chunkText =>
    ⟨"section".toList, sec.header_path, chunkText, TokenTextSplitter.countTokens tok chunkText,
      (sec.elements.head?).bind (·.page), (sec.elements.head?).bind (·.id), none⟩

/-- `build_chunks`: the section chunks of the non-table elements, then the chunks of each
table. -/
def buildChunks (cc : CharClasses) (tok : Tokenizer) (elements : List ElementData) :
    Except Exc (List ChunkData) :=
  let tables := elements.filter (·.type = "table".toList)
  let others := elements.filter (·.type ≠ "table".toList)
  let tableChunks := tables.flatMap (processTable tok)
  if others = [] then .ok tableChunks
  else
    match MarkdownHeaderSplitter.splitByHeaders cc others with
    | .error err => .error err
    | .ok sections => .ok (sections.flatMap (sectionChunks tok) ++ tableChunks)

end ChunkingPipeline

end RagService.Chunking
