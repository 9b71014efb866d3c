import RagService.Parsing.Elements
import RagService.Lib.Batches
import Mathlib.Data.List.Nodup

/-!
# `TableParser`: extracting, rendering and saving tables

`services/parsing/tables.py` finds the tables of a file by its MIME type, renders each as
pipe-delimited markdown, saves the text as the artifact `artifacts/tables/{table_id}.md` and
returns it as a `table` element. What the libraries read from the file is an input here
(`TableSource`): pdfplumber's and camelot's tables of a PDF, the DataFrame pandas reads from a
spreadsheet, and the text of a plain file.

- Renderers: `formatTableAsMarkdown` (`_format_table_as_markdown`) for pdfplumber's rows,
  whose cells are strings or `None`, and `dataframeToMarkdown` (`_dataframe_to_markdown`) for
  a DataFrame, which it first writes with `df.to_csv(index=False)` and then re-splits on `\n`
  and `,`. Neither escapes anything. `to_csv` is pandas code and enters as a parameter;
  `CsvPlain` states the documented behaviour the renderer relies on.
- Plain text: `extractTextTables` (`_extract_text_tables`), a scan of the lines with a
  lookahead of one. `extractTextTables_spans` says what it returns: runs of at least three
  lines, opened by a line passing its header test, ordered and disjoint. The header test
  also fires inside a table, which drops the rows collected so far
  (`extractTextTables_restart_drops_block`).
- Ids and artifacts: the ids of one call are distinct (`nodup_ids_extractTables`). Ids are
  built from per-file counters, so two files can share one, and the later file's table is
  saved over the earlier's (`text_table_artifact_overwritten`).
-/

set_option autoImplicit false

namespace RagService.Parsing

open PyText

namespace TableParser

/-- A pdfplumber cell: its text, or `None` for an empty cell. -/
abbrev PdfCell := Option Str

/-- `str(cell)`. -/
def cellStr : PdfCell → Str
  | some s => s
  | none => "None".toList

/-- `"|" + "|".join(cells) + "|"`. -/
def pipeRow (cells : List Str) : Str := '|' :: (['|'].intercalate cells ++ ['|'])

/-- `"|" + "|".join(["---"] * n) + "|"`. -/
def separatorRow (n : Nat) : Str := pipeRow (List.replicate n "---".toList)

/-- `_format_table_as_markdown`: the header row, the separator sized to the header, then the
data rows, joined by `\n`; the empty text for fewer than two rows. -/
def formatTableAsMarkdown : List (List PdfCell) → Str
  | [] => []
  | [_] => []
  | header :: rows =>
      ['\n'].intercalate (pipeRow (header.map cellStr) :: separatorRow header.length ::
        rows.map fun row => pipeRow (row.map cellStr))

/-- A DataFrame as `to_csv(index=False)` reads it: column labels and rows of cell texts. -/
structure Frame where
  columns : List Str
  rows : List (List Str)
  deriving DecidableEq, Repr

/-- `_dataframe_to_markdown`, with `df.to_csv(index=False)` given as `toCsv`: the stripped CSV
text split into lines, each line split on `,` and framed with pipes, and a separator after the
first; the CSV text itself when it has fewer than two lines. -/
def dataframeToMarkdown (toCsv : Frame → Str) (df : Frame) : Str :=
  let csvText := toCsv df
  match (strip csvText).splitOn '\n' with
  | [] => csvText
  | [_] => csvText
  | header :: lines =>
      ['\n'].intercalate (pipeRow (header.splitOn ',') ::
        separatorRow (header.splitOn ',').length :: lines.map fun line => pipeRow (line.splitOn ','))

/-- A cell that pandas writes as it is: free of the delimiter `,`, the quote character and
line breaks, so `QUOTE_MINIMAL` leaves it unquoted. -/
def PlainCell (c : Str) : Prop := ',' ∉ c ∧ '"' ∉ c ∧ '\n' ∉ c ∧ '\r' ∉ c

/-- The documented behaviour of `DataFrame.to_csv(index=False)` (csv writer, `QUOTE_MINIMAL`,
line terminator `\n`) on a frame of plain cells: the labels, then each row, joined by `,` and
each ended by `\n`. The writer quotes an empty field only when it is alone on its row, so the
rows here are not the one-cell row of an empty field. -/
def CsvPlain (toCsv : Frame → Str) : Prop :=
  ∀ df : Frame, (∀ row ∈ df.columns :: df.rows, ∀ c ∈ row, PlainCell c) →
    (∀ row ∈ df.columns :: df.rows, row ≠ [[]]) →
    toCsv df = (df.columns :: df.rows).flatMap fun row => [','].intercalate row ++ ['\n']

/-! ## Markdown tables in plain text

`_extract_text_tables` splits the file on `\n` and scans the lines with a lookahead of one. A
stripped line that holds `|` but does not start with it, followed by a raw line that holds
`---`, opens a table, and drops the table being collected, if any. While a table is open, a
line holding `|` joins it and any other line closes it; a closed table is kept when it has at
least three lines, and so is a table still open at the end. -/

/-- The header test of the scan: the stripped line holds `|` and does not start with it, and
the raw line after it holds `---`. -/
def opensTable (line : Str) (next : Option Str) : Bool :=
  line.contains '|' && !(['|'].isPrefixOf line) && next.any (containsSub "---".toList)

/-- The variables of the scan: `table_start`, `table_lines` and `tables`. -/
structure TextScan where
  table_start : Option Nat
  table_lines : List Str
  tables : List ElementData
  deriving DecidableEq, Repr

/-- `f"text_table_{table_start}"`. -/
def textTableId (table_start : Nat) : Str := "text_table_".toList ++ Nat.toDigits 10 table_start

/-- The dict of a table found in text: its lines joined by `\n`, on page 1. -/
def textTable (table_start : Nat) (table_lines : List Str) : ElementData :=
  ⟨none, "table".toList, ['\n'].intercalate table_lines, some 1, some (textTableId table_start)⟩

/-- `if len(table_lines) >= 3: ... tables.append(...)`. -/
def saveTextTable (table_start : Nat) (table_lines : List Str) (tables : List ElementData) :
    List ElementData :=
  if 3 ≤ table_lines.length then tables ++ [textTable table_start table_lines] else tables

/-- One pass of the loop, on line `i`, given raw, and the raw line after it, if any. -/
def textStep (i : Nat) (raw : Str) (next : Option Str) (st : TextScan) : TextScan :=
  let line := strip raw
  if opensTable line next then ⟨some i, [line], st.tables⟩
  else
    match st.table_start with
    | none => st
    | some start =>
      if line.contains '|' then ⟨some start, st.table_lines ++ [line], st.tables⟩
      else ⟨none, [], saveTextTable start st.table_lines st.tables⟩

/-- `for i, line in enumerate(lines)`, from line `i` on. -/
def scanLines : Nat → List Str → TextScan → TextScan
  | _, [], st => st
  | i, raw :: rest, st => scanLines (i + 1) rest (textStep i raw rest.head? st)

/-- After the loop: `if table_start is not None and len(table_lines) >= 3`. -/
def finishScan (st : TextScan) : List ElementData :=
  match st.table_start with
  | none => st.tables
  | some start => saveTextTable start st.table_lines st.tables

/-- `_extract_text_tables`, on the file read as UTF-8 or the exception reading raised, after
which the warning is logged and no table is returned. -/
def extractTextTables (content : Except Exc Str) : List ElementData :=
  match content with
  | .error _ => []
  | .ok text => finishScan (scanLines 0 (text.splitOn '\n') ⟨none, [], []⟩)

/-! ### What a scan returns

Every table the scan returns is a run of lines of the text: at least three, the first passing
the header test and every later one holding `|`, and the runs of two tables do not overlap
(`extractTextTables_spans`). The invariant `ScanInv` says what the scan has found after
reading a prefix of the lines; `textStep_inv` is its step and `scanLines_inv` its run. -/

/-- The stripped lines `start` to `start + len - 1` of the text. -/
def tableBlock (lines : List Str) (start len : Nat) : List Str :=
  ((lines.drop start).take len).map strip

/-- Lines `start` to `start + len - 1` may come back as one table: at least three lines of the
text, the first passing the header test and every later one holding `|`. -/
structure TableSpan (lines : List Str) (start len : Nat) : Prop where
  long : 3 ≤ len
  within : start + len ≤ lines.length
  opens : opensTable (strip (lines.getD start [])) lines[start + 1]? = true
  rows : ∀ l ∈ (tableBlock lines start len).tail, l.contains '|' = true

/-- The tables of a list of spans. -/
def spanTables (lines : List Str) (spans : List (Nat × Nat)) : List ElementData :=
  spans.map fun s => textTable s.1 (tableBlock lines s.1 s.2)

/-- Table spans in order, none overlapping the next, all ending by `bound`. -/
structure Spans (lines : List Str) (bound : Nat) (spans : List (Nat × Nat)) : Prop where
  span : ∀ s ∈ spans, TableSpan lines s.1 s.2
  ordered : spans.Pairwise fun a b => a.1 + a.2 ≤ b.1
  bounded : ∀ s ∈ spans, s.1 + s.2 ≤ bound

/-- The table open while the scan stands at line `n`: lines `start` to `n - 1`, the first
passing the header test and every later one holding `|`. -/
def OpenTable (lines : List Str) (n : Nat) : Option Nat → List Str → Prop
  | none, _ => True
  | some start, table_lines =>
    start < n ∧ table_lines = tableBlock lines start (n - start) ∧
      opensTable (strip (lines.getD start [])) lines[start + 1]? = true ∧
      ∀ l ∈ table_lines.tail, l.contains '|' = true

/-- What the scan has found once it has read the first `n` lines: the tables of spans ending
before the open table, if any, and the open table. -/
def ScanInv (lines : List Str) (n : Nat) (st : TextScan) : Prop :=
  (∃ spans, st.tables = spanTables lines spans ∧ Spans lines (st.table_start.getD n) spans) ∧
    OpenTable lines n st.table_start st.table_lines

theorem Spans.nil (lines : List Str) (bound : Nat) : Spans lines bound [] :=
  ⟨fun _ h => absurd h List.not_mem_nil, List.Pairwise.nil, fun _ h => absurd h List.not_mem_nil⟩

theorem Spans.mono {lines : List Str} {b b' : Nat} {spans : List (Nat × Nat)}
    (h : Spans lines b spans) (hb : b ≤ b') : Spans lines b' spans :=
  ⟨h.span, h.ordered, fun s hs => le_trans (h.bounded s hs) hb⟩

/-- A span after all the others extends them. -/
theorem Spans.snoc {lines : List Str} {start len : Nat} {spans : List (Nat × Nat)}
    (h : Spans lines start spans) (hs : TableSpan lines start len) :
    Spans lines (start + len) (spans ++ [(start, len)]) := by
  refine ⟨?_, ?_, ?_⟩
  · intro s hmem
    rcases List.mem_append.1 hmem with hold | hnew
    · exact h.span s hold
    · rw [List.mem_singleton.1 hnew]
      exact hs
  · rw [List.pairwise_append]
    refine ⟨h.ordered, List.pairwise_singleton _ _, fun a ha b hb => ?_⟩
    rw [List.mem_singleton.1 hb]
    exact h.bounded a ha
  · intro s hmem
    rcases List.mem_append.1 hmem with hold | hnew
    · exact le_trans (h.bounded s hold) (Nat.le_add_right _ _)
    · rw [List.mem_singleton.1 hnew]

theorem spanTables_snoc (lines : List Str) (spans : List (Nat × Nat)) (start len : Nat) :
    spanTables lines (spans ++ [(start, len)]) =
      spanTables lines spans ++ [textTable start (tableBlock lines start len)] := by
  simp [spanTables]

/-! #### Lines at a position of the scan -/

section Position

variable {lines rest : List Str} {i : Nat} {raw : Str}

theorem getD_of_drop (hdrop : lines.drop i = raw :: rest) : lines.getD i [] = raw := by
  rw [List.getD_eq_getElem?_getD, ← List.head?_drop, hdrop]
  rfl

theorem getElem?_succ_of_drop (hdrop : lines.drop i = raw :: rest) :
    lines[i + 1]? = rest.head? := by
  rw [← List.head?_drop, ← List.drop_drop, hdrop]
  rfl

theorem lt_length_of_drop (hdrop : lines.drop i = raw :: rest) : i < lines.length := by
  have hlen := congrArg List.length hdrop
  rw [List.length_drop, List.length_cons] at hlen
  omega

theorem tableBlock_one (hdrop : lines.drop i = raw :: rest) : tableBlock lines i 1 = [strip raw] := by
  rw [tableBlock, hdrop]
  rfl

/-- An open table grows by the stripped line the scan reads. -/
theorem tableBlock_snoc {s : Nat} (hs : s ≤ i) (hdrop : lines.drop i = raw :: rest) :
    tableBlock lines s (i + 1 - s) = tableBlock lines s (i - s) ++ [strip raw] := by
  have hget : (lines.drop s)[i - s]? = some raw := by
    rw [List.getElem?_drop, Nat.add_sub_cancel' hs, ← List.head?_drop, hdrop]
    rfl
  unfold tableBlock
  rw [show i + 1 - s = i - s + 1 by omega, List.take_add_one, hget]
  simp

end Position

theorem length_tableBlock {lines : List Str} {start len : Nat} (h : start + len ≤ lines.length) :
    (tableBlock lines start len).length = len := by
  simp [tableBlock]
  omega

/-- Closing the open table at line `n` keeps the invariant's tables: a table of three lines or
more becomes the last span. -/
theorem saveTextTable_spans {lines : List Str} {n start : Nat} {table_lines : List Str}
    {spans : List (Nat × Nat)} (hn : n ≤ lines.length) (hspans : Spans lines start spans)
    (hopen : OpenTable lines n (some start) table_lines) :
    ∃ spans', saveTextTable start table_lines (spanTables lines spans) = spanTables lines spans' ∧
      Spans lines n spans' := by
  obtain ⟨hlt, hlines, hopens, hrows⟩ := hopen
  unfold saveTextTable
  split
  · rename_i hlong
    -- the open table is lines `start` to `n - 1`
    have hlen : table_lines.length = n - start := by
      rw [hlines, length_tableBlock (by omega)]
    have hspan : TableSpan lines start (n - start) :=
      ⟨by omega, by omega, hopens, by rw [← hlines]; exact hrows⟩
    refine ⟨spans ++ [(start, n - start)], ?_, ?_⟩
    · rw [spanTables_snoc, hlines]
    · have := hspans.snoc hspan
      rwa [Nat.add_sub_cancel' hlt.le] at this
  · exact ⟨spans, rfl, hspans.mono hlt.le⟩

/-! #### The four moves of a step -/

section Step

variable {i : Nat} {raw : Str} {next : Option Str} {st : TextScan}

theorem textStep_of_opens (h : opensTable (strip raw) next = true) :
    textStep i raw next st = ⟨some i, [strip raw], st.tables⟩ := by
  simp [textStep, h]

theorem textStep_of_none (h : opensTable (strip raw) next = false) (hst : st.table_start = none) :
    textStep i raw next st = st := by
  simp [textStep, h, hst]

theorem textStep_of_row {s : Nat} (h : opensTable (strip raw) next = false)
    (hst : st.table_start = some s) (hrow : (strip raw).contains '|' = true) :
    textStep i raw next st = ⟨some s, st.table_lines ++ [strip raw], st.tables⟩ := by
  have hpipe : '|' ∈ strip raw := by simpa using hrow
  simp [textStep, h, hst, hpipe]

theorem textStep_of_close {s : Nat} (h : opensTable (strip raw) next = false)
    (hst : st.table_start = some s) (hrow : (strip raw).contains '|' = false) :
    textStep i raw next st = ⟨none, [], saveTextTable s st.table_lines st.tables⟩ := by
  have hpipe : '|' ∉ strip raw := by simpa using hrow
  simp [textStep, h, hst, hpipe]

end Step

/-- The step of the scan keeps its invariant. -/
theorem textStep_inv {lines rest : List Str} {i : Nat} {raw : Str} {st : TextScan}
    (hdrop : lines.drop i = raw :: rest) (h : ScanInv lines i st) :
    ScanInv lines (i + 1) (textStep i raw rest.head? st) := by
  obtain ⟨⟨spans, htables, hspans⟩, hopen⟩ := h
  have hi := lt_length_of_drop hdrop
  cases hopens : opensTable (strip raw) rest.head? with
  | true =>
    -- a header line opens a new table; the one being collected is dropped
    rw [textStep_of_opens hopens]
    have hend : Spans lines i spans := by
      cases hst : st.table_start with
      | none => rw [hst] at hspans; exact hspans
      | some s =>
        rw [hst] at hspans hopen
        exact hspans.mono hopen.1.le
    refine ⟨⟨spans, htables, hend⟩, Nat.lt_succ_self i, ?_, ?_, ?_⟩
    · rw [Nat.add_sub_cancel_left, tableBlock_one hdrop]
    · rw [getD_of_drop hdrop, getElem?_succ_of_drop hdrop]
      exact hopens
    · intro l hl
      exact absurd hl List.not_mem_nil
  | false =>
    cases hst : st.table_start with
    | none =>
      rw [textStep_of_none hopens hst]
      rw [hst] at hspans
      exact ⟨⟨spans, htables, by rw [hst]; exact hspans.mono (Nat.le_succ _)⟩, by rw [hst]; trivial⟩
    | some s =>
      rw [hst, Option.getD_some] at hspans
      rw [hst] at hopen
      obtain ⟨hlt, hlines, hopens', hrows⟩ := hopen
      cases hrow : (strip raw).contains '|' with
      | true =>
        -- a row joins the open table
        rw [textStep_of_row hopens hst hrow]
        refine ⟨⟨spans, htables, hspans⟩, Nat.lt_succ_of_lt hlt, ?_, hopens', ?_⟩
        · rw [tableBlock_snoc hlt.le hdrop, hlines]
        · intro l hl
          have hne : st.table_lines ≠ [] := by
            rw [hlines, ← List.length_pos_iff, length_tableBlock (by omega)]
            omega
          rw [List.tail_append_of_ne_nil hne] at hl
          rcases List.mem_append.1 hl with hold | hnew
          · exact hrows l hold
          · rw [List.mem_singleton.1 hnew]
            exact hrow
      | false =>
        -- any other line closes it
        rw [textStep_of_close hopens hst hrow]
        obtain ⟨spans', hsave, hspans'⟩ :=
          saveTextTable_spans hi.le hspans ⟨hlt, hlines, hopens', hrows⟩
        refine ⟨⟨spans', ?_, hspans'.mono (Nat.le_succ _)⟩, trivial⟩
        show saveTextTable s st.table_lines st.tables = _
        rw [htables, hsave]

/-- The run of the scan keeps its invariant, from any line on. -/
theorem scanLines_inv (lines : List Str) :
    ∀ (rest : List Str) (i : Nat) (st : TextScan), lines.drop i = rest → ScanInv lines i st →
      ScanInv lines (i + rest.length) (scanLines i rest st)
  | [], i, st, _, h => h
  | raw :: rest, i, st, hdrop, h => by
    have hnext : lines.drop (i + 1) = rest := by
      rw [← List.drop_drop, hdrop]
      rfl
    have := scanLines_inv lines rest (i + 1) _ hnext (textStep_inv hdrop h)
    rw [List.length_cons, ← Nat.add_assoc, Nat.add_right_comm]
    exact this

/-- Every table the scan returns is a run of lines of the text: at least three, the first
passing the header test and every later one holding `|`; the runs come in order and do not
overlap. -/
theorem extractTextTables_spans (text : Str) :
    ∃ spans, extractTextTables (.ok text) = spanTables (text.splitOn '\n') spans ∧
      Spans (text.splitOn '\n') (text.splitOn '\n').length spans := by
  set lines := text.splitOn '\n'
  have hinit : ScanInv lines 0 ⟨none, [], []⟩ := ⟨⟨[], rfl, Spans.nil lines 0⟩, trivial⟩
  have hrun := scanLines_inv lines lines 0 _ (List.drop_zero) hinit
  rw [Nat.zero_add] at hrun
  obtain ⟨⟨spans, htables, hspans⟩, hopen⟩ := hrun
  show ∃ spans, finishScan (scanLines 0 lines ⟨none, [], []⟩) = spanTables lines spans ∧ _
  unfold finishScan
  cases hst : (scanLines 0 lines ⟨none, [], []⟩).table_start with
  | none =>
    -- nothing is open at the end
    rw [hst] at hspans
    exact ⟨spans, htables, hspans⟩
  | some start =>
    -- the table open at the end is saved like any other
    rw [hst, Option.getD_some] at hspans
    rw [hst] at hopen
    rw [htables]
    exact saveTextTable_spans le_rfl hspans hopen

/-! ### Consequences -/

/-- Numbers are written in decimal without loss. -/
theorem toDigits_inj {a b : Nat} (h : Nat.toDigits 10 a = Nat.toDigits 10 b) : a = b := by
  rw [← @Nat.ofDigitChars_ten_toDigits a, h, Nat.ofDigitChars_ten_toDigits]

theorem textTableId_inj {a b : Nat} (h : textTableId a = textTableId b) : a = b :=
  toDigits_inj (List.append_cancel_left h)

/-- The tables of one text have distinct ids: the runs do not overlap, so they start at
different lines. -/
theorem nodup_ids_extractTextTables (text : Str) :
    ((extractTextTables (.ok text)).map (·.table_id)).Nodup := by
  obtain ⟨spans, htables, hspans⟩ := extractTextTables_spans text
  have hstarts : spans.Pairwise fun a b => a.1 ≠ b.1 :=
    hspans.ordered.imp_of_mem fun ha _ hab => by
      have := (hspans.span _ ha).long
      omega
  rw [htables, spanTables, List.map_map, List.Nodup, List.pairwise_map]
  exact hstarts.imp fun hne hid => hne (textTableId_inj (Option.some.inj hid))

/-- A data row followed by a line holding `---` passes the header test: the table being
collected is dropped and a new one opened there, which here is too short to keep. Lines 0 to 3
are a header, a delimiter and two rows, and no table comes back. -/
theorem extractTextTables_restart_drops_block :
    extractTextTables (.ok "a|b\n---|---\n1|2\n3|4\n---".toList) = [] := by
  decide

/-! ## Tables of a PDF and of a spreadsheet -/

/-- `f"pdfplumber_{page_num}_{table_num}"`. -/
def pdfplumberId (page_num table_num : Nat) : Str :=
  "pdfplumber_".toList ++ Nat.toDigits 10 page_num ++ '_' :: Nat.toDigits 10 table_num

/-- `f"camelot_{table_num}"`. -/
def camelotId (table_num : Nat) : Str := "camelot_".toList ++ Nat.toDigits 10 table_num

/-- Table `table_num` of page `page_num` from pdfplumber, kept when it has a header and a
row. -/
def pdfplumberTable (page_num : Nat) (table_data : List (List PdfCell)) (table_num : Nat) :
    Option ElementData :=
  if 1 < table_data.length then
    some ⟨none, "table".toList, formatTableAsMarkdown table_data, some page_num,
      some (pdfplumberId page_num table_num)⟩
  else none

/-- The pdfplumber loop over the pages and their tables, both numbered from 1. A failure part
way through ends the loop and keeps what was appended, so the pages given are those read
before it. -/
def pdfplumberTables (pages : List (List (List (List PdfCell)))) : List ElementData :=
  (pages.zipIdx 1).flatMap fun p => (p.1.zipIdx 1).filterMap fun q => pdfplumberTable p.2 q.1 q.2

/-- A table camelot found: its DataFrame and its `page`. -/
structure CamelotTable where
  df : Frame
  page : Nat
  deriving DecidableEq, Repr

/-- Table `table_num` from camelot, kept when its DataFrame has more than one row. -/
def camelotTable (toCsv : Frame → Str) (table : CamelotTable) (table_num : Nat) :
    Option ElementData :=
  if 1 < table.df.rows.length then
    some ⟨none, "table".toList, dataframeToMarkdown toCsv table.df, some table.page,
      some (camelotId table_num)⟩
  else none

/-- The camelot loop, numbered from 1; an empty list when `read_pdf` failed. -/
def camelotTables (toCsv : Frame → Str) (tables : List CamelotTable) : List ElementData :=
  (tables.zipIdx 1).filterMap fun q => camelotTable toCsv q.1 q.2

/-- `_extract_pdf_tables`: pdfplumber's tables, then camelot's, which runs whatever pdfplumber
found. -/
def extractPdfTables (toCsv : Frame → Str) (pdfplumber : List (List (List (List PdfCell))))
    (camelot : List CamelotTable) : List ElementData :=
  pdfplumberTables pdfplumber ++ camelotTables toCsv camelot

/-- `_extract_office_tables`: the frame `read_csv` or `read_excel` returned, or the exception
it raised; a non-empty frame is one table named by the fresh `uuid4`. -/
def extractOfficeTables (toCsv : Frame → Str) (uuid4 : Str) (df : Except Exc Frame) :
    List ElementData :=
  match df with
  | .error _ => []
  | .ok df =>
    if df.columns = [] ∨ df.rows = [] then []
    else [⟨none, "table".toList, dataframeToMarkdown toCsv df, some 1, some uuid4⟩]

/-- What the libraries give for one file: pdfplumber's tables of each page, camelot's tables,
the frame pandas reads and the text `open().read()` returns. -/
structure TableSource where
  pdfplumber : List (List (List (List PdfCell)))
  camelot : List CamelotTable
  frame : Except Exc Frame
  content : Except Exc Str

/-- `extract_tables`: the extractor of the MIME type. -/
def extractTables (toCsv : Frame → Str) (uuid4 : Str) (mime_type : Str) (src : TableSource) :
    List ElementData :=
  if mime_type = "application/pdf".toList then extractPdfTables toCsv src.pdfplumber src.camelot
  else if mime_type = "application/vnd.openxmlformats-officedocument.spreadsheetml.sheet".toList ∨
      mime_type = "text/csv".toList then
    extractOfficeTables toCsv uuid4 src.frame
  else if mime_type = "text/plain".toList then extractTextTables src.content
  else []

/-! ## Artifacts

Each extractor saves a table with `_save_table_artifact(table_text, f"artifacts/tables/{table_id}.md")`
just before it appends the table's dict, so the writes of a call are its tables' keys and texts
in order (`artifactWrites`). The bucket is the text last written under each key. -/

/-- `f"artifacts/tables/{table_id}.md"`. -/
def artifactKey (table_id : Str) : Str := "artifacts/tables/".toList ++ table_id ++ ".md".toList

/-- The bucket: the text last written under each key. -/
abbrev Artifacts := Str → Option Str

/-- `put_data`: the text is written under the key. -/
def putData (store : Artifacts) (w : Str × Str) : Artifacts :=
  fun k => if k = w.1 then some w.2 else store k

/-- The writes of one call, in order. -/
def artifactWrites (tables : List ElementData) : List (Str × Str) :=
  tables.filterMap fun t => t.table_id.map fun table_id => (artifactKey table_id, t.text)

/-- The bucket after the writes of one call. -/
def saveArtifacts (store : Artifacts) (tables : List ElementData) : Artifacts :=
  (artifactWrites tables).foldl putData store

/-- A file as the table parser meets it: its MIME type, what the libraries give for it, and
the `uuid4` drawn if it is a spreadsheet. -/
structure TableDoc where
  mime_type : Str
  source : TableSource
  uuid4 : Str

/-- The bucket after `extract_tables` has run on each file in turn. -/
def ingestArtifacts (toCsv : Frame → Str) (store : Artifacts) (docs : List TableDoc) : Artifacts :=
  docs.foldl (fun st d => saveArtifacts st (extractTables toCsv d.uuid4 d.mime_type d.source)) store

/-! ## Ids within one call

Within one call the ids are distinct: pdfplumber's are named by page and table number,
camelot's by table number, and the two kinds start differently; a text's tables start on
different lines; a spreadsheet gives one table. -/

/-- Two texts that both hold `c` only at the point shown are cut there alike. -/
theorem eq_of_append_cons_eq {c : Char} :
    ∀ {x₁ x₂ z₁ z₂ : Str}, c ∉ x₁ → c ∉ x₂ → x₁ ++ c :: z₁ = x₂ ++ c :: z₂ → x₁ = x₂ ∧ z₁ = z₂
  | [], [], _, _, _, _, h => ⟨rfl, (List.cons.inj h).2⟩
  | [], d :: _, _, _, _, h₂, h => absurd (by rw [(List.cons.inj h).1]; exact List.mem_cons_self) h₂
  | d :: _, [], _, _, h₁, _, h => absurd (by rw [← (List.cons.inj h).1]; exact List.mem_cons_self) h₁
  | d :: x₁, e :: x₂, _, _, h₁, h₂, h => by
    obtain ⟨hde, hrest⟩ := List.cons.inj h
    obtain ⟨hx, hz⟩ := eq_of_append_cons_eq (fun hc => h₁ (List.mem_cons_of_mem d hc))
      (fun hc => h₂ (List.mem_cons_of_mem e hc)) hrest
    exact ⟨by rw [hde, hx], hz⟩

theorem pdfplumberId_inj {p p' n n' : Nat} (h : pdfplumberId p n = pdfplumberId p' n') :
    p = p' ∧ n = n' := by
  unfold pdfplumberId at h
  rw [List.append_assoc, List.append_assoc] at h
  obtain ⟨hp, hn⟩ := eq_of_append_cons_eq Nat.underscore_not_in_toDigits
    Nat.underscore_not_in_toDigits (List.append_cancel_left h)
  exact ⟨toDigits_inj hp, toDigits_inj hn⟩

theorem camelotId_inj {n n' : Nat} (h : camelotId n = camelotId n') : n = n' :=
  toDigits_inj (List.append_cancel_left h)

theorem pdfplumberId_ne_camelotId (p n m : Nat) : pdfplumberId p n ≠ camelotId m := by
  have hp : "pdfplumber_".toList = 'p' :: "dfplumber_".toList := by decide
  have hc : "camelot_".toList = 'c' :: "amelot_".toList := by decide
  intro h
  unfold pdfplumberId camelotId at h
  rw [hp, hc, List.cons_append, List.cons_append, List.cons_append] at h
  exact absurd (List.cons.inj h).1 (by decide)

theorem table_id_of_pdfplumberTable {p n : Nat} {table_data : List (List PdfCell)}
    {t : ElementData} (h : pdfplumberTable p table_data n = some t) :
    t.table_id = some (pdfplumberId p n) := by
  unfold pdfplumberTable at h
  split at h
  · cases h
    rfl
  · cases h

theorem table_id_of_camelotTable {toCsv : Frame → Str} {n : Nat} {table : CamelotTable}
    {t : ElementData} (h : camelotTable toCsv table n = some t) :
    t.table_id = some (camelotId n) := by
  unfold camelotTable at h
  split at h
  · cases h
    rfl
  · cases h

/-- The ids pdfplumber gives for one page. -/
theorem mem_page_ids {p : Nat} {page_tables : List (List (List PdfCell))} {x : Option Str}
    (hx : x ∈ ((page_tables.zipIdx 1).filterMap fun q => pdfplumberTable p q.1 q.2).map
      (·.table_id)) :
    ∃ n, x = some (pdfplumberId p n) := by
  obtain ⟨t, ht, rfl⟩ := List.mem_map.1 hx
  obtain ⟨⟨table_data, n⟩, -, htd⟩ := List.mem_filterMap.1 ht
  exact ⟨n, table_id_of_pdfplumberTable htd⟩

theorem nodup_ids_pdfplumberTables (pages : List (List (List (List PdfCell)))) :
    ((pdfplumberTables pages).map (·.table_id)).Nodup := by
  unfold pdfplumberTables
  rw [List.map_flatMap]
  refine Batches.nodup_flatMap_zipIdx
    (fun page_tables p => ((page_tables.zipIdx 1).filterMap fun q => pdfplumberTable p q.1 q.2).map
      (·.table_id)) ?_ ?_ pages 1
  · -- within a page, tables are named by their number
    intro page_tables p
    exact Batches.nodup_filterMap_zipIdx (fun table_data n => pdfplumberTable p table_data n)
      (·.table_id) (fun n => some (pdfplumberId p n))
      (fun _ _ h => (pdfplumberId_inj (Option.some.inj h)).2)
      (fun _ _ _ h => table_id_of_pdfplumberTable h) page_tables 1
  · -- across pages, by their page
    intro _ _ i j hij x hx hy
    obtain ⟨n, rfl⟩ := mem_page_ids hx
    obtain ⟨m, hm⟩ := mem_page_ids hy
    exact hij (pdfplumberId_inj (Option.some.inj hm)).1

theorem nodup_ids_camelotTables (toCsv : Frame → Str) (tables : List CamelotTable) :
    ((camelotTables toCsv tables).map (·.table_id)).Nodup :=
  Batches.nodup_filterMap_zipIdx (fun table n => camelotTable toCsv table n) (·.table_id)
    (fun n => some (camelotId n)) (fun _ _ h => camelotId_inj (Option.some.inj h))
    (fun _ _ _ h => table_id_of_camelotTable h) tables 1

theorem nodup_ids_extractPdfTables (toCsv : Frame → Str)
    (pdfplumber : List (List (List (List PdfCell)))) (camelot : List CamelotTable) :
    ((extractPdfTables toCsv pdfplumber camelot).map (·.table_id)).Nodup := by
  rw [extractPdfTables, List.map_append, List.nodup_append]
  refine ⟨nodup_ids_pdfplumberTables pdfplumber, nodup_ids_camelotTables toCsv camelot, ?_⟩
  -- a pdfplumber id is never a camelot id
  intro x hx y hy hxy
  obtain ⟨t, ht, rfl⟩ := List.mem_map.1 hx
  obtain ⟨u, hu, rfl⟩ := List.mem_map.1 hy
  obtain ⟨⟨page_tables, p⟩, -, hpage⟩ := List.mem_flatMap.1 ht
  obtain ⟨⟨table_data, n⟩, -, htd⟩ := List.mem_filterMap.1 hpage
  obtain ⟨⟨table, m⟩, -, hcam⟩ := List.mem_filterMap.1 hu
  rw [table_id_of_pdfplumberTable htd, table_id_of_camelotTable hcam] at hxy
  exact pdfplumberId_ne_camelotId p n m (Option.some.inj hxy)

theorem nodup_ids_extractOfficeTables (toCsv : Frame → Str) (uuid4 : Str) (df : Except Exc Frame) :
    ((extractOfficeTables toCsv uuid4 df).map (·.table_id)).Nodup := by
  unfold extractOfficeTables
  split
  · exact List.nodup_nil
  · split
    · exact List.nodup_nil
    · exact List.nodup_singleton _

/-- The tables of one call have distinct ids, whatever the file. -/
theorem nodup_ids_extractTables (toCsv : Frame → Str) (uuid4 mime_type : Str) (src : TableSource) :
    ((extractTables toCsv uuid4 mime_type src).map (·.table_id)).Nodup := by
  unfold extractTables
  split
  · exact nodup_ids_extractPdfTables toCsv _ _
  · split
    · exact nodup_ids_extractOfficeTables toCsv uuid4 _
    · split
      · cases src.content with
        | error e => exact List.nodup_nil
        | ok text => exact nodup_ids_extractTextTables text
      · exact List.nodup_nil

/-! ## What a call leaves in the bucket -/

/-- Ids are only distinct within one call. Two plain-text files whose tables open on the same
line give them the same id, so the second file's table is saved over the first's: after both
files, the key of the first file's table holds the second's text. -/
theorem text_table_artifact_overwritten :
    extractTables (fun _ => []) [] "text/plain".toList
        ⟨[], [], .ok ⟨[], []⟩, .ok "a|b\n---|---\n1|2".toList⟩ =
      [textTable 0 ["a|b".toList, "---|---".toList, "1|2".toList]] ∧
    ingestArtifacts (fun _ => []) (fun _ => none)
        [⟨"text/plain".toList, ⟨[], [], .ok ⟨[], []⟩, .ok "a|b\n---|---\n1|2".toList⟩, []⟩,
          ⟨"text/plain".toList, ⟨[], [], .ok ⟨[], []⟩, .ok "c|d\n---|---\n3|4".toList⟩, []⟩]
        (artifactKey (textTableId 0)) = some "c|d\n---|---\n3|4".toList := by
  decide

end TableParser

end RagService.Parsing
