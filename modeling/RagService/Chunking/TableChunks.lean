import RagService.Chunking.Pipeline

/-!
# Rendered tables through the table chunker

A table element's text is the markdown one of the `TableParser` renderers made, and
`ChunkingPipeline.processTable` cuts it back into chunks by physical lines and reads the
headers back by `|`. This module follows a grid through both.

- `formatTable_lines`: the rendered text splits on `\n` into the header line, the separator and
  one line per data row, when no cell holds a line break.
- `dataframeToMarkdown_eq_formatTable`: on a grid of plain, trimmed cells the DataFrame
  renderer writes exactly what the pdfplumber renderer writes.
- `processTable_of_lines`: for a text of a header, a separator and data lines, the chunks
  hold the data lines once each and in order, each starts with the header and separator, and
  each names its own rows in `table_meta`.
- `extractTableHeaders_pipeRow`: the header line gives back the header cells when they hold
  no pipe and no outer whitespace.

`rendered_table_chunks` puts them together; `pipe_cell_splits_header` is a grid with a `|` in
a header cell, whose chunk reports one header too many.
-/

set_option autoImplicit false

namespace RagService.Chunking

open PyText Batches RagService.Parsing RagService.Parsing.TableParser ChunkingPipeline

/-- The data lines of a table chunk: its lines after the header and the separator. -/
def chunkDataLines (c : ChunkData) : List Str := (c.text.splitOn '\n').drop 2

/-- The 1-based rows `first..last` that a chunk's `table_meta` names: `start_row..end_row`,
or `1..rows` in the single-chunk form. -/
def TableMeta.rowSpan (m : TableMeta) : Nat × Nat :=
  (m.start_row.getD 1, m.end_row.getD m.rows.toNat)

/-! ## Rendered lines -/

theorem newline_not_mem_pipeRow {cells : List Str} (h : ∀ c ∈ cells, '\n' ∉ c) :
    '\n' ∉ pipeRow cells := by
  have hj : '\n' ∉ ['|'].intercalate cells := not_mem_intercalate (by decide) h
  simp only [pipeRow, List.mem_cons, List.mem_append, not_or]
  exact ⟨by decide, hj, by decide⟩

theorem newline_not_mem_separatorRow (n : Nat) : '\n' ∉ separatorRow n := by
  refine newline_not_mem_pipeRow fun c hc => ?_
  rw [List.eq_of_mem_replicate hc]
  decide

/-- A joined text whose lines hold no line break splits back into those lines. -/
theorem splitOn_lines {lines : List Str} (hne : lines ≠ []) (h : ∀ l ∈ lines, '\n' ∉ l) :
    (['\n'].intercalate lines).splitOn '\n' = lines :=
  List.splitOn_intercalate '\n' h hne

/-- The lines of a text with a header line, a separator and at least one data line start with
the header and the separator, each followed by its line break. -/
theorem text_starts_with_header (H S : Str) {rest : List Str} (h : rest ≠ []) :
    H ++ ['\n'] ++ S ++ ['\n'] <+: ['\n'].intercalate (H :: S :: rest) := by
  rw [intercalate_cons_of_ne_nil _ _ (List.cons_ne_nil S rest),
    intercalate_cons_of_ne_nil _ _ h]
  exact ⟨['\n'].intercalate rest, by simp⟩

/-- The lines of the pdfplumber rendering: header, separator, one line per data row. -/
theorem formatTable_lines (header : List Str) {rows : List (List Str)} (hrows : rows ≠ [])
    (hnl : ∀ r ∈ header :: rows, ∀ c ∈ r, '\n' ∉ c) :
    formatTableAsMarkdown ((header :: rows).map (·.map some)) =
      ['\n'].intercalate (pipeRow header :: separatorRow header.length :: rows.map pipeRow) := by
  obtain ⟨r, rs, rfl⟩ := List.exists_cons_of_ne_nil hrows
  have hcell : ∀ row : List Str, row.map (fun c => cellStr (some c)) = row := fun row => by
    simp [cellStr]
  simp only [List.map_cons, formatTableAsMarkdown, List.map_map, Function.comp_def, hcell,
    List.length_map]

/-- Every line of the pdfplumber rendering is free of line breaks. -/
theorem formatTable_lines_newline (header : List Str) (rows : List (List Str))
    (hnl : ∀ r ∈ header :: rows, ∀ c ∈ r, '\n' ∉ c) :
    ∀ l ∈ pipeRow header :: separatorRow header.length :: rows.map pipeRow, '\n' ∉ l := by
  intro l hl
  simp only [List.mem_cons, List.mem_map] at hl
  rcases hl with rfl | rfl | ⟨r, hr, rfl⟩
  · exact newline_not_mem_pipeRow (hnl header (by simp))
  · exact newline_not_mem_separatorRow _
  · exact newline_not_mem_pipeRow (hnl r (by simp [hr]))

/-! ## The DataFrame renderer on plain cells -/

/-- Rows each ended by a separator are the rows joined by it, with one more at the end. -/
theorem flatMap_append_sep {β : Type} (f : β → Str) (d : Char) :
    ∀ {l : List β}, l ≠ [] → l.flatMap (fun r => f r ++ [d]) = [d].intercalate (l.map f) ++ [d]
  | [], h => absurd rfl h
  | [r], _ => by simp
  | r :: q :: rest, _ => by
      rw [List.flatMap_cons, flatMap_append_sep f d (List.cons_ne_nil q rest)]
      simp [List.intercalate_cons_cons]

/-- A CSV line of plain cells holds no line break. -/
theorem newline_not_mem_csvLine {row : List Str} (h : ∀ c ∈ row, PlainCell c) :
    '\n' ∉ [','].intercalate row :=
  not_mem_intercalate (by decide) fun c hc => (h c hc).2.2.1

/-- A CSV line of plain cells splits on `,` into its cells. -/
theorem csvLine_splitOn {row : List Str} (hne : row ≠ []) (h : ∀ c ∈ row, PlainCell c) :
    ([','].intercalate row).splitOn ',' = row :=
  List.splitOn_intercalate ',' (fun c hc => (h c hc).1) hne

/-- A line of cells is not empty when its first cell is not. -/
theorem intercalate_ne_nil (sep c0 : Str) (cs : List Str) (h : c0 ≠ []) :
    sep.intercalate (c0 :: cs) ≠ [] := by
  intro hj
  have hh := head?_intercalate sep c0 cs h
  rw [hj, List.head?_nil] at hh
  exact h (List.head?_eq_none_iff.mp hh.symm)

/-- A CSV line is not empty unless its row is empty or one empty cell. -/
theorem csvLine_ne_nil {row : List Str} (hne : row ≠ []) (hlone : row ≠ [[]]) :
    [','].intercalate row ≠ [] := by
  match row, hne, hlone with
  | [c], _, hlone =>
    -- a lone cell is the whole line
    rw [List.intercalate_singleton]
    exact fun h => hlone (h ▸ rfl)
  | c :: d :: ds, _, _ => simp [List.intercalate_cons_cons]

/-- On a grid of plain cells, with no row a lone empty cell and CSV text without outer whitespace,
the DataFrame renderer writes what the pdfplumber renderer writes: the CSV text strips to its
lines, and each line splits back into its cells. -/
theorem dataframeToMarkdown_eq_formatTable {toCsv : Frame → Str} (hcsv : CsvPlain toCsv)
    {header : List Str} {rows : List (List Str)} (hhead : header ≠ []) (hrows : rows ≠ [])
    (hwidth : ∀ r ∈ rows, r.length = header.length)
    (hplain : ∀ r ∈ header :: rows, ∀ c ∈ r, PlainCell c) (hlone : ∀ r ∈ header :: rows, r ≠ [[]])
    (htrim : Trimmed (['\n'].intercalate ((header :: rows).map fun r => [','].intercalate r))) :
    dataframeToMarkdown toCsv ⟨header, rows⟩ =
      formatTableAsMarkdown ((header :: rows).map (·.map some)) := by
  have hrow_ne : ∀ r ∈ header :: rows, r ≠ [] := by
    intro r hr h
    rcases List.mem_cons.mp hr with rfl | hr
    · exact hhead h
    · exact hhead (List.length_eq_zero_iff.mp (by rw [← hwidth r hr, h, List.length_nil]))
  have hfirst : [','].intercalate header ≠ [] :=
    csvLine_ne_nil hhead (hlone header List.mem_cons_self)
  -- the CSV text is its lines joined by `\n` with one more at the end
  have hcsvText : toCsv ⟨header, rows⟩ =
      ['\n'].intercalate ((header :: rows).map fun r => [','].intercalate r) ++ ['\n'] := by
    rw [hcsv _ hplain hlone]
    exact flatMap_append_sep _ '\n' (List.cons_ne_nil _ _)
  have hjoined_ne : ['\n'].intercalate ((header :: rows).map fun r => [','].intercalate r) ≠ [] := by
    rw [List.map_cons]
    exact intercalate_ne_nil _ _ _ hfirst
  have hlines : (strip (toCsv ⟨header, rows⟩)).splitOn '\n' =
      (header :: rows).map fun r => [','].intercalate r := by
    rw [hcsvText, strip_append_space htrim hjoined_ne (by decide)]
    refine List.splitOn_intercalate '\n' ?_ (by simp)
    intro l hl
    obtain ⟨r, hr, rfl⟩ := List.mem_map.mp hl
    exact newline_not_mem_csvLine (hplain r hr)
  obtain ⟨r, rs, rfl⟩ := List.exists_cons_of_ne_nil hrows
  have hsplit : ∀ row ∈ header :: r :: rs, ([','].intercalate row).splitOn ',' = row :=
    fun row hrow => csvLine_splitOn (hrow_ne row hrow) (hplain row hrow)
  have hcell : ∀ row : List Str, row.map (fun c => cellStr (some c)) = row := fun row => by
    simp [cellStr]
  simp only [dataframeToMarkdown, hlines, List.map_cons, formatTableAsMarkdown, List.map_map,
    Function.comp_def, hcell, List.length_map]
  rw [hsplit header (by simp), hsplit r (by simp)]
  congr 4
  exact List.map_congr_left fun row hrow => by rw [hsplit row (by simp [hrow])]

/-! ## Headers -/

/-- Only the first line matters to `_extract_table_headers`. -/
theorem extractTableHeaders_cons (h : Str) (rest : List Str) :
    extractTableHeaders (h :: rest) = extractTableHeaders [h] := rfl

/-- The header line gives back the header cells when they hold no pipe and no outer
whitespace. -/
theorem extractTableHeaders_pipeRow {header : List Str} (hhead : header ≠ [])
    (hpipe : ∀ c ∈ header, '|' ∉ c) (htrim : ∀ c ∈ header, Trimmed c) :
    extractTableHeaders [pipeRow header] = header := by
  simp only [extractTableHeaders, pipeRow, frame_startswith, frame_endswith, Bool.and_self,
    if_true, innerSlice_frame]
  rw [List.splitOn_intercalate '|' hpipe hhead]
  exact (List.map_congr_left fun c hc => strip_of_trimmed (htrim c hc)).trans (List.map_id _)

/-- A data row reads back into its cells from its rendered line. -/
theorem pipeRow_cells {row : List Str} (hne : row ≠ []) (hpipe : ∀ c ∈ row, '|' ∉ c) :
    (innerSlice (pipeRow row)).splitOn '|' = row := by
  rw [pipeRow, innerSlice_frame]
  exact List.splitOn_intercalate '|' hpipe hne

/-! ## Chunks of a table text -/

/-- The slice of a list at a start inside it is not empty. -/
theorem slice_ne_nil {α : Type} {D : List α} {i k : Nat} (hi : i < D.length) (hk : 0 < k) :
    slice D i k ≠ [] := by
  intro h
  have hlen := congrArg List.length h
  simp only [slice, List.length_take, List.length_drop, List.length_nil] at hlen
  omega

/-- A chunk of the grouped form splits into the header, the separator and its slice. -/
theorem tableGroupChunk_lines (tok : Tokenizer) (table : ElementData) {H S : Str}
    {D : List Str} (hnl : ∀ l ∈ H :: S :: D, '\n' ∉ l) (i : Nat) :
    (tableGroupChunk tok table H S D i).text.splitOn '\n' = H :: S :: slice D i 40 := by
  refine splitOn_lines (by simp) fun l hl => ?_
  simp only [List.cons_append, List.nil_append, List.mem_cons] at hl
  rcases hl with rfl | rfl | hl
  · exact hnl l (by simp)
  · exact hnl l (by simp)
  · exact hnl l (List.mem_cons_of_mem _ (List.mem_cons_of_mem _
      (List.mem_of_mem_drop (List.mem_of_mem_take hl))))

/-- The chunks of a table text made of a header line, a separator and data lines, none with a
line break: their data lines are the data lines, once each and in order; each starts with the
header and the separator; and each names, in `table_meta`, the 1-based rows it holds. -/
theorem processTable_of_lines (tok : Tokenizer) (table : ElementData) {H S : Str}
    {D : List Str} (hD : D ≠ []) (hnl : ∀ l ∈ H :: S :: D, '\n' ∉ l)
    (htext : table.text = ['\n'].intercalate (H :: S :: D)) :
    ((processTable tok table).map chunkDataLines).flatten = D ∧
    ∀ c ∈ processTable tok table, H ++ ['\n'] ++ S ++ ['\n'] <+: c.text ∧
      ∃ m, c.table_meta = some m ∧ m.headers = extractTableHeaders [H] ∧
        1 ≤ m.rowSpan.1 ∧ m.rowSpan.1 ≤ m.rowSpan.2 ∧
        chunkDataLines c = slice D (m.rowSpan.1 - 1) (m.rowSpan.2 + 1 - m.rowSpan.1) := by
  have hlines : table.text.splitOn '\n' = H :: S :: D := by
    rw [htext]
    exact splitOn_lines (by simp) hnl
  rcases D with _ | ⟨r, _ | ⟨r', D'⟩⟩
  · exact absurd rfl hD
  · -- three lines: one chunk, the whole table
    have hone : processTable tok table =
        [⟨"table".toList, [], table.text, TokenTextSplitter.countTokens tok table.text, table.page,
          table.id, some ⟨table.table_id, 1, none, none, extractTableHeaders [H, S, r], some 1,
            none⟩⟩] := by
      simp only [processTable, hlines]
      rfl
    have hdata : (table.text.splitOn '\n').drop 2 = [r] := by rw [hlines]; rfl
    rw [hone]
    refine ⟨by simp [chunkDataLines, hdata], ?_⟩
    intro c hc
    rw [List.mem_singleton] at hc
    subst hc
    refine ⟨by rw [htext]; exact text_starts_with_header H S (List.cons_ne_nil r []), _, rfl,
      extractTableHeaders_cons H [S, r], by simp [TableMeta.rowSpan], by simp [TableMeta.rowSpan],
      ?_⟩
    simp [chunkDataLines, hdata, TableMeta.rowSpan, slice]
  · -- four lines or more: groups of 40 data lines
    have hlen : ¬ (H :: S :: r :: r' :: D').length ≤ 3 := by simp
    simp only [processTable, hlines, hlen, if_false]
    refine ⟨?_, ?_⟩
    · rw [List.map_map]
      have hfun : chunkDataLines ∘ tableGroupChunk tok table H S (r :: r' :: D') =
          fun i => slice (r :: r' :: D') i 40 := by
        funext i
        simp only [Function.comp, chunkDataLines, tableGroupChunk_lines tok table hnl i,
          List.drop_succ_cons, List.drop_zero]
      rw [hfun]
      exact flatten_slices _ (by decide) 0
    · intro c hc
      obtain ⟨i, hi, rfl⟩ := List.mem_map.mp hc
      have hib := (mem_pyRange_bounds (by decide) hi).2
      have hne := slice_ne_nil hib (by decide : 0 < 40)
      refine ⟨text_starts_with_header H S hne, _, rfl,
        extractTableHeaders_cons H ([S] ++ slice (r :: r' :: D') i 40), ?_⟩
      have hpos : 0 < (slice (r :: r' :: D') i 40).length := List.length_pos_of_ne_nil hne
      refine ⟨by simp [TableMeta.rowSpan], by simp [TableMeta.rowSpan]; omega, ?_⟩
      have hdl : chunkDataLines (tableGroupChunk tok table H S (r :: r' :: D') i) =
          slice (r :: r' :: D') i 40 := by
        rw [chunkDataLines, tableGroupChunk_lines tok table hnl i]
        rfl
      rw [hdl]
      simp only [TableMeta.rowSpan, Option.getD_some]
      rw [show i + 1 - 1 = i by omega,
        show i + (slice (r :: r' :: D') i 40).length + 1 - (i + 1) =
          (slice (r :: r' :: D') i 40).length by omega]
      simp [slice]

/-! ## A grid through the renderers and the chunker -/

/-- A grid rendered by either `TableParser` renderer and cut by `_process_table`, when its
cells hold no line break and no pipe, its header is non-empty with cells free of outer
whitespace, it has data rows of the header's width, and for the DataFrame renderer its cells
are plain, no row is one empty cell and the CSV text has no outer whitespace: the chunks' data lines are the rendered rows, once each and in order,
and read back into the grid's rows; every chunk starts with the rendered header and separator,
reports the grid's header cells, and names in `table_meta` exactly the rows it holds. -/
theorem rendered_table_chunks (tok : Tokenizer) (toCsv : Frame → Str) (hcsv : CsvPlain toCsv)
    (header : List Str) (rows : List (List Str)) (hhead : header ≠ []) (hrows : rows ≠ [])
    (hwidth : ∀ r ∈ rows, r.length = header.length)
    (hcells : ∀ r ∈ header :: rows, ∀ c ∈ r, '\n' ∉ c ∧ '|' ∉ c)
    (htrim : ∀ c ∈ header, Trimmed c) (table : ElementData)
    (hrender : table.text = formatTableAsMarkdown ((header :: rows).map (·.map some)) ∨
      ((∀ r ∈ header :: rows, ∀ c ∈ r, PlainCell c) ∧ (∀ r ∈ header :: rows, r ≠ [[]]) ∧
        Trimmed (['\n'].intercalate ((header :: rows).map fun r => [','].intercalate r)) ∧
        table.text = dataframeToMarkdown toCsv ⟨header, rows⟩)) :
    ((processTable tok table).map chunkDataLines).flatten = rows.map pipeRow ∧
    (((processTable tok table).map chunkDataLines).flatten.map
      fun l => (innerSlice l).splitOn '|') = rows ∧
    ∀ c ∈ processTable tok table,
      pipeRow header ++ ['\n'] ++ separatorRow header.length ++ ['\n'] <+: c.text ∧
      ∃ m, c.table_meta = some m ∧ m.headers = header ∧
        1 ≤ m.rowSpan.1 ∧ m.rowSpan.1 ≤ m.rowSpan.2 ∧
        chunkDataLines c =
          slice (rows.map pipeRow) (m.rowSpan.1 - 1) (m.rowSpan.2 + 1 - m.rowSpan.1) := by
  -- both renderers give the same text
  have htext : table.text = ['\n'].intercalate
      (pipeRow header :: separatorRow header.length :: rows.map pipeRow) := by
    have hnl : ∀ r ∈ header :: rows, ∀ c ∈ r, '\n' ∉ c := fun r hr c hc => (hcells r hr c hc).1
    rcases hrender with h | ⟨hplain, hlone, hcsvTrim, h⟩
    · rw [h, formatTable_lines header hrows hnl]
    · rw [h, dataframeToMarkdown_eq_formatTable hcsv hhead hrows hwidth hplain hlone hcsvTrim,
        formatTable_lines header hrows hnl]
  have hD : rows.map pipeRow ≠ [] := by simpa using hrows
  obtain ⟨hflat, hchunks⟩ := processTable_of_lines tok table hD
    (formatTable_lines_newline header rows fun r hr c hc => (hcells r hr c hc).1) htext
  have hheaders : extractTableHeaders [pipeRow header] = header :=
    extractTableHeaders_pipeRow hhead (fun c hc => (hcells header (by simp) c hc).2) htrim
  refine ⟨hflat, ?_, ?_⟩
  · -- each rendered row reads back into its cells
    rw [hflat, List.map_map]
    refine (List.map_congr_left fun r hr => ?_).trans (List.map_id rows)
    have hne : r ≠ [] := by
      intro h
      have := hwidth r hr
      rw [h, List.length_nil] at this
      exact hhead (List.length_eq_zero_iff.mp this.symm)
    exact pipeRow_cells hne fun c hc => (hcells r (by simp [hr]) c hc).2
  · intro c hc
    obtain ⟨hpre, m, hm, hmh, hrest⟩ := hchunks c hc
    exact ⟨hpre, m, hm, hmh.trans hheaders, hrest⟩

/-- The CSV writer of plain cells, as `CsvPlain` describes it. -/
def plainCsv (df : Frame) : Str :=
  (df.columns :: df.rows).flatMap fun row => [','].intercalate row ++ ['\n']

theorem plainCsv_csvPlain : CsvPlain plainCsv := fun _ _ _ => rfl

/-- The round trip on a two-column grid with two data rows, rendered from pdfplumber rows. -/
theorem rendered_table_chunks_two_rows :
    CsvPlain plainCsv ∧
    ((processTable charTokenizer ⟨none, "table".toList,
        formatTableAsMarkdown ([["id".toList, "name".toList], ["1".toList, "a".toList],
          ["2".toList, "b".toList]].map (·.map some)), some 1, some "t".toList⟩).map
      chunkDataLines).flatten =
      [["1".toList, "a".toList], ["2".toList, "b".toList]].map pipeRow :=
  ⟨plainCsv_csvPlain,
    (rendered_table_chunks charTokenizer plainCsv plainCsv_csvPlain ["id".toList, "name".toList]
      [["1".toList, "a".toList], ["2".toList, "b".toList]] (by decide) (by decide) (by decide)
      (by decide) (by decide) _ (Or.inl rfl)).1⟩

/-- A `|` inside a header cell: the pdfplumber grid `[["a|b", "c"], ["1", "2"]]` renders as
`|a|b|c|`, and its one chunk reports the headers `a`, `b`, `c` instead of `a|b`, `c`. -/
theorem pipe_cell_splits_header :
    ∃ c ∈ processTable charTokenizer ⟨none, "table".toList,
        formatTableAsMarkdown [[some "a|b".toList, some "c".toList],
          [some "1".toList, some "2".toList]], some 1, some "t".toList⟩,
      c.table_meta.map (·.headers) ≠ some ["a|b".toList, "c".toList] := by
  decide

end RagService.Chunking
