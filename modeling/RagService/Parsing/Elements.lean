import RagService.Lib.PyText

/-!
# Document parsers: pages and paragraphs to elements

`services/parsing/pdf.py` and `services/parsing/office.py` turn a file into element dicts
`{"type", "text", "page", "bbox"}`. What the third-party libraries return is an input here:
the page texts of `pymupdf4llm.to_markdown(path, page_chunks=True)` and the elements of
`unstructured.partition.auto.partition`, each of which may instead raise.

- `PDFParser.parseToElements`: the per-page loop over stripped lines, a two-state machine with
  a pending element (`Pending`) that `lineStep` advances and `flush` emits. A line starting
  with `#` opens a header element of type `h1` to `h6`; other lines accumulate into one `text`
  element.
- `OfficeParser.parseToElements`: the paragraphs of a text file (split on blank lines) or the
  elements of `partition`, each typed by `determineElementType`, which calls a heading
  `title`.
- `normalizeText`: the `_normalize_text` that both classes define with the same body.

`ElementData` is also the dict `chunk_document` rebuilds from an `elements` row, which adds
the row `id`.
-/

set_option autoImplicit false

namespace RagService.Parsing

open PyText

/-- An element dict: `{"id", "type", "text", "page", "table_id"}`. The parsers leave `id` out;
`chunk_document` fills it from the row. -/
structure ElementData where
  id : Option Nat
  type : Str
  text : Str
  page : Option Nat
  table_id : Option Str
  deriving DecidableEq, Repr

/-- `_normalize_text`: collapse whitespace runs, replace line breaks, join words hyphenated
across a break, strip. -/
def normalizeText (cc : CharClasses) (text : Str) : Str :=
  let t := (collapseSpace text).map fun c => if c = '\n' ∨ c = '\r' then ' ' else c
  strip (dehyphenate cc t.length t)

/-! ## PDF pages -/

namespace PDFParser

/-- `PDFParser._normalize_text`. -/
def normalizeText (cc : CharClasses) (text : Str) : Str := Parsing.normalizeText cc text

/-- The element the line loop is building: `current_type` and `current_text`. -/
structure Pending where
  type : Str
  text : Str
  deriving DecidableEq, Repr

/-- The state at the start of every page: `current_text = ""`, `current_type = "text"`. -/
def Pending.fresh : Pending := ⟨"text".toList, []⟩

/-- `if current_text: elements.append({...})`: emit the pending element when its text is
non-empty. -/
def flush (cc : CharClasses) (pageNum : Nat) (p : Pending) (out : List ElementData) :
    List ElementData :=
  if p.text = [] then out
  else out ++ [⟨none, p.type, normalizeText cc (strip p.text), some pageNum, none⟩]

/-- `f"h{min(header_level, 6)}"`. -/
def headerType (level : Nat) : Str := 'h' :: Nat.toDigits 10 (min level 6)

/-- One line of the page loop. A blank line changes nothing; a `#` line flushes the pending
element and opens a header; another line closes a pending header or extends the pending
text. -/
def lineStep (cc : CharClasses) (pageNum : Nat) (st : Pending × List ElementData) (raw : Str) :
    Pending × List ElementData :=
  let line := strip raw
  if line = [] then st
  else if ['#'].isPrefixOf line then
    let level := line.length - (lstripChar '#' line).length
    (⟨headerType level, strip (lstripChar '#' line)⟩, flush cc pageNum st.1 st.2)
  else if ['h'].isPrefixOf st.1.type then
    (⟨"text".toList, line⟩, flush cc pageNum st.1 st.2)
  else
    (⟨st.1.type, if st.1.text = [] then line else st.1.text ++ ' ' :: line⟩, st.2)

/-- One page: split on `\n`, run the line loop, and save the last element. -/
def parsePage (cc : CharClasses) (pageNum : Nat) (pageText : Str) (out : List ElementData) :
    List ElementData :=
  let st := (pageText.splitOn '\n').foldl (lineStep cc pageNum) (Pending.fresh, out)
  flush cc pageNum st.1 st.2

/-- `for page_num, page_content in enumerate(pages, 1)`: a page given as `none` stands for a
falsy `page_content` and is skipped, though it still takes its number. -/
def parsePages (cc : CharClasses) : Nat → List (Option Str) → List ElementData → List ElementData
  | _, [], out => out
  | n, none :: ps, out => parsePages cc (n + 1) ps out
  | n, some text :: ps, out => parsePages cc (n + 1) ps (parsePage cc n text out)

/-- `PDFParser.parse_to_elements`: the page texts of `to_markdown`, or the exception it raised,
which is re-raised as `Failed to parse PDF: {e}`. -/
def parseToElements (cc : CharClasses) (markdown : Except Exc (List (Option Str))) :
    Except Exc (List ElementData) :=
  match markdown with
  | .error e => .error (Exc.exception ("Failed to parse PDF: ".toList ++ e.message))
  | .ok pages => .ok (parsePages cc 1 pages [])

example : parseToElements asciiClasses (.ok [some "## Intro\nbody\n".toList]) =
    .ok [⟨none, "h2".toList, "Intro".toList, some 1, none⟩,
      ⟨none, "text".toList, "body".toList, some 1, none⟩] := by decide

end PDFParser

/-! ## Office documents and plain text -/

namespace OfficeParser

/-- `OfficeParser._normalize_text`. -/
def normalizeText (cc : CharClasses) (text : Str) : Str := Parsing.normalizeText cc text

/-- `_determine_element_type`: `title` for a line starting with `#` or an all-caps line of at
most ten words; then `list` for the prefixes `-`, `*`, `•` (U+2022), `1.`, `2.`, `3.`; then
`code`; then `text`. -/
def determineElementType (cc : CharClasses) (s : Str) : Str :=
  if ['#'].isPrefixOf s || (isUpperStr cc s && decide ((splitWs s).length ≤ 10)) then
    "title".toList
  else if ["-".toList, "*".toList, [Char.ofNat 0x2022], "1.".toList, "2.".toList, "3.".toList].any
      (·.isPrefixOf s) then
    "list".toList
  else if containsSub "```".toList s || decide (2 < s.count '{') then "code".toList
  else "text".toList

/-- Keep a piece of text as an element when its normalised text is not blank. -/
def toElement (cc : CharClasses) (source : Str) (page : Option Nat) : Option ElementData :=
  let text := normalizeText cc source
  if strip text = [] then none else some ⟨none, determineElementType cc source, text, page, none⟩

/-- `_parse_plain_text`: the stripped non-blank paragraphs between blank lines, all on
page 1. -/
def parsePlainText (cc : CharClasses) (content : Str) : List ElementData :=
  let paragraphs := ((splitSep "\n\n".toList content).map strip).filter (· ≠ [])
  paragraphs.filterMap fun p => toElement cc p (some 1)

/-- An element of `partition`: its `str()` and its `metadata.page_number`. -/
structure RawElement where
  text : Str
  page : Option Nat
  deriving DecidableEq, Repr

/-- `OfficeParser.parse_to_elements`. A path ending in `.txt` is read as plain text;
otherwise `partition` runs, and if it raises, the file is read as plain text. `content` is
the file read as UTF-8, or the exception that reading raised; the method re-raises every
exception as `Failed to parse office document: {e}`. -/
def parseToElements (cc : CharClasses) (isTxt : Bool) (partition : Except Exc (List RawElement))
    (content : Except Exc Str) : Except Exc (List ElementData) :=
  let plain : Except Exc (List ElementData) :=
    match content with
    | .ok c => .ok (parsePlainText cc c)
    | .error e => .error (Exc.exception ("Failed to parse office document: ".toList ++ e.message))
  if isTxt then plain
  else
    match partition with
    | .error _ => plain
    | .ok raw => .ok (raw.filterMap fun e => toElement cc e.text e.page)

example : parsePlainText asciiClasses "# Intro\n\nBody text".toList =
    [⟨none, "title".toList, "# Intro".toList, some 1, none⟩,
      ⟨none, "text".toList, "Body text".toList, some 1, none⟩] := by decide

end OfficeParser

end RagService.Parsing
