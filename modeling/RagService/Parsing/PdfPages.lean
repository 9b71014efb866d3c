import RagService.Parsing.Normalize
import Mathlib.Data.List.SplitBy

/-!
# PDF pages: the elements of the line loop, read without the loop

`PDFParser.parse_to_elements` reads each page line by line with a pending element. Read without
the loop, a page is its stripped non-empty lines cut into groups: every line that starts with
`#` alone, and every maximal run of the other lines together, which is `List.splitBy sameText`.
A `#` line gives a header element, `h1` to `h6` by its number of leading `#`s, whose text is
its text without the `#`s once normalised; it is left out when that text is empty. A run gives
one `text` element, its lines joined by single spaces and normalised. Every element carries the
number of its page (`pageElements`, `pagesElements`).

- `parseToElements_pages`: the parser emits exactly these elements, page by page and in
  order, for every list of page texts, when the space is not a word character.

The proof follows the groups. `foldl_group` runs the loop over one group, from a pending
element after which the group may start (`Opens`), and leaves the group's own element pending
(`pendingOf`); `flush_pendingOf` says what saving that element appends.
-/

set_option autoImplicit false

namespace RagService.Parsing

open PyText

namespace PDFParser

/-! ## A page read as groups of lines -/

/-- A line that opens a header. -/
def isHeaderLine (line : Str) : Bool := ['#'].isPrefixOf line

/-- Two neighbouring lines of one text element: neither opens a header. -/
def sameText (a b : Str) : Bool := !isHeaderLine a && !isHeaderLine b

/-- The stripped non-empty lines of a page. -/
def pageLines (text : Str) : List Str := ((text.splitOn '\n').map strip).filter (· ≠ [])

/-- The element of a group: a `#` line's header, unless its text normalises to nothing, or the
text of a run of lines joined by single spaces. -/
def groupElement (cc : CharClasses) (pageNum : Nat) : List Str → Option ElementData
  | [] => none
  | line :: rest =>
    if isHeaderLine line then
      let text := normalizeText cc (lstripChar '#' line)
      if text = [] then none
      else some ⟨none, headerType (line.takeWhile (· == '#')).length, text, some pageNum, none⟩
    else
      some ⟨none, "text".toList, normalizeText cc ([' '].intercalate (line :: rest)), some pageNum, none⟩

/-- The elements of one page, in order. -/
def pageElements (cc : CharClasses) (pageNum : Nat) (text : Str) : List ElementData :=
  ((pageLines text).splitBy sameText).filterMap (groupElement cc pageNum)

/-- The elements of all pages, numbered from 1; a falsy page gives none. -/
def pagesElements (cc : CharClasses) (pages : List (Option Str)) : List ElementData :=
  (pages.zipIdx 1).flatMap fun p =>
    match p.1 with
    | some text => pageElements cc p.2 text
    | none => []

/-! ## The loop over blank and padded lines -/

section Loop

variable (cc : CharClasses) (pageNum : Nat)

theorem lineStep_strip (st : Pending × List ElementData) (raw : Str) :
    lineStep cc pageNum st (strip raw) = lineStep cc pageNum st raw := by
  simp only [lineStep, strip_strip]

theorem lineStep_blank (st : Pending × List ElementData) {raw : Str} (h : strip raw = []) :
    lineStep cc pageNum st raw = st := by
  simp [lineStep, h]

/-- The loop over the raw lines of a page is the loop over its stripped non-empty lines. -/
theorem foldl_lineStep_pageLines (text : Str) (st : Pending × List ElementData) :
    (text.splitOn '\n').foldl (lineStep cc pageNum) st = (pageLines text).foldl (lineStep cc pageNum) st := by
  unfold pageLines
  generalize text.splitOn '\n' = raws
  induction raws generalizing st with
  | nil => rfl
  | cons raw raws ih =>
    rw [List.foldl_cons, List.map_cons, ih]
    by_cases hblank : strip raw = []
    · rw [lineStep_blank cc pageNum st hblank, List.filter_cons_of_neg (by simp [hblank])]
    · rw [List.filter_cons_of_pos (by simp [hblank]), List.foldl_cons, lineStep_strip]

end Loop

/-! ## One group of lines -/

/-- Lines as the loop sees them: stripped and non-empty. -/
def LinesOk (g : List Str) : Prop := ∀ line ∈ g, strip line = line ∧ line ≠ []

/-- A group of `splitBy sameText`: one `#` line, or a non-empty run of other lines. -/
def GroupShape (g : List Str) : Prop :=
  (∃ line, g = [line] ∧ isHeaderLine line = true) ∨ (g ≠ [] ∧ ∀ line ∈ g, isHeaderLine line = false)

/-- A run of text lines starts only after a header or at the start of the page. -/
def Opens (p : Pending) (g : List Str) : Prop :=
  (∀ line ∈ g.head?, isHeaderLine line = false) → ['h'].isPrefixOf p.type = true ∨ p = Pending.fresh

/-- The element a group leaves pending: a `#` line's header, or the run's lines joined by
spaces. -/
def pendingOf : List Str → Pending
  | [] => Pending.fresh
  | line :: rest =>
    if isHeaderLine line then
      ⟨headerType (line.length - (lstripChar '#' line).length), strip (lstripChar '#' line)⟩
    else ⟨"text".toList, [' '].intercalate (line :: rest)⟩

/-- Every line of a group of two or more lines is a text line. -/
theorem plain_of_isChain : ∀ (a b : Str) (rest : List Str),
    (a :: b :: rest).IsChain (fun x y => sameText x y = true) →
      ∀ x ∈ a :: b :: rest, isHeaderLine x = false
  | a, b, [], hchain, x, hx => by
    have hab := (List.isChain_cons_cons.1 hchain).1
    simp only [sameText, Bool.and_eq_true, Bool.not_eq_true'] at hab
    simp only [List.mem_cons, List.not_mem_nil, or_false] at hx
    rcases hx with rfl | rfl
    · exact hab.1
    · exact hab.2
  | a, b, c :: rest, hchain, x, hx => by
    have hab := (List.isChain_cons_cons.1 hchain).1
    simp only [sameText, Bool.and_eq_true, Bool.not_eq_true'] at hab
    rcases List.mem_cons.1 hx with rfl | hx
    · exact hab.1
    · exact plain_of_isChain b c rest (List.isChain_cons_cons.1 hchain).2 x hx

theorem groupShape_of_isChain {g : List Str} (hne : g ≠ [])
    (hchain : g.IsChain fun x y => sameText x y = true) : GroupShape g := by
  match g, hchain with
  | [line], _ =>
    cases hh : isHeaderLine line with
    | true => exact Or.inl ⟨line, rfl, hh⟩
    | false => exact Or.inr ⟨hne, by simpa using hh⟩
  | a :: b :: rest, hchain => exact Or.inr ⟨hne, plain_of_isChain a b rest hchain⟩

/-- Stripped non-empty lines joined by spaces are stripped already. -/
theorem trimmed_join {line : Str} {rest : List Str} (hok : LinesOk (line :: rest)) :
    Trimmed ([' '].intercalate (line :: rest)) := by
  have htrim : ∀ l ∈ line :: rest, Trimmed l := fun l hl => (hok l hl).1 ▸ trimmed_strip l
  apply Trimmed.of_ends
  · intro c hc
    rw [head?_intercalate _ _ _ (hok line List.mem_cons_self).2] at hc
    exact (htrim line List.mem_cons_self).head hc
  · intro c hc
    -- the joined text ends where the last line ends
    obtain ⟨init, last, hsplit⟩ : ∃ init last, line :: rest = init ++ [last] :=
      ⟨_, _, (List.dropLast_append_getLast (List.cons_ne_nil line rest)).symm⟩
    have hlast : last ∈ line :: rest := by
      rw [hsplit]
      exact List.mem_append_right _ List.mem_cons_self
    rw [hsplit, getLast?_intercalate _ _ (hok last hlast).2] at hc
    exact (htrim last hlast).last hc

variable (cc : CharClasses) (pageNum : Nat)

theorem lineStep_header {line : Str} (hok : strip line = line ∧ line ≠ [])
    (hh : isHeaderLine line = true) (p : Pending) (out : List ElementData) :
    lineStep cc pageNum (p, out) line = (pendingOf [line], flush cc pageNum p out) := by
  have hh' : ['#'].isPrefixOf line = true := hh
  simp [lineStep, pendingOf, hok.1, hok.2, hh', hh]

theorem lineStep_open {line : Str} (hok : strip line = line ∧ line ≠ [])
    (hh : isHeaderLine line = false) {p : Pending} (hp : ['h'].isPrefixOf p.type = true ∨ p = Pending.fresh)
    (out : List ElementData) :
    lineStep cc pageNum (p, out) line = (⟨"text".toList, line⟩, flush cc pageNum p out) := by
  have hh' : ['#'].isPrefixOf line = false := hh
  rcases hp with hp | rfl
  · simp [lineStep, hok.1, hok.2, hh', hp]
  · -- the start of the page: nothing pending, so nothing to save
    simp [lineStep, flush, hok.1, hok.2, hh', Pending.fresh]

theorem lineStep_extend {line : Str} (hok : strip line = line ∧ line ≠ [])
    (hh : isHeaderLine line = false) {t : Str} (ht : t ≠ []) (out : List ElementData) :
    lineStep cc pageNum (⟨"text".toList, t⟩, out) line = (⟨"text".toList, t ++ ' ' :: line⟩, out) := by
  have hh' : ['#'].isPrefixOf line = false := hh
  simp [lineStep, hok.1, hok.2, hh', ht]

/-- Joining with single spaces, written as the loop builds it. -/
theorem intercalate_space (line : Str) : ∀ rest : List Str,
    [' '].intercalate (line :: rest) = line ++ rest.flatMap (' ' :: ·)
  | [] => by simp
  | next :: rest => by
    rw [List.intercalate_cons_cons, intercalate_space next rest]
    simp

/-- The later lines of a run extend the pending text. -/
theorem foldl_extend (out : List ElementData) :
    ∀ (rest : List Str) (t : Str), t ≠ [] → LinesOk rest → (∀ line ∈ rest, isHeaderLine line = false) →
      rest.foldl (lineStep cc pageNum) (⟨"text".toList, t⟩, out) =
        (⟨"text".toList, t ++ rest.flatMap (' ' :: ·)⟩, out)
  | [], t, _, _, _ => by simp
  | line :: rest, t, ht, hok, hplain => by
    rw [List.foldl_cons, lineStep_extend cc pageNum (hok line List.mem_cons_self)
      (hplain line List.mem_cons_self) ht,
      foldl_extend out rest (t ++ ' ' :: line) (by simp)
        (fun l hl => hok l (List.mem_cons_of_mem _ hl)) (fun l hl => hplain l (List.mem_cons_of_mem _ hl))]
    simp

/-- The loop over one group saves what was pending and leaves the group's element pending. -/
theorem foldl_group {g : List Str} (hshape : GroupShape g) (hok : LinesOk g) {p : Pending}
    (hopen : Opens p g) (out : List ElementData) :
    g.foldl (lineStep cc pageNum) (p, out) = (pendingOf g, flush cc pageNum p out) := by
  rcases hshape with ⟨line, rfl, hh⟩ | ⟨hne, hplain⟩
  · exact lineStep_header cc pageNum (hok line List.mem_cons_self) hh p out
  · obtain ⟨line, rest, rfl⟩ := List.exists_cons_of_ne_nil hne
    have hh := hplain line List.mem_cons_self
    have hline := hok line List.mem_cons_self
    rw [List.foldl_cons, lineStep_open cc pageNum hline hh (hopen fun l hl => by
      simp only [List.head?_cons, Option.mem_def, Option.some.injEq] at hl
      exact hl ▸ hh) out,
      foldl_extend cc pageNum _ rest line hline.2 (fun l hl => hok l (List.mem_cons_of_mem _ hl))
        (fun l hl => hplain l (List.mem_cons_of_mem _ hl))]
    simp [pendingOf, hh, intercalate_space]

/-- The number of leading `#`s, as the loop counts it. -/
theorem length_sub_lstripChar (line : Str) :
    line.length - (lstripChar '#' line).length = (line.takeWhile (· == '#')).length := by
  have h := congrArg List.length (@List.takeWhile_append_dropWhile _ (· == '#') line)
  rw [List.length_append] at h
  unfold lstripChar
  omega

/-- After a group, the next group may start: a run only follows a header, which is a group of
its own. -/
theorem opens_pendingOf {a b : List Str} (ha : GroupShape a)
    (hab : ∃ (ha : a ≠ []) (hb : b ≠ []), sameText (a.getLast ha) (b.head hb) = false) :
    Opens (pendingOf a) b := by
  intro hplain
  obtain ⟨hane, hbne, hjunction⟩ := hab
  have hbhead : isHeaderLine (b.head hbne) = false :=
    hplain _ (by rw [List.head?_eq_some_head hbne]; rfl)
  rcases ha with ⟨line, rfl, hh⟩ | ⟨-, hplain_a⟩
  · left
    simp [pendingOf, hh, headerType]
  · -- two text lines meet across the junction, which `splitBy` does not allow
    have halast := hplain_a _ (List.getLast_mem hane)
    simp [sameText, halast, hbhead] at hjunction

section Flush

variable (hspace : cc.isWord ' ' = false)
include hspace

/-- Saving a group's pending element appends the group's element. -/
theorem flush_pendingOf {g : List Str} (hshape : GroupShape g) (hok : LinesOk g)
    (out : List ElementData) :
    flush cc pageNum (pendingOf g) out = out ++ (groupElement cc pageNum g).toList := by
  rcases hshape with ⟨line, rfl, hh⟩ | ⟨hne, hplain⟩
  · -- a header is saved when its text is not blank, which is when it normalises to something
    have hnil := normalizeText_eq_nil_iff hspace (lstripChar '#' line)
    simp only [pendingOf, hh, if_true, flush, groupElement, length_sub_lstripChar,
      PDFParser.normalizeText, strip_strip, normalizeText_strip hspace]
    by_cases hblank : strip (lstripChar '#' line) = []
    · simp [hblank, hnil.2 hblank]
    · have hne : Parsing.normalizeText cc (lstripChar '#' line) ≠ [] := fun h => hblank (hnil.1 h)
      simp [hblank, hne]
  · -- a run is never empty, and its joined text is already stripped
    obtain ⟨line, rest, rfl⟩ := List.exists_cons_of_ne_nil hne
    have hh := hplain line List.mem_cons_self
    have hline := hok line List.mem_cons_self
    have hjoin : [' '].intercalate (line :: rest) ≠ [] := by
      rw [intercalate_space]
      exact List.append_ne_nil_of_left_ne_nil hline.2 _
    have hstrip : strip ([' '].intercalate (line :: rest)) = [' '].intercalate (line :: rest) :=
      strip_of_trimmed (trimmed_join hok)
    simp [pendingOf, flush, groupElement, hh, hjoin, hstrip]

/-- The loop over the groups of a page, from a pending element the first group may follow,
saves that element and then the element of every group. -/
theorem foldl_groups : ∀ (G : List (List Str)) (p : Pending) (out : List ElementData),
    (∀ g ∈ G, GroupShape g ∧ LinesOk g) →
    G.IsChain (fun a b => ∃ (ha : a ≠ []) (hb : b ≠ []), sameText (a.getLast ha) (b.head hb) = false) →
    (∀ g ∈ G.head?, Opens p g) →
    flush cc pageNum (G.foldl (fun st g => g.foldl (lineStep cc pageNum) st) (p, out)).1
        (G.foldl (fun st g => g.foldl (lineStep cc pageNum) st) (p, out)).2 =
      flush cc pageNum p out ++ G.filterMap (groupElement cc pageNum)
  | [], p, out, _, _, _ => by simp
  | g :: G, p, out, hG, hchain, hopen => by
    obtain ⟨hshape, hok⟩ := hG g List.mem_cons_self
    -- the group after this one may start where this one leaves off
    have hnext : ∀ g' ∈ G.head?, Opens (pendingOf g) g' := by
      intro g' hg'
      cases G with
      | nil => cases hg'
      | cons g₂ G =>
        obtain rfl : g₂ = g' := by simpa using hg'
        exact opens_pendingOf hshape (List.isChain_cons_cons.1 hchain).1
    rw [List.foldl_cons, foldl_group cc pageNum hshape hok (hopen g rfl) out,
      foldl_groups G (pendingOf g) (flush cc pageNum p out)
        (fun g' hg' => hG g' (List.mem_cons_of_mem _ hg')) hchain.tail hnext,
      flush_pendingOf cc pageNum hspace hshape hok, List.filterMap_cons]
    cases groupElement cc pageNum g <;> simp

/-- One page: the loop appends the page's elements. -/
theorem parsePage_eq (text : Str) (out : List ElementData) :
    parsePage cc pageNum text out = out ++ pageElements cc pageNum text := by
  -- the groups of the page's lines, with the shapes `splitBy` gives them
  have hgroups : ∀ g ∈ (pageLines text).splitBy sameText, GroupShape g ∧ LinesOk g := by
    intro g hg
    refine ⟨groupShape_of_isChain (List.ne_nil_of_mem_splitBy hg) (List.isChain_of_mem_splitBy hg), ?_⟩
    intro line hline
    have hmem : line ∈ pageLines text := by
      rw [← List.flatten_splitBy sameText (pageLines text)]
      exact List.mem_flatten.2 ⟨g, hg, hline⟩
    obtain ⟨hraw, hne⟩ := List.mem_filter.1 hmem
    obtain ⟨raw, -, rfl⟩ := List.mem_map.1 hraw
    exact ⟨strip_strip raw, by simpa using hne⟩
  have hrun := foldl_groups cc pageNum hspace _ Pending.fresh out hgroups
    (List.isChain_getLast_head_splitBy _ _) fun _ _ _ => Or.inr rfl
  rw [← List.foldl_flatten, List.flatten_splitBy] at hrun
  have hfresh : flush cc pageNum Pending.fresh out = out := by simp [flush, Pending.fresh]
  unfold parsePage pageElements
  rw [foldl_lineStep_pageLines, hrun, hfresh]

end Flush

/-- Page after page: the pages' elements in order, each page numbered by its place. -/
theorem parsePages_eq (cc : CharClasses) (hspace : cc.isWord ' ' = false) :
    ∀ (pages : List (Option Str)) (n : Nat) (out : List ElementData),
      parsePages cc n pages out = out ++ (pages.zipIdx n).flatMap fun p =>
        match p.1 with
        | some text => pageElements cc p.2 text
        | none => []
  | [], n, out => by simp [parsePages]
  | none :: pages, n, out => by
    rw [parsePages, parsePages_eq cc hspace pages (n + 1) out, List.zipIdx_cons, List.flatMap_cons]
    simp
  | some text :: pages, n, out => by
    rw [parsePages, parsePages_eq cc hspace pages (n + 1), parsePage_eq cc n hspace, List.zipIdx_cons,
      List.flatMap_cons]
    simp

theorem parseToElements_pages (cc : CharClasses) (hspace : cc.isWord ' ' = false)
    (pages : List (Option Str)) :
    parseToElements cc (.ok pages) = .ok (pagesElements cc pages) := by
  show Except.ok (parsePages cc 1 pages []) = Except.ok (pagesElements cc pages)
  rw [parsePages_eq cc hspace, List.nil_append]
  rfl

theorem parseToElements_pages_ascii :
    asciiClasses.isWord ' ' = false ∧
      parseToElements asciiClasses (.ok [some "## Intro\nbody".toList, none]) =
        .ok (pagesElements asciiClasses [some "## Intro\nbody".toList, none]) :=
  ⟨by decide, parseToElements_pages asciiClasses (by decide) _⟩

end PDFParser

end RagService.Parsing
