import RagService.Chunking.Pipeline
import RagService.Lib.Runs

/-!
# Headings and sections

`MarkdownHeaderSplitter.split_by_headers` recognises a header by the first character of the
element type (`h`) and reads its level from the second. This module states what the splitter
is for, `SectionsOf`: the sections cut the element list into consecutive non-empty runs, a new
run starts at every header element, and a run that starts at a header carries the header's
text as the last entry of its path. It proves that the splitter computes such sections
whenever every header it meets has a level of at least one (`splitByHeaders_sectionsOf`).

The breadcrumb of a section is computed from the one before it: a header of level `L` keeps
the first `L - 1` entries of the previous path and appends its text (`splitByHeaders_paths`).
`splitByHeaders_spec` puts the two together. The path's length stands for the nesting depth,
so a document whose levels skip one nests sibling headers under each other
(`sibling_headers_nest`). `OfficeParser` types a heading `title`, which does not start with
`h`, so the splitter opens no section at it (`office_heading_starts_no_section`).

Last, the element a chunk points at is one `build_chunks` was given, a table for a table
chunk and another element for a section chunk (`element_of_mem_buildChunks`); the store's chunk
references rest on it.
-/

set_option autoImplicit false

namespace RagService.Chunking

open PyText Batches RagService.Parsing Runs

/-- Past the first entry of `xs ++ [a]` lie the entries of `xs` past its first, and `a` unless
`a` is the first. -/
theorem mem_tail_concat_iff {α : Type} {xs : List α} {a b : α} :
    b ∈ (xs ++ [a]).tail ↔ b ∈ xs.tail ∨ (xs ≠ [] ∧ b = a) := by
  cases xs with
  | nil => simp
  | cons x xs => simp

namespace MarkdownHeaderSplitter

/-- `element["type"].startswith("h")`. -/
def isHeader (e : ElementData) : Bool := ['h'].isPrefixOf e.type

/-- What the splitter is for: `sections` cut `elements` into consecutive non-empty runs that
each start a new run at a header element; a run that starts at a header has the header's text
as the last entry of its path. -/
structure SectionsOf (elements : List ElementData) (sections : List Section) : Prop where
  flatten_eq : (sections.map (·.elements)).flatten = elements
  ne_nil : ∀ s ∈ sections, s.elements ≠ []
  tail_plain : ∀ s ∈ sections, ∀ e ∈ s.elements.tail, isHeader e = false
  path_last : ∀ s ∈ sections, ∀ h ∈ s.elements.head?, isHeader h = true →
    s.header_path.getLast? = some h.text

namespace SectionsOf

theorem nil : SectionsOf [] [] := ⟨rfl, by simp, by simp, by simp⟩

/-- A new run after the others. -/
theorem snoc {pre : List ElementData} {secs : List Section} (h : SectionsOf pre secs)
    (s : Section) (hne : s.elements ≠ [])
    (htail : ∀ e ∈ s.elements.tail, isHeader e = false)
    (hlast : ∀ x ∈ s.elements.head?, isHeader x = true → s.header_path.getLast? = some x.text) :
    SectionsOf (pre ++ s.elements) (secs ++ [s]) := by
  refine ⟨by simp [h.flatten_eq], ?_, ?_, ?_⟩
  · simp only [List.mem_append, List.mem_singleton]
    rintro t (ht | rfl)
    · exact h.ne_nil t ht
    · exact hne
  · simp only [List.mem_append, List.mem_singleton]
    rintro t (ht | rfl)
    · exact h.tail_plain t ht
    · exact htail
  · simp only [List.mem_append, List.mem_singleton]
    rintro t (ht | rfl)
    · exact h.path_last t ht
    · exact hlast

/-- The last run grows by a non-header element; its first element and its path stay. -/
theorem extend_last {pre cur : List ElementData} {secs : List Section} {path : List Str}
    {e : ElementData} (h : SectionsOf pre (secs ++ [⟨cur, path⟩])) (he : isHeader e = false) :
    SectionsOf (pre ++ [e]) (secs ++ [⟨cur ++ [e], path⟩]) := by
  have hcur : cur ≠ [] := h.ne_nil ⟨cur, path⟩ (by simp)
  refine ⟨?_, ?_, ?_, ?_⟩
  · rw [← h.flatten_eq]
    simp
  · simp only [List.mem_append, List.mem_singleton]
    rintro t (ht | rfl)
    · exact h.ne_nil t (by simp [ht])
    · simp
  · simp only [List.mem_append, List.mem_singleton]
    rintro t (ht | rfl)
    · exact h.tail_plain t (by simp [ht])
    · -- the old tail, then the new element
      intro x hx
      rcases mem_tail_concat_iff.1 hx with hx | ⟨-, rfl⟩
      · exact h.tail_plain ⟨cur, path⟩ (by simp) x hx
      · exact he
  · simp only [List.mem_append, List.mem_singleton]
    rintro t (ht | rfl)
    · exact h.path_last t (by simp [ht])
    · rw [List.head?_append_of_ne_nil _ hcur]
      exact h.path_last ⟨cur, path⟩ (by simp)

end SectionsOf

/-! ## The loop -/

theorem saveCurrent_of_nil {st : SplitState} (h : st.current = []) :
    saveCurrent st = st.sections := if_pos h

theorem saveCurrent_of_ne_nil {st : SplitState} (h : st.current ≠ []) :
    saveCurrent st = st.sections ++ [⟨st.current, st.path⟩] := if_neg h

theorem splitStep_plain (cc : CharClasses) (st : SplitState) {e : ElementData}
    (he : isHeader e = false) :
    splitStep cc st e = .ok { st with current := st.current ++ [e] } := by
  simp only [isHeader] at he
  simp [splitStep, he]

theorem splitStep_header (cc : CharClasses) (st : SplitState) {e : ElementData} {level : Nat}
    (he : isHeader e = true) (hl : headerLevel cc e.type = .ok (level + 1)) :
    splitStep cc st e = .ok ⟨saveCurrent st, [e], st.path.take level ++ [e.text]⟩ := by
  simp only [isHeader] at he
  simp [splitStep, he, hl]

/-- A non-header element extends the section being built. -/
theorem SectionsOf.push_plain {pre : List ElementData} {st : SplitState} {e : ElementData}
    (h : SectionsOf pre (saveCurrent st)) (he : isHeader e = false) :
    SectionsOf (pre ++ [e]) (saveCurrent { st with current := st.current ++ [e] }) := by
  rw [saveCurrent_of_ne_nil (by simp)]
  by_cases hcur : st.current = []
  · -- the element opens the first section, under the empty path
    rw [saveCurrent_of_nil hcur] at h
    simpa [hcur] using h.snoc ⟨[e], st.path⟩ (by simp) (by simp) (by simp [he])
  · rw [saveCurrent_of_ne_nil hcur] at h
    exact h.extend_last he

/-- A header element saves the section being built and opens its own. -/
theorem SectionsOf.push_header {pre : List ElementData} {st : SplitState} {e : ElementData}
    (h : SectionsOf pre (saveCurrent st)) (path : List Str) :
    SectionsOf (pre ++ [e]) (saveCurrent ⟨saveCurrent st, [e], path ++ [e.text]⟩) := by
  rw [saveCurrent_of_ne_nil (by simp)]
  exact h.snoc ⟨[e], path ++ [e.text]⟩ (by simp) (by simp) (by simp)

/-- The splitter's run: when every header carries a level of at least one, the loop never
raises and its sections are the header runs of the input. -/
theorem splitByHeaders_sectionsOf (cc : CharClasses) (elements : List ElementData)
    (hlevels : ∀ e ∈ elements, isHeader e = true →
      ∃ level, headerLevel cc e.type = .ok (level + 1)) :
    ∃ sections, splitByHeaders cc elements = .ok sections ∧ SectionsOf elements sections := by
  -- the invariant: the sections saved so far, with the current one saved too
  obtain ⟨st, hst, hinv⟩ := foldlM_invariant (splitStep cc)
    (fun pre st => SectionsOf pre (saveCurrent st)) elements ⟨[], [], []⟩
    (by simpa [saveCurrent] using SectionsOf.nil) (by
      intro pre e st he hinv
      cases hh : isHeader e with
      | false => exact ⟨_, splitStep_plain cc st hh, hinv.push_plain hh⟩
      | true =>
        obtain ⟨level, hl⟩ := hlevels e he hh
        exact ⟨_, splitStep_header cc st hh hl, hinv.push_header _⟩)
  exact ⟨saveCurrent st, by simp [splitByHeaders, hst], hinv⟩

/-! ## Breadcrumbs

The loop keeps one path and, at a header of level `level + 1`, pops it down to `level`
entries before appending the header's text. So a section's path is computed from the path of
the section before it (`PathsFollow`), by its length and not by the levels of the headers on
it: a header whose level skips one is nested under its sibling
(`sibling_headers_nest`). -/

/-- The path of a section after the path `prev`: a section opened by a header of level
`level + 1` has the first `level` entries of `prev`, then the header's text; a section opened
by another element keeps `prev`. -/
def FollowsPath (cc : CharClasses) (prev : List Str) (s : Section) : Prop :=
  ∀ h ∈ s.elements.head?,
    (isHeader h = true → ∀ level, headerLevel cc h.type = .ok (level + 1) →
      s.header_path = prev.take level ++ [h.text]) ∧
    (isHeader h = false → s.header_path = prev)

/-- Each section's path follows the path of the section before it, the first section's the
path `prev`. -/
def PathsFollow (cc : CharClasses) : List Str → List Section → Prop
  | _, [] => True
  | prev, s :: rest => FollowsPath cc prev s ∧ PathsFollow cc s.header_path rest

/-- The path after a list of sections: the last one's, or `prev` when there is none. -/
def lastPath (prev : List Str) (secs : List Section) : List Str :=
  (secs.getLast?.map (·.header_path)).getD prev

theorem pathsFollow_snoc (cc : CharClasses) (s : Section) :
    ∀ (prev : List Str) (secs : List Section),
      PathsFollow cc prev (secs ++ [s]) ↔
        PathsFollow cc prev secs ∧ FollowsPath cc (lastPath prev secs) s
  | prev, [] => by simp [PathsFollow, lastPath]
  | prev, t :: secs => by
    have ih := pathsFollow_snoc cc s t.header_path secs
    have hlast : lastPath prev (t :: secs) = lastPath t.header_path secs := by
      cases secs with
      | nil => rfl
      | cons u secs =>
        -- both read the last section, which exists
        rw [lastPath, lastPath, List.getLast?_cons_cons]
        cases hu : (u :: secs).getLast? with
        | none => simp at hu
        | some x => rfl
    rw [List.cons_append, PathsFollow, PathsFollow, ih, hlast, and_assoc]

/-- What the loop keeps about paths: the sections so far, the current one saved too, follow
one another from the empty path; the loop's path is the last one; every section after the
first opens at a header; and nothing is current only before the first element. -/
structure PathInv (cc : CharClasses) (st : SplitState) : Prop where
  follow : PathsFollow cc [] (saveCurrent st)
  path_eq : st.path = lastPath [] (saveCurrent st)
  opens : ∀ s ∈ (saveCurrent st).tail, ∃ h ∈ s.elements.head?, isHeader h = true
  fresh : st.current = [] → st.sections = [] ∧ st.path = []

theorem PathInv.init (cc : CharClasses) : PathInv cc ⟨[], [], []⟩ :=
  ⟨trivial, rfl, by simp [saveCurrent], fun _ => ⟨rfl, rfl⟩⟩

/-- A non-header element keeps the paths: it opens the first section under the empty path,
or joins the current section. -/
theorem PathInv.push_plain {cc : CharClasses} {st : SplitState} (h : PathInv cc st)
    {e : ElementData} (he : isHeader e = false) :
    PathInv cc { st with current := st.current ++ [e] } := by
  by_cases hcur : st.current = []
  · -- the first element: one section `[e]` under the empty path
    obtain ⟨hsecs, hpath⟩ := h.fresh hcur
    have hsave : saveCurrent { st with current := st.current ++ [e] } = [⟨[e], []⟩] := by
      rw [saveCurrent_of_ne_nil (by simp)]
      simp [hcur, hsecs, hpath]
    refine ⟨?_, ?_, ?_, fun hne => absurd hne (by simp)⟩
    · rw [hsave]
      refine ⟨fun x hx => ?_, trivial⟩
      have hxe : x = e := by simpa using hx.symm
      rw [hxe]
      exact ⟨fun hh => absurd (he.symm.trans hh) (by decide), fun _ => rfl⟩
    · rw [hsave]
      exact hpath
    · rw [hsave]
      intro s hs
      simp at hs
  · -- the current section grows; its first element and its path stay
    have hsave : saveCurrent { st with current := st.current ++ [e] } =
        st.sections ++ [⟨st.current ++ [e], st.path⟩] := saveCurrent_of_ne_nil (by simp)
    have hold : saveCurrent st = st.sections ++ [⟨st.current, st.path⟩] := saveCurrent_of_ne_nil hcur
    have hhead : (st.current ++ [e]).head? = st.current.head? := List.head?_append_of_ne_nil _ hcur
    have hfollow := h.follow
    rw [hold, pathsFollow_snoc] at hfollow
    refine ⟨?_, ?_, ?_, fun hne => absurd hne (by simp)⟩
    · rw [hsave, pathsFollow_snoc]
      refine ⟨hfollow.1, fun x hx => ?_⟩
      rw [hhead] at hx
      exact hfollow.2 x hx
    · rw [hsave]
      simp only [lastPath, List.getLast?_concat, Option.map_some, Option.getD_some]
    · intro s hs
      have hopens := h.opens
      rw [hold] at hopens
      rw [hsave] at hs
      rcases mem_tail_concat_iff.1 hs with hs | ⟨hsecs, rfl⟩
      · exact hopens s (mem_tail_concat_iff.2 (Or.inl hs))
      · -- the grown section opens where the old one did
        obtain ⟨x, hx, hxh⟩ := hopens _ (mem_tail_concat_iff.2 (Or.inr ⟨hsecs, rfl⟩))
        exact ⟨x, by rw [hhead]; exact hx, hxh⟩

/-- A header of level `level + 1` opens a section whose path is the first `level` entries of
the loop's path, then its text. -/
theorem PathInv.push_header {cc : CharClasses} {st : SplitState} (h : PathInv cc st)
    {e : ElementData} (he : isHeader e = true) {level : Nat}
    (hl : headerLevel cc e.type = .ok (level + 1)) :
    PathInv cc ⟨saveCurrent st, [e], st.path.take level ++ [e.text]⟩ := by
  have hsave : saveCurrent ⟨saveCurrent st, [e], st.path.take level ++ [e.text]⟩ =
      saveCurrent st ++ [⟨[e], st.path.take level ++ [e.text]⟩] := saveCurrent_of_ne_nil (by simp)
  refine ⟨?_, ?_, ?_, fun hne => absurd hne (by simp)⟩
  · rw [hsave, pathsFollow_snoc, ← h.path_eq]
    refine ⟨h.follow, fun x hx => ⟨fun _ level' hl' => ?_, fun hh => ?_⟩⟩
    · -- the level read from the type is the one given
      simp only [List.head?_cons, Option.mem_def, Option.some.injEq] at hx
      rw [← hx, hl] at hl'
      have hlevel : level = level' := by
        have := Except.ok.inj hl'
        omega
      rw [← hx, hlevel]
    · simp only [List.head?_cons, Option.mem_def, Option.some.injEq] at hx
      rw [← hx, he] at hh
      cases hh
  · rw [hsave]
    simp [lastPath]
  · rw [hsave]
    intro s hs
    rcases mem_tail_concat_iff.1 hs with hs | ⟨-, rfl⟩
    · exact h.opens s hs
    · exact ⟨e, by simp, he⟩

/-- When every header carries a level of at least one, the sections' paths follow one
another from the empty path, and every section after the first opens at a header. -/
theorem splitByHeaders_paths (cc : CharClasses) (elements : List ElementData)
    (hlevels : ∀ e ∈ elements, isHeader e = true →
      ∃ level, headerLevel cc e.type = .ok (level + 1)) :
    ∃ sections, splitByHeaders cc elements = .ok sections ∧ PathsFollow cc [] sections ∧
      ∀ s ∈ sections.tail, ∃ h ∈ s.elements.head?, isHeader h = true := by
  obtain ⟨st, hst, hinv⟩ := foldlM_invariant (splitStep cc) (fun _ st => PathInv cc st)
    elements ⟨[], [], []⟩ (PathInv.init cc) (by
      intro pre e st he hinv
      cases hh : isHeader e with
      | false => exact ⟨_, splitStep_plain cc st hh, hinv.push_plain hh⟩
      | true =>
        obtain ⟨level, hl⟩ := hlevels e he hh
        exact ⟨_, splitStep_header cc st hh hl, hinv.push_header hh hl⟩)
  exact ⟨saveCurrent st, by simp [splitByHeaders, hst], hinv.follow, hinv.opens⟩

/-- What `split_by_headers` computes, for elements whose headers all carry a level of at least
one: it loses, adds and reorders no element; every section is non-empty and holds a header at
most as its first element; every section after the first opens at a header, whose text ends
its path; and each section's path is built from the path of the section before it. -/
theorem splitByHeaders_spec (cc : CharClasses) (elements : List ElementData)
    (hlevels : ∀ e ∈ elements, isHeader e = true →
      ∃ level, headerLevel cc e.type = .ok (level + 1)) :
    ∃ sections, splitByHeaders cc elements = .ok sections ∧ SectionsOf elements sections ∧
      PathsFollow cc [] sections ∧
      ∀ s ∈ sections.tail, ∃ h ∈ s.elements.head?, isHeader h = true := by
  obtain ⟨sections, hsplit, hsec⟩ := splitByHeaders_sectionsOf cc elements hlevels
  obtain ⟨sections', hsplit', hpaths, hopens⟩ := splitByHeaders_paths cc elements hlevels
  -- both describe the one result of the loop
  have hsame : sections' = sections := by
    rw [hsplit] at hsplit'
    cases hsplit'
    rfl
  subst hsame
  exact ⟨sections', hsplit, hsec, hpaths, hopens⟩

/-- The headers of the two-section document below carry level two. -/
theorem siblingLevels : ∀ e ∈ [(⟨none, "h2".toList, "A".toList, none, none⟩ : ElementData),
    ⟨none, "text".toList, "x".toList, none, none⟩, ⟨none, "h2".toList, "B".toList, none, none⟩,
    ⟨none, "text".toList, "y".toList, none, none⟩], isHeader e = true →
      ∃ level, headerLevel asciiClasses e.type = .ok (level + 1) := by
  intro e he hh
  simp only [List.mem_cons, List.not_mem_nil, or_false] at he
  rcases he with rfl | rfl | rfl | rfl
  · exact ⟨1, by decide⟩
  · exact absurd hh (by decide)
  · exact ⟨1, by decide⟩
  · exact absurd hh (by decide)

/-- Two `##` sections: the split is a partition of the document with paths built in turn. -/
theorem sibling_splitByHeaders_spec :
    (∀ e ∈ [(⟨none, "h2".toList, "A".toList, none, none⟩ : ElementData),
      ⟨none, "text".toList, "x".toList, none, none⟩, ⟨none, "h2".toList, "B".toList, none, none⟩,
      ⟨none, "text".toList, "y".toList, none, none⟩], isHeader e = true →
        ∃ level, headerLevel asciiClasses e.type = .ok (level + 1)) ∧
    ∃ sections, splitByHeaders asciiClasses [⟨none, "h2".toList, "A".toList, none, none⟩,
        ⟨none, "text".toList, "x".toList, none, none⟩, ⟨none, "h2".toList, "B".toList, none, none⟩,
        ⟨none, "text".toList, "y".toList, none, none⟩] = .ok sections ∧
      SectionsOf [⟨none, "h2".toList, "A".toList, none, none⟩,
        ⟨none, "text".toList, "x".toList, none, none⟩, ⟨none, "h2".toList, "B".toList, none, none⟩,
        ⟨none, "text".toList, "y".toList, none, none⟩] sections ∧
      PathsFollow asciiClasses [] sections ∧
      ∀ s ∈ sections.tail, ∃ h ∈ s.elements.head?, isHeader h = true :=
  ⟨siblingLevels, splitByHeaders_spec asciiClasses _ siblingLevels⟩

/-- A document that starts at `##`: the second `##` section is nested under the first, its
sibling, which the ancestor chain of a level-2 header without a level-1 header before it
would not have. -/
theorem sibling_headers_nest :
    splitByHeaders asciiClasses
        [⟨none, "h2".toList, "A".toList, none, none⟩, ⟨none, "text".toList, "x".toList, none, none⟩,
          ⟨none, "h2".toList, "B".toList, none, none⟩, ⟨none, "text".toList, "y".toList, none, none⟩] =
      .ok [⟨[⟨none, "h2".toList, "A".toList, none, none⟩, ⟨none, "text".toList, "x".toList, none, none⟩],
          ["A".toList]⟩,
        ⟨[⟨none, "h2".toList, "B".toList, none, none⟩, ⟨none, "text".toList, "y".toList, none, none⟩],
          ["A".toList, "B".toList]⟩] := by
  decide

end MarkdownHeaderSplitter

end RagService.Chunking

namespace RagService.Chunking.ChunkingPipeline

open PyText RagService.Parsing MarkdownHeaderSplitter

/-- The PDF reading of a heading and a paragraph: one section under the heading. -/
example : buildChunks asciiClasses charTokenizer
    [⟨some 1, "h1".toList, "Intro".toList, some 1, none⟩,
      ⟨some 2, "text".toList, "Body text".toList, some 1, none⟩] =
    .ok [⟨"section".toList, ["Intro".toList], "Intro Body text".toList, 15, some 1, some 1,
      none⟩] := by
  decide

/-! ## The element a chunk points at

`chunk_document` stores each chunk's `element_id`: a section chunk carries the id of its
section's first element, which is not a table, and a table chunk the id of its table. Either is
the id of an element `build_chunks` was given, and the chunk's level says which kind it is. -/

theorem processTable_element {tok : Tokenizer} {table : ElementData} {c : ChunkData}
    (hc : c ∈ processTable tok table) : c.element_id = table.id ∧ c.level = "table".toList := by
  unfold processTable at hc
  dsimp only at hc
  split at hc
  · split at hc
    · rw [List.mem_singleton.mp hc]
      exact ⟨rfl, rfl⟩
    · obtain ⟨i, -, rfl⟩ := List.mem_map.mp hc
      exact ⟨rfl, rfl⟩
  · rw [List.mem_singleton.mp hc]
    exact ⟨rfl, rfl⟩

theorem sectionChunks_element {tok : Tokenizer} {sec : Section} {c : ChunkData}
    (hc : c ∈ sectionChunks tok sec) :
    c.element_id = (sec.elements.head?).bind (·.id) ∧ c.level = "section".toList := by
  simp only [sectionChunks, List.mem_map] at hc
  obtain ⟨_, _, rfl⟩ := hc
  exact ⟨rfl, rfl⟩

/-- What the splitter's loop has seen: the saved sections and the current one hold elements of
`elements` only. -/
def HoldsInput (elements : List ElementData) (st : SplitState) : Prop :=
  (∀ s ∈ st.sections, ∀ e ∈ s.elements, e ∈ elements) ∧ ∀ e ∈ st.current, e ∈ elements

theorem HoldsInput.saveCurrent {elements : List ElementData} {st : SplitState}
    (h : HoldsInput elements st) : ∀ s ∈ MarkdownHeaderSplitter.saveCurrent st, ∀ e ∈ s.elements,
      e ∈ elements := by
  unfold MarkdownHeaderSplitter.saveCurrent
  split
  · exact h.1
  · exact List.forall_mem_append.2 ⟨h.1, List.forall_mem_singleton.2 h.2⟩

theorem HoldsInput.splitStep {cc : CharClasses} {elements : List ElementData}
    {st st' : SplitState} {e : ElementData} (h : HoldsInput elements st) (he : e ∈ elements)
    (hstep : MarkdownHeaderSplitter.splitStep cc st e = .ok st') : HoldsInput elements st' := by
  unfold MarkdownHeaderSplitter.splitStep at hstep
  split at hstep
  · -- a header saves the current section and opens one with the header alone
    split at hstep
    · cases hstep
    · cases hstep
    · cases hstep
      exact ⟨h.saveCurrent, List.forall_mem_singleton.2 he⟩
  · cases hstep
    exact ⟨h.1, List.forall_mem_append.2 ⟨h.2, List.forall_mem_singleton.2 he⟩⟩

/-- Whenever the splitter returns, its sections hold elements of its input only. -/
theorem mem_of_splitByHeaders {cc : CharClasses} {elements : List ElementData}
    {sections : List Section} (h : splitByHeaders cc elements = .ok sections) :
    ∀ s ∈ sections, ∀ e ∈ s.elements, e ∈ elements := by
  unfold splitByHeaders at h
  split at h
  · cases h
  · rename_i st hfold
    cases h
    have hinit : HoldsInput elements ⟨[], [], []⟩ := ⟨nofun, nofun⟩
    exact (Runs.foldlM_ok_invariant (HoldsInput elements)
      (fun _ _ _ he hst hstep => hst.splitStep he hstep) hinit hfold).saveCurrent

/-- Every chunk `build_chunks` returns that points at an element points at one of its input,
a table exactly when the chunk is a table chunk. -/
theorem element_of_mem_buildChunks {cc : CharClasses} {tok : Tokenizer}
    {elements : List ElementData} {chunks : List ChunkData}
    (h : buildChunks cc tok elements = .ok chunks) {c : ChunkData} (hc : c ∈ chunks) {i : Nat}
    (hi : c.element_id = some i) :
    ∃ e ∈ elements, e.id = some i ∧ (e.type = "table".toList ↔ c.level = "table".toList) := by
  -- a table chunk points at its table
  have htable : ∀ c ∈ (elements.filter (·.type = "table".toList)).flatMap (processTable tok),
      c.element_id = some i →
        ∃ e ∈ elements, e.id = some i ∧ (e.type = "table".toList ↔ c.level = "table".toList) := by
    intro c hc hi
    obtain ⟨t, ht, hct⟩ := List.mem_flatMap.mp hc
    obtain ⟨hid, hlevel⟩ := processTable_element hct
    have ht := List.mem_filter.mp ht
    exact ⟨t, ht.1, hid.symm.trans hi, by simpa [hlevel] using ht.2⟩
  unfold buildChunks at h
  dsimp only at h
  split at h
  · cases h
    exact htable c hc hi
  · split at h
    · cases h
    · rename_i sections hsplit
      cases h
      rcases List.mem_append.mp hc with hc | hc
      · -- a section chunk points at the first element of its section, which is no table
        obtain ⟨sec, hsec, hcsec⟩ := List.mem_flatMap.mp hc
        obtain ⟨hid, hlevel⟩ := sectionChunks_element hcsec
        rw [hid] at hi
        obtain ⟨first, hfirst, hfid⟩ := Option.bind_eq_some_iff.mp hi
        have hmem := List.mem_filter.mp
          (mem_of_splitByHeaders hsplit sec hsec first (List.mem_of_mem_head? hfirst))
        refine ⟨first, hmem.1, hfid, ?_⟩
        rw [hlevel]
        simpa using hmem.2
      · exact htable c hc hi

/-- A plain-text upload `# Intro`, blank line, `Body text`, read by the office parser's
plain-text path: the heading paragraph becomes a `title` element, and the one chunk built from
the two stored rows has the empty path. -/
theorem office_heading_starts_no_section :
    OfficeParser.parseToElements asciiClasses false (.error ⟨"ImportError".toList, []⟩)
        (.ok "# Intro\n\nBody text".toList) =
      .ok [⟨none, "title".toList, "# Intro".toList, some 1, none⟩,
        ⟨none, "text".toList, "Body text".toList, some 1, none⟩] ∧
    buildChunks asciiClasses charTokenizer
        [⟨some 1, "title".toList, "# Intro".toList, some 1, none⟩,
          ⟨some 2, "text".toList, "Body text".toList, some 1, none⟩] =
      .ok [⟨"section".toList, [], "# Intro Body text".toList, 17, some 1, some 1, none⟩] := by
  constructor
  · decide
  · decide

end RagService.Chunking.ChunkingPipeline
