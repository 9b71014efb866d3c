import RagService.Parsing.Elements

/-!
# The text normaliser and the whitespace around its input

`_normalize_text` collapses each whitespace run to one space, joins words hyphenated across a
space and strips. Whitespace at either end of its input only becomes one space at that end,
which the final strip removes. So stripping the input first changes nothing
(`normalizeText_strip`), and the output is empty exactly when the input is blank
(`normalizeText_eq_nil_iff`).

Both results rest on one fact of the Unicode database: the space is not a word character of
`\w`. A space at an end therefore never joins a match of `(\w+)-\s+(\w+)`.
-/

set_option autoImplicit false

namespace RagService.Parsing

open PyText

variable {cc : CharClasses}

/-! ## Stripping -/

/-- A stripped text has no whitespace at either end. -/
theorem trimmed_strip (s : Str) : Trimmed (strip s) := by
  apply Trimmed.of_ends
  · intro c hc
    -- the head survives from the text without its leading run
    have hne : s.dropWhile isSpace ≠ [] := by
      intro h
      simp [strip, h] at hc
    obtain ⟨t, ht⟩ := (List.rdropWhile_prefix isSpace (s.dropWhile isSpace))
    have hs : (s.dropWhile isSpace).rdropWhile isSpace ≠ [] := fun h => by simp [strip, h] at hc
    have hhead : (strip s).head? = (s.dropWhile isSpace).head? := by
      conv_rhs => rw [← ht]
      rw [List.head?_append_of_ne_nil _ hs]
      rfl
    rw [hhead, List.head?_eq_some_head hne, Option.some.injEq] at hc
    rw [← hc]
    exact List.head_dropWhile_not isSpace hne
  · intro c hc
    have hne : strip s ≠ [] := fun h => by simp [h] at hc
    rw [List.getLast?_eq_some_getLast hne, Option.some.injEq] at hc
    rw [← hc]
    exact Bool.eq_false_iff.2 (List.rdropWhile_last_not isSpace _ hne)

@[simp] theorem strip_strip (s : Str) : strip (strip s) = strip s :=
  strip_of_trimmed (trimmed_strip s)

theorem strip_space_cons {c : Char} (hc : isSpace c = true) (s : Str) : strip (c :: s) = strip s := by
  rw [strip, strip, List.dropWhile_cons_of_pos hc]

theorem strip_concat_space {c : Char} (hc : isSpace c = true) (s : Str) :
    strip (s ++ [c]) = strip s := by
  rw [strip, strip, List.dropWhile_append]
  split
  · -- the text is blank, and so is the text with the space
    rename_i hblank
    rw [List.isEmpty_iff.1 hblank, List.dropWhile_cons_of_pos hc, List.dropWhile_nil]
  · rw [List.rdropWhile_concat_pos isSpace _ _ hc]

/-! ## Collapsing whitespace runs -/

/-- After a character that is not whitespace, the scan is outside a run. -/
theorem collapseSpaceAux_of_head {y : Str} (hy : ∀ d ∈ y.head?, isSpace d = false) (inRun : Bool) :
    collapseSpaceAux inRun y = collapseSpaceAux false y := by
  cases y with
  | nil => cases inRun <;> rfl
  | cons d y =>
    have hd := hy d rfl
    simp [collapseSpaceAux, hd]

/-- A whitespace character at the end adds one space, unless it continues a run. -/
theorem collapseSpaceAux_concat_space {c : Char} (hc : isSpace c = true) :
    ∀ (inRun : Bool) (y : Str), collapseSpaceAux inRun (y ++ [c]) =
      collapseSpaceAux inRun y ++ if (y.getLast?.map isSpace).getD inRun then [] else [' ']
  | inRun, [] => by cases inRun <;> simp [collapseSpaceAux, hc]
  | inRun, d :: y => by
    have ih := collapseSpaceAux_concat_space hc (isSpace d) y
    -- whether the text ends in a run is read from its last character, or from `d`
    have hlast : ((d :: y).getLast?.map isSpace).getD inRun = (y.getLast?.map isSpace).getD (isSpace d) := by
      rw [List.getLast?_cons]
      cases y.getLast? <;> rfl
    rw [hlast]
    cases hd : isSpace d with
    | true =>
      rw [hd] at ih
      cases inRun <;> simp [collapseSpaceAux, hd, ih]
    | false =>
      rw [hd] at ih
      simp [collapseSpaceAux, hd, ih]

/-! ## Joining hyphenated words -/

/-- The prefix a predicate keeps is the same with a space after the text, when the space does
not satisfy it. -/
theorem takeWhile_concat_space {p : Char → Bool} (hp : p ' ' = false) (x : Str) :
    (x ++ [' ']).takeWhile p = x.takeWhile p := by
  rw [List.takeWhile_append]
  split
  · rename_i hall
    have hself : x.takeWhile p = x :=
      List.IsPrefix.eq_of_length (List.takeWhile_prefix p) hall
    rw [hself, List.takeWhile_cons_of_neg (by simp [hp]), List.append_nil]
  · rfl

/-- The prefix a predicate keeps is shorter than the text unless the predicate holds throughout. -/
theorem length_takeWhile_lt {p : Char → Bool} {l : Str} (h : ¬∀ x ∈ l, p x = true) :
    (l.takeWhile p).length < l.length := by
  refine lt_of_le_of_ne (List.takeWhile_prefix p).length_le fun heq => h ?_
  exact List.takeWhile_eq_self_iff.1 ((List.takeWhile_prefix p).eq_of_length heq)

theorem drop_takeWhile_concat (p : Char → Bool) (x : Str) :
    (x ++ [' ']).drop (x.takeWhile p).length = x.drop (x.takeWhile p).length ++ [' '] :=
  List.drop_append_of_le_length (List.takeWhile_prefix p).length_le

/-- A match of the hyphen pattern: a non-empty first word at the front, and a rest shorter than
the text. -/
theorem hyphenMatch_spec {u w1 w2 rest : Str} (h : hyphenMatch cc u = some (w1, w2, rest)) :
    w1 ≠ [] ∧ w1 <+: u ∧ rest.length < u.length := by
  dsimp only [hyphenMatch] at h
  split at h
  · rename_i r hr
    split at h
    · rename_i hcond
      simp only [Option.some.injEq, Prod.mk.injEq] at h
      obtain ⟨rfl, rfl, rfl⟩ := h
      refine ⟨hcond.1, List.takeWhile_prefix _, ?_⟩
      -- the rest lies after the `-` that follows the first word
      have hlen : r.length + 1 ≤ u.length := by
        have := congrArg List.length hr
        simp only [List.length_drop, List.length_cons] at this
        omega
      simp only [List.length_drop]
      omega
    · cases h
  · cases h

/-- A space after the text changes no match of the hyphen pattern but the rest after it. -/
theorem hyphenMatch_concat_space (hspace : cc.isWord ' ' = false) (u : Str) :
    hyphenMatch cc (u ++ [' ']) = (hyphenMatch cc u).map fun m => (m.1, m.2.1, m.2.2 ++ [' ']) := by
  dsimp only [hyphenMatch]
  rw [takeWhile_concat_space hspace, drop_takeWhile_concat]
  cases hv : u.drop (u.takeWhile cc.isWord).length with
  | nil => rfl
  | cons d r =>
    by_cases hd : d = '-'
    · subst hd
      simp only [List.cons_append]
      by_cases hall : ∀ x ∈ r, isSpace x = true
      · -- only whitespace after the `-`: no second word, with or without the space
        have hsp : r.takeWhile isSpace = r := List.takeWhile_eq_self_iff.2 hall
        have hsp' : (r ++ [' ']).takeWhile isSpace = r ++ [' '] :=
          List.takeWhile_eq_self_iff.2
            (List.forall_mem_append.2 ⟨hall, fun x hx => by rw [List.mem_singleton.1 hx]; rfl⟩)
        simp [hsp, hsp']
      · -- the run of whitespace ends inside the text
        have hshort := length_takeWhile_lt hall
        have hsp : (r ++ [' ']).takeWhile isSpace = r.takeWhile isSpace := by
          rw [List.takeWhile_append, if_neg (Nat.ne_of_lt hshort)]
        rw [hsp, List.drop_append_of_le_length (Nat.le_of_lt hshort), takeWhile_concat_space hspace,
          drop_takeWhile_concat]
        split <;> simp_all
    · cases r <;> simp [hd]

/-- A space in front is copied as it is. -/
theorem dehyphenate_space_cons (hspace : cc.isWord ' ' = false) (n : Nat) (t : Str) :
    dehyphenate cc (n + 1) (' ' :: t) = ' ' :: dehyphenate cc n t := by
  have hnone : hyphenMatch cc (' ' :: t) = none := by
    simp [hyphenMatch, hspace]
  simp only [dehyphenate, hnone]

theorem dehyphenate_nil (n : Nat) : dehyphenate cc n [] = [] := by
  cases n <;> rfl

/-- A space at the end is copied after the rest, whatever fuel covers the text. -/
theorem dehyphenate_concat_space (hspace : cc.isWord ' ' = false) (t : Str) (f₁ f₂ : Nat)
    (h₁ : t.length ≤ f₁) (h₂ : t.length + 1 ≤ f₂) :
    dehyphenate cc f₂ (t ++ [' ']) = dehyphenate cc f₁ t ++ [' '] := by
  obtain ⟨g₂, rfl⟩ : ∃ g, f₂ = g + 1 := ⟨f₂ - 1, by omega⟩
  cases t with
  | nil =>
    rw [List.nil_append, dehyphenate_space_cons hspace, dehyphenate_nil, dehyphenate_nil,
      List.nil_append]
  | cons c s =>
    obtain ⟨g₁, rfl⟩ : ∃ g, f₁ = g + 1 := ⟨f₁ - 1, by simp only [List.length_cons] at h₁; omega⟩
    simp only [List.length_cons] at h₁ h₂
    have hmatch := hyphenMatch_concat_space hspace (c :: s)
    rw [List.cons_append] at hmatch ⊢
    simp only [dehyphenate, hmatch]
    cases hm : hyphenMatch cc (c :: s) with
    | none =>
      simp only [Option.map_none]
      rw [dehyphenate_concat_space hspace s g₁ g₂ (by omega) (by omega), List.cons_append]
    | some m =>
      obtain ⟨w1, w2, rest⟩ := m
      have hrest := (hyphenMatch_spec hm).2.2
      simp only [List.length_cons] at hrest
      simp only [Option.map_some]
      rw [dehyphenate_concat_space hspace rest g₁ g₂ (by omega) (by omega)]
      simp only [List.append_assoc]
termination_by t.length

/-- A text that starts with a character keeps it in front. -/
theorem dehyphenate_cons_head (n : Nat) (c : Char) (t : Str) :
    ∃ z, dehyphenate cc (n + 1) (c :: t) = c :: z := by
  unfold dehyphenate
  split
  · rename_i w1 w2 rest hm
    -- the first word is a non-empty prefix of the text, so it starts with `c`
    obtain ⟨hne, hpre, -⟩ := hyphenMatch_spec hm
    obtain ⟨d, w, rfl⟩ := List.exists_cons_of_ne_nil hne
    obtain ⟨rfl, -⟩ := List.cons_prefix_cons.1 hpre
    exact ⟨_, rfl⟩
  · exact ⟨_, rfl⟩

/-! ## The normaliser -/

section Normalize

variable (hspace : cc.isWord ' ' = false)
include hspace

theorem normalizeText_space_cons {c : Char} (hc : isSpace c = true) (y : Str) :
    normalizeText cc (c :: y) = normalizeText cc y := by
  by_cases hy : ∀ d ∈ y.head?, isSpace d = false
  · -- the space opens a run of its own, which becomes one space in front
    have hcollapse : collapseSpace (c :: y) = ' ' :: collapseSpace y := by
      simp only [collapseSpace, collapseSpaceAux, hc, if_true, Bool.false_eq_true, if_false,
        collapseSpaceAux_of_head hy]
    simp only [normalizeText, hcollapse, List.map_cons, ite_self, List.length_cons,
      dehyphenate_space_cons hspace, strip_space_cons (show isSpace ' ' = true by decide)]
  · -- the space joins the run that starts the text
    obtain ⟨d, y', rfl⟩ : ∃ d y', y = d :: y' := by
      cases y with
      | nil => simp at hy
      | cons d y' => exact ⟨d, y', rfl⟩
    have hd : isSpace d = true := by simpa using hy
    have hcollapse : collapseSpace (c :: d :: y') = collapseSpace (d :: y') := by
      simp [collapseSpace, collapseSpaceAux, hc, hd]
    simp only [normalizeText, hcollapse]

theorem normalizeText_concat_space {c : Char} (hc : isSpace c = true) (y : Str) :
    normalizeText cc (y ++ [c]) = normalizeText cc y := by
  have hcollapse := collapseSpaceAux_concat_space hc false y
  unfold normalizeText
  simp only [collapseSpace] at hcollapse ⊢
  rw [hcollapse]
  split
  · simp only [List.append_nil]
  · -- the space becomes one space at the end, which the strip removes
    rw [List.map_append, List.map_singleton, ite_self, List.length_append,
      List.length_singleton, dehyphenate_concat_space hspace _ _ _ le_rfl le_rfl,
      strip_concat_space (show isSpace ' ' = true by decide)]

theorem normalizeText_dropWhile (y : Str) : normalizeText cc (y.dropWhile isSpace) = normalizeText cc y := by
  induction y with
  | nil => rfl
  | cons c y ih =>
    cases hc : isSpace c with
    | true => rw [List.dropWhile_cons_of_pos hc, ih, normalizeText_space_cons hspace hc]
    | false => rw [List.dropWhile_cons_of_neg (by simp [hc])]

theorem normalizeText_rdropWhile (y : Str) :
    normalizeText cc (y.rdropWhile isSpace) = normalizeText cc y := by
  induction y using List.reverseRecOn with
  | nil => rfl
  | append_singleton y c ih =>
    rw [List.rdropWhile_concat]
    split
    · rename_i hc
      rw [ih, normalizeText_concat_space hspace hc]
    · rfl

/-- Stripping the text first changes nothing. -/
theorem normalizeText_strip (y : Str) : normalizeText cc (strip y) = normalizeText cc y := by
  rw [strip, normalizeText_rdropWhile hspace, normalizeText_dropWhile hspace]

/-- The normalised text is empty exactly when the text is blank. -/
theorem normalizeText_eq_nil_iff (y : Str) : normalizeText cc y = [] ↔ strip y = [] := by
  constructor
  · intro h
    by_contra hne
    -- the stripped text starts with a character that every stage keeps in front
    obtain ⟨c, z, hcz⟩ := List.exists_cons_of_ne_nil hne
    have hc : isSpace c = false := (trimmed_strip y).head (by rw [hcz]; rfl)
    have hbreak : (if c = '\n' ∨ c = '\r' then ' ' else c) = c := by
      rw [if_neg]
      rintro (rfl | rfl) <;> simp [isSpace] at hc
    rw [← normalizeText_strip hspace, hcz] at h
    simp only [normalizeText, collapseSpace, collapseSpaceAux, hc, Bool.false_eq_true, if_false,
      List.map_cons, hbreak, List.length_cons] at h
    obtain ⟨w, hw⟩ := @dehyphenate_cons_head cc _ c
      ((collapseSpaceAux false z).map fun c => if c = '\n' ∨ c = '\r' then ' ' else c)
    rw [hw] at h
    obtain ⟨rest, hrest⟩ := strip_cons w hc
    rw [hrest] at h
    cases h
  · intro h
    rw [← normalizeText_strip hspace, h]
    rfl

end Normalize

end RagService.Parsing
