import Mathlib.Data.List.DropRight

/-!
# Python text operations on character lists

A Python `str` is a finite sequence of code points, so a text here is a `List Char`, and each
`str` method that the modelled code calls is a list function under the method's name: `strip`,
`split` on one character (`List.splitOn`), `split` on a separator string (`splitSep`), `split`
with no argument (`splitWs`), `join` (`List.intercalate`), the slice `s[1:-1]` (`innerSlice`),
`startswith` and `endswith` (`List.isPrefixOf`, `List.isSuffixOf`), and substring search
(`List.IsInfix`).

The lemmas are the ones the renderers and splitters of the model need: a joined list of pieces
is split back into the pieces when no piece holds the separator (`List.splitOn_intercalate`), a
text with no outer whitespace is its own `strip` (`strip_of_trimmed`), and framing a text with a delimiter
on both sides is undone by `innerSlice` (`innerSlice_frame`).
-/

set_option autoImplicit false

namespace PyText

/-- A Python `str`, as the list of its code points. -/
abbrev Str := List Char

/-- `==` on texts is lawful. Named, so that every `in` test on a list of texts decides through
this one instance. -/
instance instLawfulBEqStr : LawfulBEq Str := inferInstanceAs (LawfulBEq (List Char))

/-- `c.isspace()`: the code points CPython's `Py_UNICODE_ISSPACE` accepts, namely the ASCII
controls `\t` to `\r`, the separators `\x1c` to `\x1f`, the space, and the Unicode spaces
`U+0085`, `U+00A0`, `U+1680`, `U+2000` to `U+200A`, `U+2028`, `U+2029`, `U+202F`, `U+205F`
and `U+3000`. -/
def isSpace (c : Char) : Bool :=
  let n := c.toNat
  (9 ≤ n && n ≤ 13) || (28 ≤ n && n ≤ 32) || n == 0x85 || n == 0xA0 || n == 0x1680 ||
    (0x2000 ≤ n && n ≤ 0x200A) || n == 0x2028 || n == 0x2029 || n == 0x202F ||
    n == 0x205F || n == 0x3000

/-- `s.strip()`: drop whitespace at both ends. -/
def strip (s : Str) : Str := (s.dropWhile isSpace).rdropWhile isSpace

/-- What `strip` keeps is one piece of the text. -/
theorem strip_isInfix (s : Str) : strip s <:+: s :=
  (List.rdropWhile_prefix isSpace _).isInfix.trans (List.dropWhile_suffix isSpace).isInfix

/-- A text that starts with a non-space character still starts with it once stripped. -/
theorem strip_cons {c : Char} (s : Str) (hc : isSpace c = false) :
    ∃ rest, strip (c :: s) = c :: rest := by
  have hdrop : (c :: s).dropWhile isSpace = c :: s := by simp [hc]
  have hpre : (c :: s).rdropWhile isSpace <+: c :: s := List.rdropWhile_prefix _ _
  -- the kept part is a non-empty prefix, so its head is `c`
  have hne : (c :: s).rdropWhile isSpace ≠ [] := by
    rw [Ne, List.rdropWhile_eq_nil_iff]
    intro h
    simp [h c List.mem_cons_self] at hc
  obtain ⟨d, rest, hdr⟩ := List.exists_cons_of_ne_nil hne
  rw [hdr] at hpre
  obtain ⟨t, ht⟩ := hpre
  simp only [List.cons_append, List.cons.injEq] at ht
  refine ⟨rest, ?_⟩
  unfold strip
  rw [hdrop, hdr, ht.1]

/-- `s.lstrip(c)` for a one-character argument. -/
def lstripChar (c : Char) (s : Str) : Str := s.dropWhile (· == c)

/-- `s.replace(old, new)` with a non-empty `old`: the occurrences of `old`, read from the left
without overlap. The fuel is one pass per character. -/
def replaceAux (old new : Str) : Nat → Str → Str
  | 0, s => s
  | _ + 1, [] => []
  | fuel + 1, c :: cs =>
      if old.isPrefixOf (c :: cs) then new ++ replaceAux old new fuel ((c :: cs).drop old.length)
      else c :: replaceAux old new fuel cs

/-- `s.replace(old, new)`; an empty `old` matches before every character and at the end. -/
def replace (old new s : Str) : Str :=
  if old = [] then new ++ s.flatMap (fun c => c :: new) else replaceAux old new s.length s

example : replace "s3://b/".toList [] "s3://b/documents/x.pdf".toList = "documents/x.pdf".toList := by
  decide

/-- `s[1:-1]`: the text without its first and last code point (empty when `s` is shorter
than two). -/
def innerSlice (s : Str) : Str := (s.drop 1).dropLast

/-- `sub in s`: some suffix of `s` starts with `sub`. -/
def containsSub (sub : Str) : Str → Bool
  | [] => sub.isPrefixOf []
  | c :: s => sub.isPrefixOf (c :: s) || containsSub sub s

/-- `s.split(sep)` for a separator string, scanning left to right and cutting at every
non-overlapping occurrence. The fuel is the length of the text still to scan; `splitSep`
passes enough of it. -/
def splitSepAux (sep : Str) : Nat → Str → Str → List Str
  | 0, s, acc => [acc.reverse ++ s]
  | _ + 1, [], acc => [acc.reverse]
  | fuel + 1, c :: s, acc =>
      if sep.isPrefixOf (c :: s) then acc.reverse :: splitSepAux sep fuel ((c :: s).drop sep.length) []
      else splitSepAux sep fuel s (c :: acc)

/-- `s.split(sep)` for a non-empty separator string. -/
def splitSep (sep s : Str) : List Str := splitSepAux sep (s.length + 1) s []

/-- `s.split()`: the maximal runs of non-whitespace code points. -/
def splitWs (s : Str) : List Str := (s.splitOnP isSpace).filter (fun w => !w.isEmpty)

example : splitSep "\n\n".toList "a\n\n\nb".toList = ["a".toList, "\nb".toList] := by decide

example : splitWs " a  bc ".toList = ["a".toList, "bc".toList] := by decide

/-- A raised Python exception: its class name and its `str()`. -/
structure Exc where
  name : Str
  message : Str
  deriving DecidableEq, Repr

/-- `Exception(msg)`, the class most of the modelled code raises. -/
def Exc.exception (message : Str) : Exc := ⟨"Exception".toList, message⟩

/-! ## Indexing -/

/-- `s.rfind(sub)`: the last index at which `sub` starts, `-1` when there is none. -/
def rfind (sub s : Str) : Int :=
  match ((List.range (s.length + 1)).filter fun i => sub.isPrefixOf (s.drop i)).getLast? with
  | some i => i
  | none => -1

example : rfind ". ".toList "a. b. c".toList = 4 ∧ rfind "! ".toList "a. b".toList = -1 := by
  decide

/-- `IndexError: list index out of range`. -/
def indexError : Exc := ⟨"IndexError".toList, "list index out of range".toList⟩

/-- The position `xs[i]` reads in a list of length `n`: a negative index counts from the end. -/
def pyPosition (n : Nat) (i : Int) : Int := if i < 0 then i + n else i

/-- `xs[i]` on a Python list. -/
def pyIndex {α : Type} (xs : List α) (i : Int) : Except Exc α :=
  match pyPosition xs.length i with
  | .ofNat k =>
    match xs[k]? with
    | some a => .ok a
    | none => .error indexError
  | .negSucc _ => .error indexError

example : pyIndex [10, 20, 30] (-1) = .ok 30 ∧ pyIndex [10, 20, 30] (-4) = .error indexError := by
  decide

theorem mem_of_pyIndex {α : Type} {xs : List α} {i : Int} {a : α} (h : pyIndex xs i = .ok a) :
    a ∈ xs := by
  unfold pyIndex at h
  split at h
  · split at h
    · rename_i hget
      cases h
      exact List.mem_of_getElem? hget
    · cases h
  · cases h

/-! ## Character classes from the Unicode database

`str.isupper()`, `str.isalnum()` and the regular-expression class `\w` read the Unicode
character database, which is data of the interpreter rather than code. The model takes the
three properties it needs as a parameter. -/

/-- The Unicode character properties the modelled code reads: cased letters, uppercase
letters, the word characters of `\w` (`str.isalnum()` or `_`), and the value of a decimal
digit (category `Nd`), which is what `int()` accepts. -/
structure CharClasses where
  isCased : Char → Bool
  isUpper : Char → Bool
  isWord : Char → Bool
  decimal : Char → Option Nat

/-- `s.isupper()`: every cased character is uppercase, and there is at least one. -/
def isUpperStr (cc : CharClasses) (s : Str) : Bool :=
  s.all (fun c => !cc.isCased c || cc.isUpper c) && s.any cc.isCased

/-- The ASCII part of the Unicode database, which is all of it on ASCII text. -/
def asciiClasses : CharClasses where
  isCased c := c.isAlpha
  isUpper c := c.isUpper
  isWord c := c.isAlphanum || c == '_'
  decimal c := if c.isDigit then some (c.toNat - '0'.toNat) else none

/-! ## Regular-expression substitutions of the text normaliser -/

/-- The scan of `re.sub(r"\s+", " ", s)`; the flag records that the previous character was
whitespace, so the run it belongs to has already been replaced. -/
def collapseSpaceAux : Bool → Str → Str
  | _, [] => []
  | inRun, c :: s =>
      if isSpace c then
        if inRun then collapseSpaceAux true s else ' ' :: collapseSpaceAux true s
      else c :: collapseSpaceAux false s

/-- `re.sub(r"\s+", " ", s)`: every maximal run of whitespace becomes one space. -/
def collapseSpace (s : Str) : Str := collapseSpaceAux false s

example : collapseSpace "a \n\t b ".toList = "a b ".toList := by decide

/-- One match of `(\w+)-\s+(\w+)` at the front of a text: the two words and the text after
the second. Both runs are greedy, and backtracking cannot help: a shorter first word is
followed by a word character, not `-`, and a shorter space run by a space, not a word. -/
def hyphenMatch (cc : CharClasses) (s : Str) : Option (Str × Str × Str) :=
  let w1 := s.takeWhile cc.isWord
  match s.drop w1.length with
  | '-' :: r =>
      let sp := r.takeWhile isSpace
      let r2 := r.drop sp.length
      let w2 := r2.takeWhile cc.isWord
      if w1 ≠ [] ∧ sp ≠ [] ∧ w2 ≠ [] then some (w1, w2, r2.drop w2.length) else none
  | _ => none

/-- `re.sub(r"(\w+)-\s+(\w+)", r"\1\2", s)`: scanning left to right, each match is replaced
by its two words and the scan goes on after the second word; where no match starts, one
character is copied. The fuel is the length of the text. -/
def dehyphenate (cc : CharClasses) : Nat → Str → Str
  | 0, s => s
  | _ + 1, [] => []
  | fuel + 1, c :: s =>
      match hyphenMatch cc (c :: s) with
      | some (w1, w2, rest) => w1 ++ w2 ++ dehyphenate cc fuel rest
      | none => c :: dehyphenate cc fuel s

example : dehyphenate asciiClasses 9 "ab- cd e".toList = "abcd e".toList := by decide

/-! ## Joining -/

/-- A character in neither the separator nor any piece is not in the joined text. -/
theorem not_mem_intercalate {c : Char} {sep : Str} (hsep : c ∉ sep) :
    ∀ {parts : List Str}, (∀ p ∈ parts, c ∉ p) → c ∉ sep.intercalate parts
  | [], _ => by simp
  | [p], h => by simpa using h p (by simp)
  | p :: q :: rest, h => by
      rw [List.intercalate_cons_cons]
      simp only [List.mem_append, not_or]
      exact ⟨⟨h p (by simp), hsep⟩,
        not_mem_intercalate hsep fun x hx => h x (List.mem_cons_of_mem p hx)⟩

/-- Joining at least two pieces puts the separator right after the first. -/
theorem intercalate_cons_of_ne_nil (sep p : Str) {rest : List Str} (h : rest ≠ []) :
    sep.intercalate (p :: rest) = p ++ sep ++ sep.intercalate rest := by
  cases rest with
  | nil => exact absurd rfl h
  | cons q rest => exact List.intercalate_cons_cons

/-- A joined text starts where its first piece starts, when that piece is not empty. -/
theorem head?_intercalate (sep p : Str) (ps : List Str) (hp : p ≠ []) :
    (sep.intercalate (p :: ps)).head? = p.head? := by
  cases ps with
  | nil => simp
  | cons q rest =>
      rw [List.intercalate_cons_cons, List.append_assoc, List.head?_append_of_ne_nil _ hp]

/-- A joined text ends where its last piece ends, when that piece is not empty. -/
theorem getLast?_intercalate (sep q : Str) (hq : q ≠ []) :
    ∀ ps : List Str, (sep.intercalate (ps ++ [q])).getLast? = q.getLast?
  | [] => by simp
  | [p] => by
      rw [List.singleton_append, List.intercalate_cons_cons, List.intercalate_singleton,
        List.getLast?_append_of_ne_nil _ hq]
  | p :: p' :: ps => by
      have ih := getLast?_intercalate sep q hq (p' :: ps)
      have hne : sep.intercalate (p' :: ps ++ [q]) ≠ [] := by
        intro h
        rw [h, List.getLast?_nil] at ih
        exact hq (List.getLast?_eq_none_iff.mp ih.symm)
      rw [List.cons_append, List.cons_append, List.intercalate_cons_cons, ← List.cons_append,
        List.getLast?_append_of_ne_nil _ hne, ih]

/-! ## Substring search -/

/-! ## Stripping -/

/-- A text with no whitespace at either end, the texts `strip` leaves alone. -/
def Trimmed (s : Str) : Prop :=
  s.head?.all (fun c => !isSpace c) = true ∧ s.getLast?.all (fun c => !isSpace c) = true

instance (s : Str) : Decidable (Trimmed s) := inferInstanceAs (Decidable (_ ∧ _))

theorem Trimmed.head {s : Str} (h : Trimmed s) {c : Char} (hc : s.head? = some c) :
    isSpace c = false := by
  have h1 := h.1
  rw [hc] at h1
  simpa using h1

theorem Trimmed.last {s : Str} (h : Trimmed s) {c : Char} (hc : s.getLast? = some c) :
    isSpace c = false := by
  have h2 := h.2
  rw [hc] at h2
  simpa using h2

/-- A text is trimmed when its first and last characters, if any, are not whitespace. -/
theorem Trimmed.of_ends {s : Str} (hhead : ∀ c, s.head? = some c → isSpace c = false)
    (hlast : ∀ c, s.getLast? = some c → isSpace c = false) : Trimmed s := by
  constructor
  · cases hs : s.head? with
    | none => rfl
    | some c => simp [hhead c hs]
  · cases hs : s.getLast? with
    | none => rfl
    | some c => simp [hlast c hs]

/-- A trimmed text is its own `strip`. -/
theorem strip_of_trimmed {s : Str} (h : Trimmed s) : strip s = s := by
  have hd : s.dropWhile isSpace = s := by
    cases s with
    | nil => rfl
    | cons c t =>
        have hc : isSpace c = false := h.head rfl
        simp [hc]
  rw [strip, hd, List.rdropWhile_eq_self_iff]
  intro hs hsp
  have hc := h.last (List.getLast?_eq_some_getLast hs)
  rw [hc] at hsp
  exact Bool.false_ne_true hsp

/-- Stripping a trimmed text followed by one whitespace character gives the text back. -/
theorem strip_append_space {s : Str} (h : Trimmed s) (hne : s ≠ []) {c : Char}
    (hc : isSpace c = true) : strip (s ++ [c]) = s := by
  obtain ⟨x, t, rfl⟩ := List.exists_cons_of_ne_nil hne
  have hx : isSpace x = false := h.head rfl
  have hd : (x :: t ++ [c]).dropWhile isSpace = x :: t ++ [c] := by simp [hx]
  have hs := strip_of_trimmed h
  rw [strip, List.dropWhile_cons_of_neg (by simp [hx])] at hs
  rw [strip, hd, List.rdropWhile_concat_pos isSpace (x :: t) c hc, hs]

/-! ## The `s[1:-1]` slice of a framed text -/

/-- Framing a text with one delimiter on each side and taking `[1:-1]` gives the text back. -/
@[simp] theorem innerSlice_frame (d : Char) (s : Str) : innerSlice (d :: (s ++ [d])) = s := by
  simp [innerSlice]

/-- A framed text starts with its delimiter. -/
theorem frame_startswith (d : Char) (s : Str) : [d].isPrefixOf (d :: (s ++ [d])) = true := by
  simp [List.isPrefixOf]

/-- A framed text ends with its delimiter. -/
theorem frame_endswith (d : Char) (s : Str) : [d].isSuffixOf (d :: (s ++ [d])) = true := by
  rw [List.isSuffixOf_iff_suffix]
  exact ⟨d :: s, by simp⟩

end PyText
