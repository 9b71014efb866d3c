import RagService.Lib.PyText

/-!
# JSON text: Python's writer, JavaScript's reader

JSON values (`JValue`) with the writer of Python's `json.dumps` at its defaults (`dumps`: the
separators `", "` and `": "`, and `ensure_ascii`, which escapes every character outside the
printable ASCII range as `\uXXXX`, with a surrogate pair above `U+FFFF`) and the reader of
JavaScript's `JSON.parse` (`parse`), with member access `v.key` (`JValue.member`) and the string
conversion that `+=` on a string applies (`jsString`).

A number is kept as the literal the writer prints (`NumLit`), which must be a JSON number. The
reader decodes escaped surrogate pairs into one code point and rejects a lone surrogate, which
`Char` cannot hold.

The written text never holds a line break (`newline_not_mem_dumps`): a line-oriented transport
carries it on one line.
-/

set_option autoImplicit false

namespace JsonText

open PyText

/-! ## Number literals -/

/-- A character that can occur in a JSON number. -/
def isNumChar (c : Char) : Bool :=
  c.isDigit || c = '-' || c = '+' || c = '.' || c = 'e' || c = 'E'

/-- One or more digits. -/
def isDigits (s : Str) : Bool := !s.isEmpty && s.all Char.isDigit

/-- The integer part of a JSON number: `0`, or a digit other than `0` followed by digits. -/
def isIntPart : Str → Bool
  | [] => false
  | c :: cs => c.isDigit && (c ≠ '0' || cs.isEmpty) && cs.all Char.isDigit

/-- An optional exponent: `e` or `E`, an optional sign, digits. -/
def isExpPart : Str → Bool
  | [] => true
  | e :: rest =>
    (e = 'e' || e = 'E') &&
      match rest with
      | '+' :: ds => isDigits ds
      | '-' :: ds => isDigits ds
      | ds => isDigits ds

/-- An optional fraction, then an optional exponent. -/
def isFracExp : Str → Bool
  | '.' :: rest => isDigits (rest.takeWhile Char.isDigit) && isExpPart (rest.dropWhile Char.isDigit)
  | rest => isExpPart rest

/-- The JSON number grammar: `-? int frac? exp?`. -/
def isJsonNumber (s : Str) : Bool :=
  let body := match s with
    | '-' :: r => r
    | r => r
  isIntPart (body.takeWhile Char.isDigit) && isFracExp (body.dropWhile Char.isDigit)

example : isJsonNumber "-0.25e+3".toList = true := by decide
example : isJsonNumber "01".toList = false := by decide

/-- A number as its writer prints it: a JSON number literal. -/
structure NumLit where
  text : Str
  valid : isJsonNumber text = true

theorem isNumChar_of_mem_isDigits {s : Str} (h : isDigits s = true) {c : Char} (hc : c ∈ s) :
    isNumChar c = true := by
  simp only [isDigits, Bool.and_eq_true, List.all_eq_true] at h
  simp [isNumChar, h.2 c hc]

theorem isNumChar_of_mem_isExpPart {s : Str} (h : isExpPart s = true) {c : Char} (hc : c ∈ s) :
    isNumChar c = true := by
  cases s with
  | nil => cases hc
  | cons e rest =>
    simp only [isExpPart, Bool.and_eq_true] at h
    obtain ⟨he, hrest⟩ := h
    rcases List.mem_cons.1 hc with rfl | hc
    · simp only [Bool.or_eq_true, decide_eq_true_eq] at he
      rcases he with rfl | rfl <;> rfl
    · -- an optional sign, then digits
      split at hrest
      · rcases List.mem_cons.1 hc with rfl | hc
        · rfl
        · exact isNumChar_of_mem_isDigits hrest hc
      · rcases List.mem_cons.1 hc with rfl | hc
        · rfl
        · exact isNumChar_of_mem_isDigits hrest hc
      · exact isNumChar_of_mem_isDigits hrest hc

theorem isNumChar_of_mem_isFracExp {s : Str} (h : isFracExp s = true) {c : Char} (hc : c ∈ s) :
    isNumChar c = true := by
  unfold isFracExp at h
  split at h
  · rename_i rest
    simp only [Bool.and_eq_true] at h
    rcases List.mem_cons.1 hc with rfl | hc
    · rfl
    · rw [← List.takeWhile_append_dropWhile (p := Char.isDigit) (l := rest)] at hc
      rcases List.mem_append.1 hc with hc | hc
      · exact isNumChar_of_mem_isDigits h.1 hc
      · exact isNumChar_of_mem_isExpPart h.2 hc
  · exact isNumChar_of_mem_isExpPart h hc

/-- A JSON number is made of number characters only. -/
theorem isNumChar_of_mem_isJsonNumber {s : Str} (h : isJsonNumber s = true) {c : Char}
    (hc : c ∈ s) : isNumChar c = true := by
  -- the sign, then the integer part (digits) and the fraction and exponent
  have hbody : ∀ body : Str, (isIntPart (body.takeWhile Char.isDigit) &&
      isFracExp (body.dropWhile Char.isDigit)) = true → c ∈ body → isNumChar c = true := by
    intro body hb hcb
    simp only [Bool.and_eq_true] at hb
    rw [← List.takeWhile_append_dropWhile (p := Char.isDigit) (l := body)] at hcb
    rcases List.mem_append.1 hcb with hcb | hcb
    · simp [isNumChar, (List.mem_takeWhile_imp hcb)]
    · exact isNumChar_of_mem_isFracExp hb.2 hcb
  unfold isJsonNumber at h
  dsimp only at h
  split at h
  · rename_i r
    rcases List.mem_cons.1 hc with rfl | hc
    · rfl
    · exact hbody r h hc
  · exact hbody _ h hc

/-- A run of digits with no leading zero is a JSON number. -/
theorem isJsonNumber_digits {c : Char} {cs : Str} (hc : c.isDigit = true)
    (hcs : ∀ d ∈ cs, d.isDigit = true) (hlead : c ≠ '0' ∨ cs = []) :
    isJsonNumber (c :: cs) = true := by
  have hall : ∀ d ∈ c :: cs, d.isDigit = true := by
    intro d hd
    rcases List.mem_cons.1 hd with rfl | hd
    · exact hc
    · exact hcs d hd
  have hminus : c ≠ '-' := by
    rintro rfl
    revert hc
    decide
  have htake : (c :: cs).takeWhile Char.isDigit = c :: cs := List.takeWhile_eq_self_iff.2 hall
  have hdrop : (c :: cs).dropWhile Char.isDigit = [] := List.dropWhile_eq_nil_iff.2 hall
  unfold isJsonNumber
  split
  · rename_i r heq
    cases heq
    exact absurd rfl hminus
  · dsimp only
    rw [htake, hdrop]
    simp only [isIntPart, isFracExp, isExpPart, hc, Bool.true_and, Bool.and_true, Bool.and_eq_true,
      List.all_eq_true]
    refine ⟨?_, hcs⟩
    rcases hlead with h | rfl
    · simp [h]
    · simp

/-- The decimal digits of a positive number start with a digit other than `0`. -/
theorem toDigits_head {n : Nat} (hn : 0 < n) : ∃ c cs, Nat.toDigits 10 n = c :: cs ∧ c ≠ '0' := by
  induction n using Nat.strong_induction_on with
  | _ n ih =>
    by_cases hlt : n < 10
    · have hdigit : ∀ m < 10, 0 < m → Nat.digitChar m ≠ '0' := by decide
      exact ⟨_, [], Nat.toDigits_of_lt_base hlt, hdigit n hlt hn⟩
    · have hq : 0 < n / 10 := by omega
      obtain ⟨c, cs, hcs, hc⟩ := ih (n / 10) (by omega) hq
      have hsplit := Nat.toDigits_append_toDigits (b := 10) (by decide) hq (Nat.mod_lt n (by decide))
      rw [Nat.div_add_mod] at hsplit
      exact ⟨c, cs ++ Nat.toDigits 10 (n % 10), by rw [← hsplit, hcs, List.cons_append], hc⟩

/-- `str(n)` is a JSON number. -/
theorem isJsonNumber_toDigits (n : Nat) : isJsonNumber (Nat.toDigits 10 n) = true := by
  have hdigits : ∀ d ∈ Nat.toDigits 10 n, d.isDigit = true :=
    fun d hd => Nat.isDigit_of_mem_toDigits (by decide) (by decide) hd
  rcases Nat.eq_zero_or_pos n with rfl | hn
  · decide
  · obtain ⟨c, cs, hcs, hc⟩ := toDigits_head hn
    rw [hcs] at hdigits ⊢
    exact isJsonNumber_digits (hdigits c List.mem_cons_self)
      (fun d hd => hdigits d (List.mem_cons_of_mem c hd)) (Or.inl hc)

/-- A natural number as `json.dumps` writes it. -/
def NumLit.ofNat (n : Nat) : NumLit := ⟨Nat.toDigits 10 n, isJsonNumber_toDigits n⟩

/-- A minus sign before a literal that does not start with one keeps it a JSON number. -/
theorem isJsonNumber_minus {s : Str} (hs : isJsonNumber s = true) (hhead : s.head? ≠ some '-') :
    isJsonNumber ('-' :: s) = true := by
  unfold isJsonNumber at hs ⊢
  split at hs
  · simp at hhead
  · exact hs

theorem head_toDigits_ne_minus (n : Nat) : (Nat.toDigits 10 n).head? ≠ some '-' := by
  intro h
  have hdigit := Nat.isDigit_of_mem_toDigits (by decide) (by decide) (List.mem_of_mem_head? h)
  revert hdigit
  decide

/-- An integer as `json.dumps` writes it. -/
def NumLit.ofInt : Int → NumLit
  | .ofNat n => NumLit.ofNat n
  | .negSucc n =>
    ⟨'-' :: Nat.toDigits 10 (n + 1),
      isJsonNumber_minus (isJsonNumber_toDigits _) (head_toDigits_ne_minus _)⟩

/-! ## Values -/

/-- A JSON value. -/
inductive JValue where
  | null
  | bool (b : Bool)
  | num (lit : NumLit)
  | str (s : Str)
  | arr (xs : List JValue)
  | obj (fields : List (Str × JValue))

/-! ## Python's `json.dumps` -/

/-- A lower-case hexadecimal digit. -/
def hexDigit (n : Nat) : Char := if n < 10 then Char.ofNat (48 + n) else Char.ofNat (87 + n)

/-- Four hexadecimal digits. -/
def hex4 (n : Nat) : Str :=
  [hexDigit (n / 4096 % 16), hexDigit (n / 256 % 16), hexDigit (n / 16 % 16), hexDigit (n % 16)]

/-- `\uXXXX`. -/
def uEscape (n : Nat) : Str := '\\' :: 'u' :: hex4 n

/-- How `ensure_ascii` writes one character: the short escapes, printable ASCII as itself, any
other character as `\uXXXX`, as a surrogate pair above `U+FFFF`. -/
def escapeChar (c : Char) : Str :=
  if c = '"' then ['\\', '"']
  else if c = '\\' then ['\\', '\\']
  else if c = '\n' then ['\\', 'n']
  else if c = '\r' then ['\\', 'r']
  else if c = '\t' then ['\\', 't']
  else if c = Char.ofNat 8 then ['\\', 'b']
  else if c = Char.ofNat 12 then ['\\', 'f']
  else if 32 ≤ c.toNat ∧ c.toNat ≤ 126 then [c]
  else if c.toNat < 0x10000 then uEscape c.toNat
  else uEscape (0xD800 + (c.toNat - 0x10000) / 1024) ++ uEscape (0xDC00 + (c.toNat - 0x10000) % 1024)

/-- A string literal. -/
def quote (s : Str) : Str := '"' :: s.flatMap escapeChar ++ ['"']

example : quote ['a', '"', Char.ofNat 1, '\n'] = "\"a\\\"\\u0001\\n\"".toList := by decide

mutual

/-- `json.dumps(v)`. -/
def dumps : JValue → Str
  | .null => "null".toList
  | .bool b => if b then "true".toList else "false".toList
  | .num lit => lit.text
  | .str s => quote s
  | .arr xs => '[' :: dumpsElems xs ++ [']']
  | .obj fields => '\x7b' :: dumpsFields fields ++ ['\x7d']

/-- The elements of an array, separated by `", "`. -/
def dumpsElems : List JValue → Str
  | [] => []
  | [x] => dumps x
  | x :: xs => dumps x ++ ", ".toList ++ dumpsElems xs

/-- The members of an object, `"key": value`, separated by `", "`. -/
def dumpsFields : List (Str × JValue) → Str
  | [] => []
  | [(k, v)] => quote k ++ ": ".toList ++ dumps v
  | (k, v) :: fs => quote k ++ ": ".toList ++ dumps v ++ ", ".toList ++ dumpsFields fs

end

theorem dumpsElems_cons_cons (x y : JValue) (ys : List JValue) :
    dumpsElems (x :: y :: ys) = dumps x ++ ", ".toList ++ dumpsElems (y :: ys) := rfl

theorem dumpsFields_cons_cons (f g : Str × JValue) (gs : List (Str × JValue)) :
    dumpsFields (f :: g :: gs) = quote f.1 ++ ": ".toList ++ dumps f.2 ++ ", ".toList ++ dumpsFields (g :: gs) := rfl

example : dumps (.obj [("text".toList, .str "hi".toList), ("n".toList, .null)]) =
    "\x7b\"text\": \"hi\", \"n\": null\x7d".toList := by rfl

/-! ## Printable ASCII

With `ensure_ascii` the writer emits printable ASCII only (`printable_dumps`): every character is
one byte of UTF-8, so a stream of written values cut at any byte is cut between characters, and
no line break occurs (`newline_not_mem_dumps`), so a line-oriented transport carries a written
value on one line. -/

/-- A character of printable ASCII, from the space to the tilde. -/
def isPrintable (c : Char) : Bool := 32 ≤ c.toNat && c.toNat ≤ 126

/-- A text of printable ASCII only. -/
def Printable (s : Str) : Prop := s.all isPrintable = true

instance : DecidablePred Printable := fun s => inferInstanceAs (Decidable (s.all isPrintable = true))

theorem Printable.mem {s : Str} (h : Printable s) {c : Char} (hc : c ∈ s) : isPrintable c = true :=
  List.all_eq_true.1 h c hc

@[simp] theorem printable_nil : Printable [] := rfl

@[simp] theorem printable_cons {c : Char} {s : Str} :
    Printable (c :: s) ↔ isPrintable c = true ∧ Printable s := by
  simp [Printable]

@[simp] theorem printable_append {s t : Str} : Printable (s ++ t) ↔ Printable s ∧ Printable t := by
  simp [Printable]

theorem isPrintable_hexDigit {n : Nat} (h : n < 16) : isPrintable (hexDigit n) = true := by
  have hall : ∀ m < 16, isPrintable (hexDigit m) = true := by decide
  exact hall n h

theorem isPrintable_of_isNumChar {c : Char} (h : isNumChar c = true) : isPrintable c = true := by
  simp only [isNumChar, Bool.or_eq_true, decide_eq_true_eq] at h
  rcases h with ((((hd | rfl) | rfl) | rfl) | rfl) | rfl
  · -- a digit is one of `0` to `9`
    simp only [Char.isDigit, Bool.and_eq_true, decide_eq_true_eq] at hd
    simp only [isPrintable, Bool.and_eq_true, decide_eq_true_eq]
    have h0 : (48 : UInt32) ≤ c.val := hd.1
    have h9 : c.val ≤ (57 : UInt32) := hd.2
    constructor
    · exact Nat.le_trans (by decide) (UInt32.le_iff_toNat_le.1 h0)
    · exact Nat.le_trans (UInt32.le_iff_toNat_le.1 h9) (by decide)
  all_goals decide

theorem printable_uEscape (n : Nat) : Printable (uEscape n) := by
  simp only [uEscape, hex4, printable_cons, printable_nil, and_true,
    isPrintable_hexDigit (Nat.mod_lt _ (by decide : 0 < 16))]
  decide

theorem printable_escapeChar (c : Char) : Printable (escapeChar c) := by
  unfold escapeChar
  split_ifs with h1 h2 h3 h4 h5 h6 h7 hprint hbmp
  · decide
  · decide
  · decide
  · decide
  · decide
  · decide
  · decide
  · -- printable ASCII stands for itself
    simp only [printable_cons, printable_nil, and_true, isPrintable, Bool.and_eq_true,
      decide_eq_true_eq]
    exact hprint
  · exact printable_uEscape _
  · exact printable_append.2 ⟨printable_uEscape _, printable_uEscape _⟩

theorem printable_quote (s : Str) : Printable (quote s) := by
  have hbody : Printable (s.flatMap escapeChar) := by
    refine List.all_eq_true.2 fun c hc => ?_
    obtain ⟨d, -, hd⟩ := List.mem_flatMap.1 hc
    exact (printable_escapeChar d).mem hd
  simp only [quote, printable_append, printable_cons, printable_nil, and_true, hbody]
  decide

mutual

/-- `json.dumps` writes printable ASCII only. -/
theorem printable_dumps : ∀ v : JValue, Printable (dumps v)
  | .null => by decide
  | .bool b => by cases b <;> decide
  | .num lit => List.all_eq_true.2 fun _ hc =>
    isPrintable_of_isNumChar (isNumChar_of_mem_isJsonNumber lit.valid hc)
  | .str s => printable_quote s
  | .arr xs => by
    have h := printable_dumpsElems xs
    simp only [dumps, printable_append, printable_cons, printable_nil, and_true, h]
    decide
  | .obj fields => by
    have h := printable_dumpsFields fields
    simp only [dumps, printable_append, printable_cons, printable_nil, and_true, h]
    decide

theorem printable_dumpsElems : ∀ xs : List JValue, Printable (dumpsElems xs)
  | [] => printable_nil
  | [x] => printable_dumps x
  | x :: y :: xs => by
    have hx := printable_dumps x
    have hxs := printable_dumpsElems (y :: xs)
    rw [dumpsElems_cons_cons]
    simp only [printable_append, hx, hxs, and_true, true_and]
    decide

theorem printable_dumpsFields : ∀ fs : List (Str × JValue), Printable (dumpsFields fs)
  | [] => printable_nil
  | [(k, v)] => by
    have hk := printable_quote k
    have hv := printable_dumps v
    simp only [dumpsFields, printable_append, hk, hv, and_true, true_and]
    decide
  | (k, v) :: f :: fs => by
    have hk := printable_quote k
    have hv := printable_dumps v
    have hfs := printable_dumpsFields (f :: fs)
    rw [dumpsFields_cons_cons]
    simp only [printable_append, hk, hv, hfs, and_true, true_and]
    decide

end

/-- A written value holds no line break. -/
theorem newline_not_mem_dumps (v : JValue) : '\n' ∉ dumps v :=
  fun h => absurd ((printable_dumps v).mem h) (by decide)

/-! ## JavaScript's `JSON.parse` -/

/-- JSON whitespace. -/
def isWs (c : Char) : Bool := c = ' ' || c = '\t' || c = '\n' || c = '\r'

/-- The text after leading whitespace. -/
def skipWs (s : Str) : Str := s.dropWhile isWs

/-- The value of a hexadecimal digit. -/
def hexValue (c : Char) : Option Nat :=
  if c.isDigit then some (c.toNat - 48)
  else if 'a' ≤ c ∧ c ≤ 'f' then some (c.toNat - 87)
  else if 'A' ≤ c ∧ c ≤ 'F' then some (c.toNat - 55)
  else none

/-- The code unit of four hexadecimal digits. -/
def hex4Value (a b c d : Char) : Option Nat := do
  let a ← hexValue a
  let b ← hexValue b
  let c ← hexValue c
  let d ← hexValue d
  pure (((a * 16 + b) * 16 + c) * 16 + d)

/-- A UTF-16 surrogate code unit, high or low. -/
def isSurrogate (n : Nat) : Bool := 0xD800 ≤ n && n ≤ 0xDFFF

/-- A high surrogate. -/
def isHighSurrogate (n : Nat) : Bool := 0xD800 ≤ n && n ≤ 0xDBFF

/-- A low surrogate. -/
def isLowSurrogate (n : Nat) : Bool := 0xDC00 ≤ n && n ≤ 0xDFFF

/-- Prepend a character to a decoded string. -/
def consChar (c : Char) : Option (Str × Str) → Option (Str × Str)
  | some (s, rest) => some (c :: s, rest)
  | none => none

/-- A string literal's contents after the opening quote: the decoded text and what follows the
closing quote. A raw control character or an unknown escape is an error. -/
def parseChars : Str → Option (Str × Str)
  | [] => none
  | '"' :: rest => some ([], rest)
  | '\\' :: '"' :: rest => consChar '"' (parseChars rest)
  | '\\' :: '\\' :: rest => consChar '\\' (parseChars rest)
  | '\\' :: '/' :: rest => consChar '/' (parseChars rest)
  | '\\' :: 'b' :: rest => consChar (Char.ofNat 8) (parseChars rest)
  | '\\' :: 'f' :: rest => consChar (Char.ofNat 12) (parseChars rest)
  | '\\' :: 'n' :: rest => consChar '\n' (parseChars rest)
  | '\\' :: 'r' :: rest => consChar '\r' (parseChars rest)
  | '\\' :: 't' :: rest => consChar '\t' (parseChars rest)
  | '\\' :: 'u' :: a :: b :: c :: d :: rest =>
    match hex4Value a b c d with
    | none => none
    | some hi =>
      if isHighSurrogate hi then
        -- a high surrogate must be followed by an escaped low surrogate
        match rest with
        | '\\' :: 'u' :: e :: f :: g :: h :: rest =>
          match hex4Value e f g h with
          | some lo =>
            if isLowSurrogate lo then
              consChar (Char.ofNat (0x10000 + (hi - 0xD800) * 1024 + (lo - 0xDC00))) (parseChars rest)
            else none
          | none => none
        | _ => none
      else if isSurrogate hi then none
      else consChar (Char.ofNat hi) (parseChars rest)
  | '\\' :: _ => none
  | c :: rest => if c.toNat < 32 then none else consChar c (parseChars rest)

/-- A number: the longest run of number characters, which must be a JSON number. -/
def parseNumber (s : Str) : Option (JValue × Str) :=
  if h : isJsonNumber (s.takeWhile isNumChar) = true then
    some (.num ⟨s.takeWhile isNumChar, h⟩, s.dropWhile isNumChar)
  else none

mutual

/-- One value after optional whitespace, and the text after it. The fuel bounds the nesting
and the number of elements read; `parse` gives one unit per character. -/
def parseValue : Nat → Str → Option (JValue × Str)
  | 0, _ => none
  | fuel + 1, s =>
    match skipWs s with
    | 'n' :: 'u' :: 'l' :: 'l' :: rest => some (.null, rest)
    | 't' :: 'r' :: 'u' :: 'e' :: rest => some (.bool true, rest)
    | 'f' :: 'a' :: 'l' :: 's' :: 'e' :: rest => some (.bool false, rest)
    | '"' :: rest =>
      match parseChars rest with
      | some (str, rest) => some (.str str, rest)
      | none => none
    | '[' :: rest =>
      match skipWs rest with
      | ']' :: rest => some (.arr [], rest)
      | _ =>
        match parseElems fuel rest [] with
        | some (xs, rest) => some (.arr xs, rest)
        | none => none
    | '\x7b' :: rest =>
      match skipWs rest with
      | '\x7d' :: rest => some (.obj [], rest)
      | _ =>
        match parseFields fuel rest [] with
        | some (fields, rest) => some (.obj fields, rest)
        | none => none
    | s => parseNumber s

/-- The elements of an array after `[`, up to and past the closing `]`. -/
def parseElems : Nat → Str → List JValue → Option (List JValue × Str)
  | 0, _, _ => none
  | fuel + 1, s, acc =>
    match parseValue fuel s with
    | none => none
    | some (v, rest) =>
      match skipWs rest with
      | ',' :: rest => parseElems fuel rest (acc ++ [v])
      | ']' :: rest => some (acc ++ [v], rest)
      | _ => none

/-- The members of an object after `{`, up to and past the closing `}`. -/
def parseFields : Nat → Str → List (Str × JValue) → Option (List (Str × JValue) × Str)
  | 0, _, _ => none
  | fuel + 1, s, acc =>
    match skipWs s with
    | '"' :: rest =>
      match parseChars rest with
      | none => none
      | some (k, rest) =>
        match skipWs rest with
        | ':' :: rest =>
          match parseValue fuel rest with
          | none => none
          | some (v, rest) =>
            match skipWs rest with
            | ',' :: rest => parseFields fuel rest (acc ++ [(k, v)])
            | '\x7d' :: rest => some (acc ++ [(k, v)], rest)
            | _ => none
        | _ => none
    | _ => none

end

/-- `JSON.parse(text)`: one value with only whitespace around it, or `none` where JavaScript
throws `SyntaxError`. -/
def parse (text : Str) : Option JValue :=
  match parseValue (text.length + 1) text with
  | some (v, rest) => if skipWs rest = [] then some v else none
  | none => none

/-! ## Reading a value in JavaScript -/

/-- `v.key`: the last member of that name of an object; `undefined` (`none`) for a missing
member or a value that is not an object. -/
def JValue.member (v : JValue) (key : Str) : Option JValue :=
  match v with
  | .obj fields => (fields.reverse.find? (·.1 = key)).map (·.2)
  | _ => none

/-- An object without a member of that name reads `undefined` for it. -/
theorem member_eq_none {fields : List (Str × JValue)} {key : Str} (h : ∀ f ∈ fields, f.1 ≠ key) :
    (JValue.obj fields).member key = none := by
  simp only [JValue.member, Option.map_eq_none_iff, List.find?_eq_none, List.mem_reverse,
    decide_eq_true_eq]
  exact h

mutual

/-- `String(v)`: what `s += v` appends (a number as its literal). -/
def jsString : JValue → Str
  | .null => "null".toList
  | .bool b => if b then "true".toList else "false".toList
  | .num lit => lit.text
  | .str s => s
  | .arr xs => jsJoin xs
  | .obj _ => "[object Object]".toList

/-- `xs.join(",")`: `null` elements as empty. -/
def jsJoin : List JValue → Str
  | [] => []
  | [.null] => []
  | [x] => jsString x
  | .null :: tail@(_ :: _) => ',' :: jsJoin tail
  | y :: tail@(_ :: _) => jsString y ++ ',' :: jsJoin tail

end

/-- `s += v` for a member that may be missing: `undefined` appends `"undefined"`. -/
def jsAppend (s : Str) : Option JValue → Str
  | some v => s ++ jsString v
  | none => s ++ "undefined".toList

end JsonText
