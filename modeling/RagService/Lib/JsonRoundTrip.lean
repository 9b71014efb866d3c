import RagService.Lib.Json

/-!
# Reading back what `json.dumps` writes

`JSON.parse` returns exactly the value `json.dumps` wrote: `parse (dumps v) = some v` for every
value (`parse_dumps`). This is what lets a reader of a JSON transport reason about the values
the writer sent rather than about their text.

## What this module delivers

- the string half: each escape of `ensure_ascii` reads back as its character
  (`parseChars_escapeChar`), the short escapes, `\uXXXX` in the basic plane and a surrogate
  pair above it, and hence a whole string literal (`parseChars_quote`);
- the value half: `parseValue_dumps`, one mutual induction over values, array elements and
  object members, with the fuel as a parameter bounded below by `size`, and with the condition
  on what follows a value (`NoNumHead`: a number literal ends where the number characters end);
- `size_le_length`: the fuel `parse` gives (one unit per character) is enough.
-/

set_option autoImplicit false

namespace JsonText

open PyText

/-! ## Characters

A character is a Unicode scalar value: its code point is never a surrogate. This is why the
escape of a character is always read back, and why the reader may reject a lone surrogate. -/

theorem toNat_not_surrogate (c : Char) :
    c.toNat < 0xD800 ∨ (0xDFFF < c.toNat ∧ c.toNat < 0x110000) := by
  have h := c.valid
  unfold UInt32.isValidChar Nat.isValidChar at h
  exact h

theorem hexValue_hexDigit {d : Nat} (h : d < 16) : hexValue (hexDigit d) = some d := by
  have hall : ∀ m < 16, hexValue (hexDigit m) = some m := by decide
  exact hall d h

theorem hex4Value_hex4 {n : Nat} (h : n < 0x10000) :
    hex4Value (hexDigit (n / 4096 % 16)) (hexDigit (n / 256 % 16)) (hexDigit (n / 16 % 16))
      (hexDigit (n % 16)) = some n := by
  simp only [hex4Value, hexValue_hexDigit (Nat.mod_lt _ (by decide : 0 < 16))]
  simp only [Option.pure_def, Option.bind_eq_bind, Option.bind_some, Option.some.injEq]
  omega

/-! ## Strings -/

/-- A `\uXXXX` escape of a code unit that is not a surrogate reads back as that character. -/
theorem parseChars_uEscape {n : Nat} (h : n < 0x10000) (hs : isSurrogate n = false) (rest : Str) :
    parseChars (uEscape n ++ rest) = consChar (Char.ofNat n) (parseChars rest) := by
  have hhi : isHighSurrogate n = false := by
    simp only [isSurrogate, isHighSurrogate, Bool.and_eq_false_iff, decide_eq_false_iff_not] at hs ⊢
    omega
  simp only [uEscape, hex4, List.cons_append, List.nil_append]
  rw [parseChars]
  simp only [hex4Value_hex4 h, hhi, hs]
  rfl

/-- Each escape of `ensure_ascii` reads back as the character it escapes. -/
theorem parseChars_escapeChar (c : Char) (rest : Str) :
    parseChars (escapeChar c ++ rest) = consChar c (parseChars rest) := by
  have hvalid := toNat_not_surrogate c
  unfold escapeChar
  split_ifs with h1 h2 h3 h4 h5 h6 h7 hprint hbmp
  · subst h1; rfl
  · subst h2; rfl
  · subst h3; rfl
  · subst h4; rfl
  · subst h5; rfl
  · subst h6; rfl
  · subst h7; rfl
  · -- printable ASCII other than the quote and the backslash stands for itself
    simp only [List.singleton_append]
    rw [parseChars.eq_def]
    -- every other branch needs a quote, a backslash or a control character
    split <;> simp_all [imp_iff_not_or]
  · -- a character of the basic plane: one escape
    have hs : isSurrogate c.toNat = false := by
      simp only [isSurrogate, Bool.and_eq_false_iff, decide_eq_false_iff_not]
      omega
    rw [parseChars_uEscape hbmp hs, Char.ofNat_toNat]
  · -- above the basic plane: a high surrogate, then a low one
    have hge : 0x10000 ≤ c.toNat := Nat.le_of_not_lt hbmp
    have hhi : isHighSurrogate (0xD800 + (c.toNat - 0x10000) / 1024) = true := by
      simp only [isHighSurrogate, Bool.and_eq_true, decide_eq_true_eq]
      omega
    have hlo : isLowSurrogate (0xDC00 + (c.toNat - 0x10000) % 1024) = true := by
      simp only [isLowSurrogate, Bool.and_eq_true, decide_eq_true_eq]
      omega
    have hcode : 0x10000 + (0xD800 + (c.toNat - 0x10000) / 1024 - 0xD800) * 1024 +
        (0xDC00 + (c.toNat - 0x10000) % 1024 - 0xDC00) = c.toNat := by omega
    simp only [uEscape, hex4, List.cons_append, List.nil_append]
    rw [parseChars]
    simp only [hex4Value_hex4 (by omega : 0xD800 + (c.toNat - 0x10000) / 1024 < 0x10000),
      hex4Value_hex4 (by omega : 0xDC00 + (c.toNat - 0x10000) % 1024 < 0x10000), hhi, hlo,
      if_true, hcode, Char.ofNat_toNat]

/-- The body of a string literal reads back as the string, up to the closing quote. -/
theorem parseChars_quote (s r : Str) : parseChars (s.flatMap escapeChar ++ '"' :: r) = some (s, r) := by
  induction s with
  | nil => rfl
  | cons c s ih =>
    rw [List.flatMap_cons, List.append_assoc, parseChars_escapeChar, ih]
    rfl

/-! ## Numbers -/

/-- What follows a value does not start with a number character, so that a number literal
ends where its text ends. -/
def NoNumHead (r : Str) : Prop := ∀ c t, r = c :: t → isNumChar c = false

theorem noNumHead_nil : NoNumHead [] := by
  intro c t h
  cases h

theorem noNumHead_cons {c : Char} (h : isNumChar c = false) (t : Str) : NoNumHead (c :: t) := by
  intro c' t' h'
  cases h'
  exact h

theorem takeWhile_isNumChar {r : Str} (hr : NoNumHead r) : r.takeWhile isNumChar = [] := by
  cases r with
  | nil => rfl
  | cons c t => simp [hr c t rfl]

theorem dropWhile_isNumChar {r : Str} (hr : NoNumHead r) : r.dropWhile isNumChar = r := by
  cases r with
  | nil => rfl
  | cons c t => simp [hr c t rfl]

theorem isWs_of_isNumChar {c : Char} (h : isNumChar c = true) : isWs c = false := by
  by_contra hw
  simp only [isWs, Bool.not_eq_false, Bool.or_eq_true, decide_eq_true_eq] at hw
  rcases hw with ((rfl | rfl) | rfl) | rfl <;> revert h <;> decide

theorem isJsonNumber_ne_nil {s : Str} (h : isJsonNumber s = true) : s ≠ [] := by
  rintro rfl
  revert h
  decide

theorem parseNumber_append (lit : NumLit) {r : Str} (hr : NoNumHead r) :
    parseNumber (lit.text ++ r) = some (.num lit, r) := by
  have hall : ∀ c ∈ lit.text, isNumChar c = true := fun c hc => isNumChar_of_mem_isJsonNumber lit.valid hc
  have htake : (lit.text ++ r).takeWhile isNumChar = lit.text := by
    rw [List.takeWhile_append_of_pos hall, takeWhile_isNumChar hr, List.append_nil]
  have hdrop : (lit.text ++ r).dropWhile isNumChar = r := by
    rw [List.dropWhile_append_of_pos hall, dropWhile_isNumChar hr]
  have hvalid : isJsonNumber ((lit.text ++ r).takeWhile isNumChar) = true := by
    rw [htake]
    exact lit.valid
  unfold parseNumber
  rw [dif_pos hvalid]
  simp only [hdrop, htake]

/-! ## Where the reader goes

What `parseValue` does is decided by the first character after the whitespace. These lemmas
say which branch a written value takes; `dumps_head` gives the first character of every written
value. -/

theorem skipWs_of_not_isWs {c : Char} (h : isWs c = false) (t : Str) : skipWs (c :: t) = c :: t :=
  List.dropWhile_cons_of_neg (by simp [h])

/-- A text that starts with a number character is read as a number. -/
theorem parseValue_numChar (n : Nat) {c : Char} (hc : isNumChar c = true) (t : Str) :
    parseValue (n + 1) (c :: t) = parseNumber (c :: t) := by
  rw [parseValue, skipWs_of_not_isWs (isWs_of_isNumChar hc)]
  -- none of the other branches starts with a number character
  split <;> simp_all [isNumChar]

theorem parseValue_cons_ws (n : Nat) {c : Char} (h : isWs c = true) (s : Str) :
    parseValue n (c :: s) = parseValue n s := by
  cases n with
  | zero => rfl
  | succ n =>
    have hs : skipWs (c :: s) = skipWs s := List.dropWhile_cons_of_pos h
    rw [parseValue, parseValue, hs]

theorem parseElems_cons_ws (n : Nat) {c : Char} (h : isWs c = true) (s : Str) (acc : List JValue) :
    parseElems n (c :: s) acc = parseElems n s acc := by
  cases n with
  | zero => rfl
  | succ n => rw [parseElems, parseElems, parseValue_cons_ws n h]

theorem parseFields_cons_ws (n : Nat) {c : Char} (h : isWs c = true) (s : Str)
    (acc : List (Str × JValue)) : parseFields n (c :: s) acc = parseFields n s acc := by
  cases n with
  | zero => rfl
  | succ n =>
    have hs : skipWs (c :: s) = skipWs s := List.dropWhile_cons_of_pos h
    rw [parseFields, parseFields, hs]

/-- After `[`, a text that does not close the array at once is read as its elements. -/
theorem parseValue_arr (n : Nat) {c : Char} (hws : isWs c = false) (hc : c ≠ ']') (t : Str) :
    parseValue (n + 1) ('[' :: c :: t) =
      (parseElems n (c :: t) []).map (fun p => (.arr p.1, p.2)) := by
  rw [parseValue, skipWs_of_not_isWs (by decide)]
  simp only [skipWs_of_not_isWs hws]
  split
  · rename_i heq
    cases heq
    exact absurd rfl hc
  · cases parseElems n (c :: t) [] <;> rfl

/-- After `{`, a text that does not close the object at once is read as its members. -/
theorem parseValue_obj (n : Nat) {c : Char} (hws : isWs c = false) (hc : c ≠ '\x7d') (t : Str) :
    parseValue (n + 1) ('\x7b' :: c :: t) =
      (parseFields n (c :: t) []).map (fun p => (.obj p.1, p.2)) := by
  rw [parseValue, skipWs_of_not_isWs (by decide)]
  simp only [skipWs_of_not_isWs hws]
  split
  · rename_i heq
    cases heq
    exact absurd rfl hc
  · cases parseFields n (c :: t) [] <;> rfl

/-- A written value starts with a character that is neither whitespace nor a closing bracket. -/
theorem dumps_head (v : JValue) :
    ∃ c t, dumps v = c :: t ∧ isWs c = false ∧ c ≠ ']' ∧ c ≠ '\x7d' := by
  cases v with
  | null => exact ⟨'n', "ull".toList, rfl, by decide, by decide, by decide⟩
  | bool b =>
    cases b
    · exact ⟨'f', "alse".toList, rfl, by decide, by decide, by decide⟩
    · exact ⟨'t', "rue".toList, rfl, by decide, by decide, by decide⟩
  | num lit =>
    obtain ⟨c, t, hct⟩ := List.exists_cons_of_ne_nil (isJsonNumber_ne_nil lit.valid)
    have hc : isNumChar c = true := isNumChar_of_mem_isJsonNumber lit.valid (by simp [hct])
    refine ⟨c, t, hct, isWs_of_isNumChar hc, ?_, ?_⟩
    · rintro rfl; revert hc; decide
    · rintro rfl; revert hc; decide
  | str s => exact ⟨'"', _, rfl, by decide, by decide, by decide⟩
  | arr xs => exact ⟨'[', _, rfl, by decide, by decide, by decide⟩
  | obj fs => exact ⟨'\x7b', _, rfl, by decide, by decide, by decide⟩

theorem dumpsElems_head (x : JValue) (xs : List JValue) :
    ∃ c t, dumpsElems (x :: xs) = c :: t ∧ isWs c = false ∧ c ≠ ']' := by
  obtain ⟨c, t, hct, hws, hb, -⟩ := dumps_head x
  cases xs with
  | nil => exact ⟨c, t, by rw [dumpsElems, hct], hws, hb⟩
  | cons y ys =>
    refine ⟨c, t ++ ", ".toList ++ dumpsElems (y :: ys), ?_, hws, hb⟩
    rw [dumpsElems_cons_cons, hct, List.cons_append, List.cons_append]

theorem dumpsFields_head (f : Str × JValue) (fs : List (Str × JValue)) :
    ∃ t, dumpsFields (f :: fs) = '"' :: t := by
  obtain ⟨k, v⟩ := f
  cases fs with
  | nil => exact ⟨_, rfl⟩
  | cons g gs => exact ⟨_, rfl⟩

/-! ## Values -/

mutual

/-- The fuel reading a value takes: one unit for the value and one for each element or member,
with the fuel of the values inside. -/
def size : JValue → Nat
  | .arr xs => 1 + sizeElems xs
  | .obj fs => 1 + sizeFields fs
  | _ => 1

/-- The fuel of the elements of an array. -/
def sizeElems : List JValue → Nat
  | [] => 0
  | x :: xs => 1 + size x + sizeElems xs

/-- The fuel of the members of an object. -/
def sizeFields : List (Str × JValue) → Nat
  | [] => 0
  | (_, v) :: fs => 1 + size v + sizeFields fs

end

theorem size_pos (v : JValue) : 1 ≤ size v := by
  cases v <;> simp only [size] <;> omega

theorem sep_toList : ", ".toList = [',', ' '] := by decide

theorem colon_toList : ": ".toList = [':', ' '] := by decide

mutual

/-- A written value, read with enough fuel and followed by a text that does not continue a
number, reads back as the value, and the reader stops where the value ends. -/
theorem parseValue_dumps : ∀ (v : JValue) (n : Nat) (r : Str), size v ≤ n → NoNumHead r →
    parseValue n (dumps v ++ r) = some (v, r)
  | v, 0, _, h, _ => absurd h (by have := size_pos v; omega)
  | .null, _ + 1, _, _, _ => rfl
  | .bool true, _ + 1, _, _, _ => rfl
  | .bool false, _ + 1, _, _, _ => rfl
  | .num lit, n + 1, r, _, hr => by
    obtain ⟨c, t, hct⟩ := List.exists_cons_of_ne_nil (isJsonNumber_ne_nil lit.valid)
    have hc : isNumChar c = true := isNumChar_of_mem_isJsonNumber lit.valid (by simp [hct])
    rw [dumps, hct, List.cons_append, parseValue_numChar n hc, ← List.cons_append, ← hct,
      parseNumber_append lit hr]
  | .str s, n + 1, r, _, _ => by
    simp only [dumps, quote, List.cons_append, List.append_assoc, List.nil_append]
    rw [parseValue, skipWs_of_not_isWs (by decide)]
    simp only [parseChars_quote]
  | .arr [], _ + 1, _, _, _ => rfl
  | .arr (x :: xs), n + 1, r, h, _ => by
    have hxs := parseElems_dumpsElems (x :: xs) n r [] (List.cons_ne_nil x xs)
      (by simp only [size] at h; omega)
    obtain ⟨c, t, hct, hws, hb⟩ := dumpsElems_head x xs
    simp only [dumps, List.cons_append, List.append_assoc, List.nil_append]
    rw [hct, List.cons_append, parseValue_arr n hws hb, ← List.cons_append, ← hct, hxs]
    rfl
  | .obj [], _ + 1, _, _, _ => rfl
  | .obj (f :: fs), n + 1, r, h, _ => by
    have hfs := parseFields_dumpsFields (f :: fs) n r [] (List.cons_ne_nil f fs)
      (by simp only [size] at h; omega)
    obtain ⟨t, ht⟩ := dumpsFields_head f fs
    simp only [dumps, List.cons_append, List.append_assoc, List.nil_append]
    rw [ht, List.cons_append, parseValue_obj n (by decide) (by decide), ← List.cons_append, ← ht, hfs]
    rfl

/-- The written elements of a non-empty array and the closing `]` read back as the elements,
after those already read. -/
theorem parseElems_dumpsElems : ∀ (xs : List JValue) (n : Nat) (r : Str) (acc : List JValue),
    xs ≠ [] → sizeElems xs ≤ n → parseElems n (dumpsElems xs ++ ']' :: r) acc = some (acc ++ xs, r)
  | [], _, _, _, hne, _ => absurd rfl hne
  | _ :: _, 0, _, _, _, h => by simp only [sizeElems] at h; omega
  | [x], n + 1, r, acc, _, h => by
    have hx := parseValue_dumps x n (']' :: r) (by simp only [sizeElems] at h; omega)
      (noNumHead_cons (by decide) r)
    rw [dumpsElems, parseElems, hx]
    rfl
  | x :: y :: ys, n + 1, r, acc, _, h => by
    simp only [sizeElems] at h
    have hx := parseValue_dumps x n (", ".toList ++ (dumpsElems (y :: ys) ++ ']' :: r)) (by omega)
      (by rw [sep_toList]; exact noNumHead_cons (by decide) _)
    have hys := parseElems_dumpsElems (y :: ys) n r (acc ++ [x]) (List.cons_ne_nil y ys)
      (by simp only [sizeElems]; omega)
    rw [dumpsElems_cons_cons, List.append_assoc, List.append_assoc, parseElems, hx]
    simp only [sep_toList, List.cons_append, List.nil_append, skipWs_of_not_isWs (by decide : isWs ',' = false)]
    rw [parseElems_cons_ws n (by decide), hys, List.append_assoc, List.singleton_append]

/-- The written members of a non-empty object and the closing brace read back as the members,
after those already read. -/
theorem parseFields_dumpsFields : ∀ (fs : List (Str × JValue)) (n : Nat) (r : Str)
    (acc : List (Str × JValue)), fs ≠ [] → sizeFields fs ≤ n →
      parseFields n (dumpsFields fs ++ '\x7d' :: r) acc = some (acc ++ fs, r)
  | [], _, _, _, hne, _ => absurd rfl hne
  | _ :: _, 0, _, _, _, h => by simp only [sizeFields] at h; omega
  | [(k, v)], n + 1, r, acc, _, h => by
    have hv := parseValue_dumps v n ('\x7d' :: r) (by simp only [sizeFields] at h; omega)
      (noNumHead_cons (by decide) r)
    rw [dumpsFields, quote, colon_toList]
    simp only [List.cons_append, List.append_assoc, List.nil_append]
    rw [parseFields, skipWs_of_not_isWs (by decide)]
    simp only [parseChars_quote, skipWs_of_not_isWs (by decide : isWs ':' = false)]
    rw [parseValue_cons_ws n (by decide), hv]
    rfl
  | (k, v) :: g :: gs, n + 1, r, acc, _, h => by
    simp only [sizeFields] at h
    have hv := parseValue_dumps v n (", ".toList ++ (dumpsFields (g :: gs) ++ '\x7d' :: r)) (by omega)
      (by rw [sep_toList]; exact noNumHead_cons (by decide) _)
    have hgs := parseFields_dumpsFields (g :: gs) n r (acc ++ [(k, v)]) (List.cons_ne_nil g gs)
      (by simp only [sizeFields]; omega)
    rw [dumpsFields_cons_cons, quote, colon_toList]
    simp only [List.cons_append, List.append_assoc, List.nil_append]
    rw [parseFields, skipWs_of_not_isWs (by decide)]
    simp only [parseChars_quote, skipWs_of_not_isWs (by decide : isWs ':' = false)]
    rw [parseValue_cons_ws n (by decide), hv]
    simp only [sep_toList, List.cons_append, List.nil_append, skipWs_of_not_isWs (by decide : isWs ',' = false)]
    rw [parseFields_cons_ws n (by decide), hgs, List.append_assoc, List.singleton_append]

end


/-! ## Fuel -/

mutual

theorem size_le_length : ∀ v : JValue, size v ≤ (dumps v).length
  | .null => by decide
  | .bool b => by cases b <;> decide
  | .num lit => by
    have := List.length_pos_of_ne_nil (isJsonNumber_ne_nil lit.valid)
    simp only [size, dumps]
    omega
  | .str s => by
    simp only [size, dumps, quote, List.length_append, List.length_cons]
    omega
  | .arr xs => by
    have := sizeElems_le_length xs
    simp only [size, dumps, List.length_append, List.length_cons, List.length_nil]
    omega
  | .obj fs => by
    have := sizeFields_le_length fs
    simp only [size, dumps, List.length_append, List.length_cons, List.length_nil]
    omega

theorem sizeElems_le_length : ∀ xs : List JValue, sizeElems xs ≤ (dumpsElems xs).length + 1
  | [] => by simp [sizeElems]
  | [x] => by
    have := size_le_length x
    simp only [sizeElems, dumpsElems]
    omega
  | x :: y :: ys => by
    have hx := size_le_length x
    have hys := sizeElems_le_length (y :: ys)
    rw [dumpsElems_cons_cons, sep_toList]
    simp only [sizeElems, List.length_append, List.length_cons, List.length_nil] at hys ⊢
    omega

theorem sizeFields_le_length : ∀ fs : List (Str × JValue), sizeFields fs ≤ (dumpsFields fs).length + 1
  | [] => by simp [sizeFields]
  | [(k, v)] => by
    have := size_le_length v
    simp only [sizeFields, dumpsFields, List.length_append]
    omega
  | (k, v) :: g :: gs => by
    have hv := size_le_length v
    have hgs := sizeFields_le_length (g :: gs)
    rw [dumpsFields_cons_cons, sep_toList]
    simp only [sizeFields, List.length_append, List.length_cons, List.length_nil] at hgs ⊢
    omega

end

/-- `JSON.parse(json.dumps(v))` is `v`. -/
theorem parse_dumps (v : JValue) : parse (dumps v) = some v := by
  have h := parseValue_dumps v ((dumps v).length + 1) [] (by have := size_le_length v; omega)
    noNumHead_nil
  rw [List.append_nil] at h
  rw [parse, h]
  rfl

end JsonText
