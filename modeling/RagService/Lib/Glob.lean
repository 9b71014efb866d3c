import Mathlib.Data.List.Basic

/-!
# Redis glob patterns

`KEYS pattern` returns the keys the pattern matches under Redis's `stringmatchlen`: `*` matches
any run of characters, `?` any one character, `[...]` one character of a class (with `^` for
its complement, `a-z` for a range and `\` to escape), and `\` escapes the next character of the
pattern; every other character matches itself. `globMatch` follows the C loop case by case,
including its edges: a `*` is only tried against non-empty rests of the key, so `*` alone does
not match the empty key.

The matcher works on characters where Redis works on bytes; the two agree on the patterns and
keys below, whose special characters are ASCII.

- `globMatch_literal_star`: a text without special characters followed by `*` matches exactly
  the keys that start with the text. A key prefix built from a caller's string and then `*`
  selects that much, and no less, when the string has no special character.
-/

set_option autoImplicit false

namespace Glob

/-- A character a pattern gives a meaning of its own. -/
def special (c : Char) : Bool := c == '*' || c == '?' || c == '[' || c == '\\'

/-- The range `a-b` of a class holds `c`; the ends may come in either order. -/
def inRange (a b c : Char) : Bool :=
  decide (min a.toNat b.toNat ≤ c.toNat) && decide (c.toNat ≤ max a.toNat b.toNat)

/-- The items of a class after `[` (and `^`), read up to its `]`: whether `c` is among them, and
the pattern after the class. An unterminated class runs to the end of the pattern. -/
def classItems (c : Char) : List Char → Bool → Bool × List Char
  | '\\' :: d :: rest, m => classItems c rest (m || d == c)
  | ']' :: rest, m => (m, rest)
  | [], m => (m, [])
  | a :: '-' :: b :: rest, m => classItems c rest (m || inRange a b c)
  | a :: rest, m => classItems c rest (m || a == c)

theorem classItems_length_le (c : Char) (p : List Char) (m : Bool) :
    (classItems c p m).2.length ≤ p.length := by
  fun_induction classItems c p m with
  | case1 d rest m ih => simp only [List.length_cons]; omega
  | case2 rest m => simp
  | case3 m => simp
  | case4 a b rest m _ ih => simp only [List.length_cons]; omega
  | case5 a rest m _ _ ih => simp only [List.length_cons]; omega

/-- The pattern is used up once the key is: only `*`s are left. -/
def restMatchesEmpty (p : List Char) : Bool := (p.dropWhile (· == '*')).isEmpty

theorem length_dropWhile_le (p : List Char) : (p.dropWhile (· == '*')).length ≤ p.length :=
  (List.dropWhile_suffix _).length_le

/-- `stringmatchlen(pattern, key)`. After a character of the key is matched, an exhausted key
leaves the rest of the pattern to `restMatchesEmpty`. -/
def globMatch : List Char → List Char → Bool
  | [], s => s.isEmpty
  | _ :: _, [] => false
  | '*' :: p, c :: s =>
    if restMatchesEmpty p then true
    else (List.range (s.length + 1)).any fun k => globMatch (p.dropWhile (· == '*')) ((c :: s).drop k)
  | '?' :: p, _ :: s => if s.isEmpty then restMatchesEmpty p else globMatch p s
  | '[' :: p, c :: s =>
    let neg := p.head? == some '^'
    let r := classItems c (if neg then p.tail else p) false
    if r.1 != neg then (if s.isEmpty then restMatchesEmpty r.2 else globMatch r.2 s) else false
  | '\\' :: d :: p, c :: s =>
    if d == c then (if s.isEmpty then restMatchesEmpty p else globMatch p s) else false
  | d :: p, c :: s => if d == c then (if s.isEmpty then restMatchesEmpty p else globMatch p s) else false
termination_by p => p.length
decreasing_by
  all_goals simp_wf
  -- how many goals simp_wf leaves depends on the simp set in scope, so each is tried in turn
  all_goals first
    | omega
    | -- past the run of `*`s
      have := length_dropWhile_le p
      omega
    | -- past the class
      have hclass := classItems_length_le c (if p.head? = some '^' then p.tail else p) false
      have htail : (if p.head? = some '^' then p.tail else p).length ≤ p.length := by
        split <;> simp
      omega

example : globMatch "answer:a:*".toList "answer:a:x:12".toList = true := by decide +kernel

example : globMatch "a[bc]?".toList "acd".toList = true ∧
    globMatch "a[^bc]?".toList "acd".toList = false := by
  decide +kernel

/-! ## Literal prefixes -/

/-- A character without a meaning of its own matches itself. -/
theorem globMatch_literal_cons {d c : Char} {p s : List Char} (hd : special d = false) :
    globMatch (d :: p) (c :: s) =
      if d == c then (if s.isEmpty then restMatchesEmpty p else globMatch p s) else false := by
  simp only [special, Bool.or_eq_false_iff, beq_eq_false_iff_ne] at hd
  obtain ⟨⟨⟨h1, h2⟩, h3⟩, h4⟩ := hd
  rw [globMatch.eq_def]
  split <;> simp_all

theorem globMatch_star_cons (c : Char) (s : List Char) : globMatch ['*'] (c :: s) = true := by
  rw [globMatch]
  rfl

theorem restMatchesEmpty_of_literal {d : Char} {p : List Char} (hd : special d = false) :
    restMatchesEmpty (d :: p) = false := by
  have hstar : (d == '*') = false := by
    simp only [special, Bool.or_eq_false_iff] at hd
    exact hd.1.1.1
  simp [restMatchesEmpty, hstar]

/-- A text without special characters followed by `*` matches exactly the keys that start with
the text. -/
theorem globMatch_literal_star {p : List Char} (hne : p ≠ []) (hp : ∀ c ∈ p, special c = false)
    (s : List Char) : globMatch (p ++ ['*']) s = p.isPrefixOf s := by
  induction p generalizing s with
  | nil => exact absurd rfl hne
  | cons d p ih =>
    have hd := hp d List.mem_cons_self
    cases s with
    | nil =>
      rw [List.cons_append, globMatch]
      rfl
    | cons c s =>
      rw [List.cons_append, globMatch_literal_cons hd, List.isPrefixOf_cons_cons]
      cases hdc : d == c with
      | false => rfl
      | true =>
        simp only [Bool.true_and, if_true]
        cases p with
        | nil =>
          cases s with
          | nil => rfl
          | cons c' s' => exact globMatch_star_cons c' s'
        | cons e p =>
          have he := hp e (List.mem_cons_of_mem d List.mem_cons_self)
          cases s with
          | nil =>
            rw [List.cons_append, restMatchesEmpty_of_literal he]
            rfl
          | cons c' s' =>
            exact ih (List.cons_ne_nil e p) (fun x hx => hp x (List.mem_cons_of_mem d hx)) (c' :: s')

end Glob
