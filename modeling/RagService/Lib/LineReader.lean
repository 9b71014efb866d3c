import Mathlib.Data.List.Basic

/-!
# Reading a stream line by line

A reader that receives a text in chunks of any size keeps a buffer: it appends each chunk to
the buffer, splits it at the separators, hands the complete lines to a handler in order and
keeps the piece after the last separator for the next chunk. This is the loop

```
buffer += chunk; lines = buffer.split(sep); buffer = lines.pop(); lines.forEach(handle)
```

(`feed`). Splitting is `List.splitOnP`, JavaScript's `split` on a separator.

## What this module delivers

- `splitOnP_append`: splitting carries over a chunk boundary; the pieces of `xs ++ ys` are the
  complete pieces of `xs`, then the pieces of its last piece followed by `ys`;
- `run_eq`: however a text is cut into chunks, the reader hands the handler the same lines, the
  complete lines of the whole text, and keeps its last piece in the buffer;
- `splitOnP_lines`: a text made of lines each ended by a separator splits into those lines and
  an empty last piece, so the reader of such a text hands over exactly its lines (`run_lines`).
-/

set_option autoImplicit false

namespace LineReader

universe u v

variable {α : Type u} {β : Type v} (p : α → Bool)

/-! ## Splitting across a boundary -/

/-- A split always has a last piece. -/
theorem splitOnP_eq_concat (xs : List α) : ∃ P b, xs.splitOnP p = P ++ [b] := by
  rcases List.eq_nil_or_concat (xs.splitOnP p) with h | ⟨P, b, h⟩
  · exact absurd h (List.splitOnP_ne_nil p xs)
  · exact ⟨P, b, by rw [h, List.concat_eq_append]⟩

/-- Splitting carries over a boundary: the pieces of `xs ++ ys` are the complete pieces of
`xs`, then the pieces of the last piece of `xs` followed by `ys`. -/
theorem splitOnP_append {xs : List α} {P : List (List α)} {b : List α}
    (h : xs.splitOnP p = P ++ [b]) (ys : List α) :
    (xs ++ ys).splitOnP p = P ++ (b ++ ys).splitOnP p := by
  induction xs generalizing P b with
  | nil =>
    -- the empty text is one empty piece
    obtain ⟨rfl, rfl⟩ : P = [] ∧ b = [] := by
      have h' : [] ++ [[]] = P ++ [b] := h
      have := List.append_inj' h' rfl
      simpa [eq_comm] using this
    rfl
  | cons x xs ih =>
    obtain ⟨Q, c, hQ⟩ := splitOnP_eq_concat p xs
    rw [List.splitOnP_cons_eq_if_modifyHead, hQ] at h
    rw [List.cons_append, List.splitOnP_cons_eq_if_modifyHead, ih hQ]
    by_cases hx : p x = true
    · -- a separator closes an empty piece
      rw [if_pos hx] at h ⊢
      have h' : ([] :: Q) ++ [c] = P ++ [b] := h
      obtain ⟨rfl, hcb⟩ := List.append_inj' h' rfl
      cases hcb
      rfl
    · -- any other element joins the first piece
      rw [if_neg hx] at h ⊢
      cases Q with
      | nil =>
        have h' : [] ++ [x :: c] = P ++ [b] := h
        obtain ⟨rfl, hcb⟩ := List.append_inj' h' rfl
        cases hcb
        rw [List.cons_append, List.splitOnP_cons_eq_if_modifyHead, if_neg hx]
        rfl
      | cons q Q =>
        have h' : ((x :: q) :: Q) ++ [c] = P ++ [b] := h
        obtain ⟨rfl, hcb⟩ := List.append_inj' h' rfl
        cases hcb
        rfl

/-- A text made of lines, each ended by a separator, splits into those lines and an empty last
piece. -/
theorem splitOnP_lines {sep : α} (hsep : p sep = true) :
    ∀ (ls : List (List α)), (∀ l ∈ ls, ∀ x ∈ l, p x = false) →
      (ls.flatMap (· ++ [sep])).splitOnP p = ls ++ [[]]
  | [], _ => rfl
  | l :: ls, hls => by
    have hl : ∀ x ∈ l, p x = false := hls l List.mem_cons_self
    have hrest := splitOnP_lines hsep ls (fun l' hl' => hls l' (List.mem_cons_of_mem l hl'))
    rw [List.flatMap_cons, List.append_assoc, List.singleton_append,
      List.splitOnP_append_cons_of_forall_mem hl sep hsep, hrest, List.cons_append]

/-! ## The reader -/

variable (f : β → List α → β)

/-- One read: the chunk is appended to the buffer, the complete lines are handed to `f` in
order, and the piece after the last separator stays in the buffer. -/
def feed (st : List α × β) (chunk : List α) : List α × β :=
  let lines := (st.1 ++ chunk).splitOnP p
  (lines.getLastD [], lines.dropLast.foldl f st.2)

/-- The reader has consumed `pre`: its buffer is the last piece of `pre`, and `f` has been
handed the complete lines of `pre`, from `init`. -/
def Consumed (init : β) (pre : List α) (st : List α × β) : Prop :=
  ∃ P, pre.splitOnP p = P ++ [st.1] ∧ st.2 = P.foldl f init

theorem consumed_nil (init : β) : Consumed p f init [] ([], init) := ⟨[], rfl, rfl⟩

/-- One read keeps the reader in step with the text it has received. -/
theorem consumed_feed {init : β} {pre : List α} {st : List α × β} (h : Consumed p f init pre st)
    (chunk : List α) : Consumed p f init (pre ++ chunk) (feed p f st chunk) := by
  obtain ⟨P, hsplit, hst⟩ := h
  obtain ⟨L, b, hL⟩ := splitOnP_eq_concat p (st.1 ++ chunk)
  refine ⟨P ++ L, ?_, ?_⟩
  · rw [splitOnP_append p hsplit, hL, feed, hL, List.getLastD_concat, List.append_assoc]
  · rw [feed, hL, List.dropLast_concat, hst, List.foldl_append]

/-- A run of reads keeps the reader in step with the text it has received. -/
theorem consumed_run {init : β} :
    ∀ (chunks : List (List α)) (pre : List α) (st : List α × β), Consumed p f init pre st →
      Consumed p f init (pre ++ chunks.flatten) (chunks.foldl (feed p f) st)
  | [], pre, st, h => by simpa using h
  | chunk :: chunks, pre, st, h => by
    have := consumed_run chunks (pre ++ chunk) (feed p f st chunk) (consumed_feed p f h chunk)
    simpa [List.append_assoc] using this

/-- However a text is cut into chunks, the reader hands `f` the complete lines of the whole
text, in order, and keeps its last piece in the buffer. -/
theorem run_eq (chunks : List (List α)) (init : β) :
    chunks.foldl (feed p f) ([], init) =
      ((chunks.flatten.splitOnP p).getLastD [], (chunks.flatten.splitOnP p).dropLast.foldl f init) := by
  obtain ⟨P, hsplit, hst⟩ := consumed_run p f chunks [] ([], init) (consumed_nil p f init)
  rw [List.nil_append] at hsplit
  rw [hsplit, List.getLastD_concat, List.dropLast_concat, ← hst]

/-- The reader of a text made of lines, each ended by a separator, hands `f` exactly those
lines, however the text is cut into chunks. -/
theorem run_lines {sep : α} (hsep : p sep = true) {ls : List (List α)}
    (hls : ∀ l ∈ ls, ∀ x ∈ l, p x = false) {chunks : List (List α)}
    (hchunks : chunks.flatten = ls.flatMap (· ++ [sep])) (init : β) :
    chunks.foldl (feed p f) ([], init) = ([], ls.foldl f init) := by
  rw [run_eq, hchunks, splitOnP_lines p hsep ls hls, List.getLastD_concat, List.dropLast_concat]

end LineReader
