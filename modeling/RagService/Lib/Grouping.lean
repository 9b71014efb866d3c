import Mathlib.Data.List.Nodup
import Mathlib.Data.List.Induction
import Mathlib.Data.List.SplitBy

/-!
# Keeping first occurrences and grouping in insertion order

Two loops over a list that Python code writes with a set and a dict:

```
seen = set(); out = []
for x in xs:
    if key(x) not in seen: seen.add(key(x)); out.append(x)

groups = {}
for x in xs:
    if key(x) not in groups: groups[key(x)] = []
    groups[key(x)].append(x)
```

A dict iterates in insertion order, so it is its list of items, and the loops are the folds
`keepFirst` and `groupBy`. Each is shown equal to a statement without the loop:

- `keepFirst_eq`: the loop keeps, for each key in order of first appearance, the first element
  with that key (`firstOccurrences`);
- `groupBy_eq`: the dict holds, for each key in order of first appearance, the elements with that
  key in order (`groupsSpec`).

The keys in order of first appearance are `List.eraseDups` of the keys; `nodup_eraseDups` and
`eraseDups_concat` are what the proofs use of it.

A loop that either extends the last group or opens a new one, by a test on the last element and
the next, builds `List.splitBy` of the list: the maximal runs whose neighbours pass the test.
`splitBy_concat_of_rel` is the step that extends the last run; the step that opens a new run is
Mathlib's `List.splitBy_append`.
-/

set_option autoImplicit false

namespace Grouping

universe u v

variable {α : Type u} {κ : Type v} [DecidableEq κ]

/-! ## Keys in order of first appearance -/

theorem nodup_eraseDups : ∀ (ks : List κ), ks.eraseDups.Nodup
  | [] => List.nodup_nil
  | k :: ks => by
    have hrest := nodup_eraseDups (ks.filter fun b => !b == k)
    rw [List.eraseDups_cons, List.nodup_cons]
    refine ⟨fun hk => ?_, hrest⟩
    -- the rest has no `k` left to keep
    have := (List.mem_filter.1 (List.mem_eraseDups.1 hk)).2
    simp at this
termination_by ks => ks.length
decreasing_by exact Nat.lt_succ_of_le (List.length_filter_le _ _)

/-- A key already seen keeps the order as it is; a new key goes last. -/
theorem eraseDups_concat (ks : List κ) (k : κ) :
    (ks ++ [k]).eraseDups = if k ∈ ks then ks.eraseDups else ks.eraseDups ++ [k] := by
  rw [List.eraseDups_append]
  split
  · rename_i hk
    have hnil : [k].removeAll ks = [] := by simp [List.removeAll, hk]
    rw [hnil, List.eraseDups_nil, List.append_nil]
  · rename_i hk
    have hsingle : [k].removeAll ks = [k] := by simp [List.removeAll, hk]
    rw [hsingle]
    rfl

variable (key : α → κ)

/-! ## The first element of each key -/

/-- For each key in order of first appearance, the first element with that key. -/
def firstOccurrences (l : List α) : List α :=
  (l.map key).eraseDups.filterMap fun k => l.find? (key · = k)

/-- One pass of the loop: an element whose key has not been seen is kept, and its key is seen
from then on. -/
def keepStep (st : List κ × List α) (x : α) : List κ × List α :=
  if key x ∈ st.1 then st else (st.1 ++ [key x], st.2 ++ [x])

/-- The loop, from nothing seen. -/
def keepFirst (l : List α) : List α := (l.foldl (keepStep key) ([], [])).2

/-- Looking up a key that occurs in `l` finds it in `l`, whatever follows. -/
theorem find?_append_of_mem {l : List α} {k : κ} (hk : k ∈ l.map key) (r : List α) :
    (l ++ r).find? (key · = k) = l.find? (key · = k) := by
  obtain ⟨y, hy, hyk⟩ := List.mem_map.1 hk
  obtain ⟨z, hz⟩ := Option.isSome_iff_exists.1
    (List.find?_isSome.2 ⟨y, hy, by simp [hyk]⟩ : (l.find? (key · = k)).isSome)
  rw [List.find?_append, hz]
  rfl

theorem firstOccurrences_concat (l : List α) (x : α) :
    firstOccurrences key (l ++ [x]) =
      if key x ∈ l.map key then firstOccurrences key l else firstOccurrences key l ++ [x] := by
  -- the keys of `l` find the same elements in `l ++ [x]` as in `l`
  have hsame : ∀ k ∈ (l.map key).eraseDups,
      (l ++ [x]).find? (key · = k) = l.find? (key · = k) :=
    fun k hk => find?_append_of_mem key (List.mem_eraseDups.1 hk) [x]
  unfold firstOccurrences
  rw [List.map_append, List.map_singleton, eraseDups_concat]
  split
  · exact List.filterMap_congr hsame
  · rename_i hx
    have hnone : l.find? (key · = key x) = none := by
      rw [List.find?_eq_none]
      intro y hy hyx
      exact hx (List.mem_map.2 ⟨y, hy, by simpa using hyx⟩)
    rw [List.filterMap_append, List.filterMap_congr hsame, List.filterMap_cons, List.filterMap_nil,
      List.find?_append, hnone]
    simp

/-- The loop keeps, for each key in order of first appearance, its first element; the keys it
has seen are the keys in that order. -/
theorem keepFirst_fold (l : List α) :
    l.foldl (keepStep key) ([], []) = ((l.map key).eraseDups, firstOccurrences key l) := by
  induction l using List.reverseRecOn with
  | nil => rfl
  | append_singleton l x ih =>
    rw [List.foldl_append, ih, List.foldl_cons, List.foldl_nil, keepStep,
      List.map_append, List.map_singleton, eraseDups_concat, firstOccurrences_concat]
    by_cases hx : key x ∈ l.map key
    · simp only [List.mem_eraseDups, hx, if_true]
    · simp only [List.mem_eraseDups, hx, if_false]

theorem keepFirst_eq (l : List α) : keepFirst key l = firstOccurrences key l := by
  rw [keepFirst, keepFirst_fold]

/-- The first occurrences have distinct keys. -/
theorem nodup_map_firstOccurrences (l : List α) : ((firstOccurrences key l).map key).Nodup := by
  have hkeys : (firstOccurrences key l).map key = (l.map key).eraseDups := by
    unfold firstOccurrences
    rw [List.map_filterMap, List.filterMap_congr (g := some) ?_, List.filterMap_some]
    intro k hk
    obtain ⟨y, hy, hyk⟩ := List.mem_map.1 (List.mem_eraseDups.1 hk)
    obtain ⟨z, hz⟩ := Option.isSome_iff_exists.1
      (List.find?_isSome.2 ⟨y, hy, by simp [hyk]⟩ : (l.find? (key · = k)).isSome)
    have hzk : key z = k := by simpa using List.find?_some hz
    rw [hz, Option.map_some, hzk]
  rw [hkeys]
  exact nodup_eraseDups _

/-! ## Groups in insertion order -/

/-- `groups.setdefault(k, []).append(x)`, on the dict as its items in insertion order. -/
def addTo (k : κ) (x : α) : List (κ × List α) → List (κ × List α)
  | [] => [(k, [x])]
  | (k', g) :: rest => if k' = k then (k', g ++ [x]) :: rest else (k', g) :: addTo k x rest

/-- The grouping loop, from the empty dict. -/
def groupBy (l : List α) : List (κ × List α) := l.foldl (fun gs x => addTo (key x) x gs) []

/-- For each key in order of first appearance, the elements with that key, in order. -/
def groupsSpec (l : List α) : List (κ × List α) :=
  (l.map key).eraseDups.map fun k => (k, l.filter (key · = k))

/-- Appending to the group of a key among distinct keys. -/
theorem addTo_map (f : κ → List α) (k : κ) (x : α) :
    ∀ (ks : List κ), ks.Nodup →
      addTo k x (ks.map fun k' => (k', f k')) =
        if k ∈ ks then ks.map (fun k' => (k', if k' = k then f k' ++ [x] else f k'))
        else ks.map (fun k' => (k', f k')) ++ [(k, [x])]
  | [], _ => rfl
  | k' :: ks, hks => by
    rw [List.nodup_cons] at hks
    have ih := addTo_map f k x ks hks.2
    rw [List.map_cons, addTo]
    by_cases hk : k' = k
    · -- the group of `k` is the first; the others do not have `k`
      subst hk
      have hrest : ks.map (fun k'' => (k'', if k'' = k' then f k'' ++ [x] else f k'')) =
          ks.map (fun k'' => (k'', f k'')) :=
        List.map_congr_left fun k'' hk'' => by
          rw [if_neg (fun (h : k'' = k') => hks.1 (h ▸ hk''))]
      simp [hrest]
    · rw [if_neg hk, ih]
      by_cases hmem : k ∈ ks
      · simp [hk, hmem]
      · simp [hmem, Ne.symm hk]

theorem groupBy_eq (l : List α) : groupBy key l = groupsSpec key l := by
  induction l using List.reverseRecOn with
  | nil => rfl
  | append_singleton l x ih =>
    have hfold : groupBy key (l ++ [x]) = addTo (key x) x (groupBy key l) := by
      rw [groupBy, List.foldl_append]
      rfl
    rw [hfold, ih, groupsSpec, addTo_map _ _ _ _ (nodup_eraseDups _), groupsSpec,
      List.map_append, List.map_singleton, eraseDups_concat]
    by_cases hx : key x ∈ l.map key
    · -- `x` joins the group of its key
      rw [if_pos (List.mem_eraseDups.2 hx), if_pos hx]
      apply List.map_congr_left
      intro k _
      by_cases hk : k = key x
      · subst hk
        simp
      · simp [hk, Ne.symm hk]
    · -- `x` opens a new group, the last
      rw [if_neg (fun h => hx (List.mem_eraseDups.1 h)), if_neg hx, List.map_append,
        List.map_singleton]
      have hold : ∀ k ∈ (l.map key).eraseDups, (l ++ [x]).filter (key · = k) = l.filter (key · = k) := by
        intro k hk
        have hne : key x ≠ k := fun h => hx (h ▸ List.mem_eraseDups.1 hk)
        simp [List.filter_append, hne]
      have hnew : (l ++ [x]).filter (key · = key x) = [x] := by
        have hnil : l.filter (key · = key x) = [] := by
          rw [List.filter_eq_nil_iff]
          intro y hy hyx
          exact hx (List.mem_map.2 ⟨y, hy, by simpa using hyx⟩)
        simp [List.filter_append, hnil]
      rw [List.map_congr_left fun k hk => congrArg (Prod.mk k) (hold k hk), hnew]

/-- Every group is non-empty, and holds elements of the list with the group's key. -/
theorem mem_groupsSpec {l : List α} {g : κ × List α} (hg : g ∈ groupsSpec key l) :
    g.2 ≠ [] ∧ ∀ x ∈ g.2, x ∈ l ∧ key x = g.1 := by
  obtain ⟨k, hk, rfl⟩ := List.mem_map.1 hg
  obtain ⟨y, hy, hyk⟩ := List.mem_map.1 (List.mem_eraseDups.1 hk)
  refine ⟨List.ne_nil_of_mem (List.mem_filter.2 ⟨hy, by simp [hyk]⟩), fun x hx => ?_⟩
  have hx' := List.mem_filter.1 hx
  exact ⟨hx'.1, by simpa using hx'.2⟩

/-- The groups have distinct keys. -/
theorem nodup_keys_groupsSpec (l : List α) : ((groupsSpec key l).map Prod.fst).Nodup := by
  unfold groupsSpec
  rw [List.map_map]
  have hfst : (Prod.fst ∘ fun k => (k, l.filter (key · = k))) = id := rfl
  rw [hfst, List.map_id]
  exact nodup_eraseDups _

/-! ## Runs of related neighbours -/

section Runs

variable {r : α → α → Bool}

/-- An element related to the last element of the last run joins that run. -/
theorem splitBy_concat_of_rel {l : List α} {G : List (List α)} {g : List α} {a : α}
    (hsplit : l.splitBy r = G ++ [g]) (hg : g ≠ []) (h : r (g.getLast hg) a = true) :
    (l ++ [a]).splitBy r = G ++ [g ++ [a]] := by
  have hflat := List.flatten_splitBy r l
  have hnil := List.nil_notMem_splitBy r l
  have hbound := List.isChain_getLast_head_splitBy r l
  rw [hsplit] at hflat hnil hbound
  have hchain : ∀ m ∈ G ++ [g], m.IsChain fun x y => r x y := fun m hm =>
    List.isChain_of_mem_splitBy (hsplit ▸ hm)
  -- the runs characterise `splitBy`: they flatten to the list, none is empty, each is a chain,
  -- and no run's last element is related to the next run's first
  rw [List.splitBy_eq_iff]
  refine ⟨?_, ?_, ?_, ?_⟩
  · rw [← hflat]
    simp
  · simp only [List.mem_append, List.mem_singleton, not_or] at hnil ⊢
    exact ⟨hnil.1, by simp⟩
  · intro m hm
    rcases List.mem_append.1 hm with hm | hm
    · exact hchain m (List.mem_append_left _ hm)
    · rw [List.mem_singleton] at hm
      subst hm
      rw [List.isChain_append]
      refine ⟨hchain g (by simp), List.isChain_singleton a, ?_⟩
      intro x hx y hy
      rw [List.getLast?_eq_some_getLast hg, Option.mem_some_iff] at hx
      simp only [List.head?_cons, Option.mem_some_iff] at hy
      subst hx hy
      exact h
  · rw [List.isChain_append] at hbound ⊢
    refine ⟨hbound.1, List.isChain_singleton _, ?_⟩
    intro x hx y hy
    simp only [List.head?_cons, Option.mem_some_iff] at hy
    subst hy
    obtain ⟨hx', hg', hr⟩ := hbound.2.2 x hx g (by simp)
    exact ⟨hx', by simp, by simpa [List.head_append_of_ne_nil hg] using hr⟩

end Runs

end Grouping
