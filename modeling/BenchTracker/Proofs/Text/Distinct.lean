import BenchTracker.Text.Distinct
import Mathlib.Algebra.BigOperators.Group.List.Lemmas
import Mathlib.Data.Set.Card

/-!
# The order and the number of distinct items

The distinct items of a list stand in the order of their first occurrences, and together they occur
as often as the list is long.
-/

namespace BenchTracker

variable {α : Type} [DecidableEq α]

/-- An item at the end is a new one only if it does not occur in front. -/
theorem distinct_append_singleton (xs : List α) (x : α) :
    distinct (xs ++ [x]) = if x ∈ xs then distinct xs else distinct xs ++ [x] := by
  induction xs with
  | nil => rfl
  | cons y rest ih =>
    rw [List.cons_append, distinct, ih, distinct]
    by_cases hrest : x ∈ rest
    · rw [if_pos hrest, if_pos (List.mem_cons_of_mem y hrest)]
    · rw [if_neg hrest, List.filter_append]
      by_cases hxy : x = y
      · subst x
        simp
      · simp [hxy, hrest]

theorem pairwise_idxOf_distinct (xs : List α) :
    (distinct xs).Pairwise fun a b => xs.idxOf a < xs.idxOf b := by
  induction xs with
  | nil => exact .nil
  | cons y rest ih =>
    have hbehind {b : α} (hb : b ∈ (distinct rest).filter (· ≠ y)) :
        (y :: rest).idxOf b = rest.idxOf b + 1 := by
      have hne : b ≠ y := by simpa using (List.mem_filter.1 hb).2
      exact List.idxOf_cons_ne rest hne.symm
    rw [distinct, List.pairwise_cons]
    constructor
    · intro b hb
      rw [hbehind hb, List.idxOf_cons_self]
      omega
    · refine (ih.filter _).imp_of_mem ?_
      intro a b ha hb hlt
      rw [hbehind ha, hbehind hb]
      omega

theorem perm_distinct_dedup (xs : List α) : (distinct xs).Perm xs.dedup := by
  rw [List.perm_ext_iff_of_nodup (nodup_distinct xs) (List.nodup_dedup xs)]
  intro x
  rw [mem_distinct, List.mem_dedup]

theorem sum_count_distinct (xs : List α) : ((distinct xs).map xs.count).sum = xs.length := by
  rw [((perm_distinct_dedup xs).map xs.count).sum_eq]
  exact List.sum_map_count_dedup_eq_length xs

theorem encard_setOf_mem (xs : List α) : {x | x ∈ xs}.encard = (distinct xs).length := by
  have hset : {x | x ∈ xs} = (xs.toFinset : Set α) := by
    ext x
    simp
  rw [hset, Set.encard_coe_eq_coe_finsetCard, List.card_toFinset,
    (perm_distinct_dedup xs).length_eq]

theorem length_distinct_le (xs : List α) : (distinct xs).length ≤ xs.length := by
  rw [(perm_distinct_dedup xs).length_eq]
  exact (List.dedup_sublist xs).length_le

/-- Only where an item occurs again are there fewer distinct items. -/
theorem length_distinct_eq_iff {xs : List α} : (distinct xs).length = xs.length ↔ xs.Nodup := by
  rw [(perm_distinct_dedup xs).length_eq, ← List.dedup_eq_self]
  constructor
  · intro hlength
    exact (List.dedup_sublist xs).eq_of_length hlength
  · intro hself
    rw [hself]

end BenchTracker
