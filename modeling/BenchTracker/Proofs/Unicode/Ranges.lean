import BenchTracker.Unicode.Ranges

/-!
# Sets made of ranges

Ranges in ascending order are searched up to the first one that starts too late. Putting together
ranges in any order gives such a list, with the code points of all of them and no others.
-/

namespace BenchTracker

namespace Unicode

namespace Ranges

variable {n least : Nat} {r : Nat × Nat} {a b : Ranges}

/-- The code point lies in one of the ranges. -/
def Covers (rs : List (Nat × Nat)) (n : Nat) : Prop := ∃ r ∈ rs, r.1 ≤ n ∧ n ≤ r.2

theorem covers_cons : Covers (r :: a) n ↔ (r.1 ≤ n ∧ n ≤ r.2) ∨ Covers a n := by
  simp [Covers]

theorem covers_append : Covers (a ++ b) n ↔ Covers a n ∨ Covers b n := by
  simp [Covers, or_and_right, exists_or]

/-- The ranges are not empty and each one starts behind the ranges in front of it. -/
inductive Ascending : Nat → Ranges → Prop where
  | nil {least : Nat} : Ascending least []
  | cons {least : Nat} {r : Nat × Nat} {a : Ranges} (start : least ≤ r.1) (order : r.1 ≤ r.2)
    (rest : Ascending (r.2 + 1) a) : Ascending least (r :: a)

theorem Ascending.start_le {least' : Nat} (h : Ascending least a) (hle : least' ≤ least) :
    Ascending least' a := by
  cases h with
  | nil => exact .nil
  | cons start order rest => exact .cons (Nat.le_trans hle start) order rest

theorem Ascending.le_of_covers (h : Ascending least a) (hn : Covers a n) : least ≤ n := by
  induction h with
  | nil => simp [Covers] at hn
  | cons start order rest ih =>
    rcases covers_cons.1 hn with hhead | hrest
    · omega
    · have := ih hrest
      omega

theorem contains_iff_covers (h : Ascending least a) : a.contains n = true ↔ Covers a n := by
  induction h with
  | nil => simp [contains, Covers]
  | @cons least r a start order rest ih =>
    rw [contains, covers_cons, ← ih]
    split
    · -- The search ends here, and all further ranges start even later.
      rename_i hlt
      have hnot : ¬ a.contains n = true := fun hn => by
        have hle := rest.le_of_covers (ih.1 hn)
        omega
      refine iff_of_false Bool.false_ne_true ?_
      rintro (hhead | hn)
      · omega
      · exact hnot hn
    · simp only [Bool.or_eq_true, decide_eq_true_eq]
      rename_i hle
      have hfirst : r.1 ≤ n := by omega
      simp [hfirst]

theorem ascending_push (hr : r.1 ≤ r.2) (h : Ascending r.1 a) : Ascending r.1 (push r a) := by
  induction a generalizing r with
  | nil => exact .cons (Nat.le_refl _) hr .nil
  | cons s rest ih =>
    rw [push]
    cases h with
    | cons start order hrest =>
      split
      · exact ih (r := (r.1, max r.2 s.2)) (by omega) (hrest.start_le (by omega))
      · exact .cons (Nat.le_refl _) hr (.cons (by omega) order hrest)

/-- Ranges that are joined have no gap between them. -/
theorem covers_push (hr : r.1 ≤ r.2) (h : Ascending r.1 a) :
    Covers (push r a) n ↔ (r.1 ≤ n ∧ n ≤ r.2) ∨ Covers a n := by
  induction a generalizing r with
  | nil => rw [push, covers_cons]
  | cons s rest ih =>
    rw [push]
    cases h with
    | cons start order hrest =>
      split
      · rw [ih (r := (r.1, max r.2 s.2)) (by omega) (hrest.start_le (by omega)), covers_cons]
        grind
      · rw [covers_cons]

/-- The ranges by their starts, joined from the last one on. -/
theorem foldr_push {rs : List (Nat × Nat)} (horder : ∀ r ∈ rs, r.1 ≤ r.2)
    (hsorted : rs.Pairwise fun r s => r.1 ≤ s.1) (hleast : ∀ r ∈ rs, least ≤ r.1) :
    Ascending least (rs.foldr push []) ∧ ∀ n, Covers (rs.foldr push []) n ↔ Covers rs n := by
  induction rs generalizing least with
  | nil => exact ⟨.nil, fun n => Iff.rfl⟩
  | cons r rest ih =>
    obtain ⟨hfirst, hsorted⟩ := List.pairwise_cons.1 hsorted
    obtain ⟨hr, horder⟩ := List.forall_mem_cons.1 horder
    obtain ⟨hascending, hcovers⟩ := ih horder hsorted hfirst
    refine ⟨(ascending_push hr hascending).start_le (hleast r List.mem_cons_self), fun n => ?_⟩
    rw [List.foldr_cons, covers_push hr hascending, hcovers, covers_cons]

theorem ascending_ofRanges (rs : List (Nat × Nat)) :
    Ascending 0 (ofRanges rs) ∧ ∀ n, Covers (ofRanges rs) n ↔ Covers rs n := by
  let sorted := (rs.filter fun r => r.1 ≤ r.2).mergeSort fun a b => a.1 ≤ b.1
  have hmem (r : Nat × Nat) : r ∈ sorted ↔ r ∈ rs ∧ r.1 ≤ r.2 := by
    simp only [sorted, List.mem_mergeSort, List.mem_filter, decide_eq_true_eq]
  have hsorted : sorted.Pairwise fun r s => r.1 ≤ s.1 := by
    have hpairwise : sorted.Pairwise fun r s => decide (r.1 ≤ s.1) = true :=
      List.pairwise_mergeSort
        (fun a b c hab hbc => by simp only [decide_eq_true_eq] at *; omega)
        (fun a b => by simp only [Bool.or_eq_true, decide_eq_true_eq]; omega) _
    simpa only [decide_eq_true_eq] using hpairwise
  obtain ⟨hascending, hcovers⟩ := foldr_push (fun r hr => ((hmem r).1 hr).2) hsorted
    fun r _ => Nat.zero_le r.1
  refine ⟨hascending, fun n => (hcovers n).trans ?_⟩
  simp only [Covers, hmem]
  grind

theorem contains_ofRanges (rs : List (Nat × Nat)) :
    (ofRanges rs).contains n = true ↔ Covers rs n :=
  (contains_iff_covers (ascending_ofRanges rs).1).trans ((ascending_ofRanges rs).2 n)

theorem contains_union : (a.union b).contains n = true ↔ Covers a n ∨ Covers b n := by
  rw [union, contains_ofRanges, covers_append]

/-- Between the ranges lie the code points that they do not cover. -/
theorem contains_gaps (h : Ascending least a) (hn : n ≤ last) :
    (gaps least a).contains n = true ↔ least ≤ n ∧ ¬ Covers a n := by
  induction h with
  | @nil least =>
    rw [gaps]
    split
    · simp [contains, Covers, hn]
    · simp [contains, Covers]
      omega
  | @cons least r a start order rest ih =>
    have hbehind : Covers a n → r.2 + 1 ≤ n := rest.le_of_covers
    rw [gaps, covers_cons]
    split
    · simp only [contains]
      split
      · simp only [Bool.false_eq_true, false_iff]
        omega
      · simp only [Bool.or_eq_true, decide_eq_true_eq, ih]
        grind
    · rw [ih]
      grind

theorem contains_complement (hn : n ≤ last) :
    a.complement.contains n = true ↔ ¬ Covers a n ∧ ¬ Covers surrogates n := by
  obtain ⟨hascending, hcovers⟩ := ascending_ofRanges (a ++ surrogates)
  rw [complement, union, contains_gaps hascending hn, hcovers, covers_append]
  simp

end Ranges

end Unicode

end BenchTracker
