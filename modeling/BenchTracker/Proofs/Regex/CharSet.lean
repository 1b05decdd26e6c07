import BenchTracker.Proofs.Unicode.Ranges
import BenchTracker.Regex.CharSet

/-!
# Sets closed under case

A set is closed under case by adding the classes that meet it. For a set of ASCII characters the
classes of the letters `a` to `z` are enough, since all others begin behind the ASCII characters.
-/

namespace BenchTracker

namespace Unicode

/-- Two characters differ in case only, if they differ at all. -/
def FoldTogether (m n : Nat) : Prop := m = n ∨ ∃ c ∈ foldingClasses, m ∈ c ∧ n ∈ c

theorem foldTogether_refl (n : Nat) : FoldTogether n n := .inl rfl

theorem le_of_mem_largeClasses : ∀ c ∈ largeClasses, ∀ n ∈ c, 128 ≤ n := by decide

/-- The classes in the table follow one another from the end of the ASCII characters on. -/
theorem le_of_mem_pairClasses : ∀ c ∈ pairClasses, ∀ n ∈ c, 128 ≤ n := by
  let step := fun (acc : Nat × List (List Nat)) (p : Nat × Nat) =>
    (acc.1 + p.1, [acc.1 + p.1, acc.1 + p.1 + p.2] :: acc.2)
  have hfold (ps : List (Nat × Nat)) (acc : Nat × List (List Nat)) (hacc : 128 ≤ acc.1)
      (hclasses : ∀ c ∈ acc.2, ∀ n ∈ c, 128 ≤ n) :
      ∀ c ∈ (ps.foldl step acc).2, ∀ n ∈ c, 128 ≤ n := by
    induction ps generalizing acc with
    | nil => exact hclasses
    | cons p rest ih =>
      refine ih (step acc p) (Nat.le_trans hacc (Nat.le_add_right _ _)) ?_
      rintro c hc n hn
      rcases List.mem_cons.1 hc with rfl | hc
      · simp only [List.mem_cons, List.not_mem_nil, or_false] at hn
        omega
      · exact hclasses c hc n hn
  intro c hc
  refine hfold (pairUp (numbers pairTable)) (128, []) (Nat.le_refl _) (by simp) c ?_
  exact List.mem_reverse.1 hc

theorem mem_latinClasses {c : List Nat} {n : Nat} (hc : c ∈ foldingClasses) (hn : n ∈ c)
    (hlt : n < 128) : c ∈ latinClasses := by
  simp only [foldingClasses, List.mem_append] at hc
  rcases hc with (hc | hc) | hc
  · exact hc
  · have := le_of_mem_largeClasses c hc n hn
    omega
  · have := le_of_mem_pairClasses c hc n hn
    omega

end Unicode

namespace Regex

namespace CharSet

open Unicode (FoldTogether foldingClasses latinClasses)
open Unicode.Ranges (Ascending Covers)

variable {a : CharSet} {m n least : Nat}

theorem ascending_single (n : Nat) : Ascending 0 (single n) :=
  .cons (Nat.zero_le _) (Nat.le_refl _) .nil

theorem covers_single : Covers (single n) m ↔ n = m := by
  simp only [Covers, single, List.mem_singleton, exists_eq_left]
  omega

theorem contains_addClasses (h : Ascending least a) (classes : List (List Nat)) :
    (a.addClasses classes).contains m = true ↔
      Covers a m ∨ ∃ c ∈ classes, m ∈ c ∧ ∃ n ∈ c, Covers a n := by
  rw [addClasses, Unicode.Ranges.contains_union]
  have hadded : Covers ((classes.filter (·.any a.contains)).flatMap fun c => c.map fun n => (n, n))
      m ↔ ∃ c ∈ classes, m ∈ c ∧ ∃ n ∈ c, Covers a n := by
    simp only [Covers, List.mem_flatMap, List.mem_filter, List.any_eq_true, List.mem_map,
      Unicode.Ranges.contains_iff_covers h]
    constructor
    · rintro ⟨-, ⟨c, ⟨hc, hmeets⟩, n, hn, rfl⟩, hfirst, hlast⟩
      obtain rfl : n = m := by omega
      exact ⟨c, hc, hn, hmeets⟩
    · rintro ⟨c, hc, hm, hmeets⟩
      exact ⟨(m, m), ⟨c, ⟨hc, hmeets⟩, m, hm, rfl⟩, Nat.le_refl _, Nat.le_refl _⟩
  rw [hadded]

/-- Closing a set under case adds just the characters that fold together with one of it. -/
theorem contains_fold (h : Ascending least a) :
    a.fold.contains m = true ↔ ∃ n, Covers a n ∧ FoldTogether n m := by
  have hclasses : (∃ c ∈ if a.isAscii then latinClasses else foldingClasses,
      m ∈ c ∧ ∃ n ∈ c, Covers a n) ↔ ∃ c ∈ foldingClasses, m ∈ c ∧ ∃ n ∈ c, Covers a n := by
    split
    · rename_i hascii
      constructor
      · rintro ⟨c, hc, hrest⟩
        exact ⟨c, List.mem_append_left _ (List.mem_append_left _ hc), hrest⟩
      · rintro ⟨c, hc, hm, n, hn, r, hr, hrange⟩
        have hlast : r.2 < 128 := of_decide_eq_true (List.all_eq_true.1 hascii r hr)
        exact ⟨c, Unicode.mem_latinClasses hc hn (by omega), hm, n, hn, r, hr, hrange⟩
    · rfl
  rw [fold, contains_addClasses h, hclasses]
  constructor
  · rintro (hm | ⟨c, hc, hm, n, hn, hcovers⟩)
    · exact ⟨m, hm, .inl rfl⟩
    · exact ⟨n, hcovers, .inr ⟨c, hc, hn, hm⟩⟩
  · rintro ⟨n, hcovers, rfl | ⟨c, hc, hn, hm⟩⟩
    · exact .inl hcovers
    · exact .inr ⟨c, hc, hm, n, hn, hcovers⟩

theorem contains_fold_single : (single n).fold.contains m = true ↔ FoldTogether n m := by
  simp only [contains_fold (ascending_single n), covers_single, exists_eq_left']

end CharSet

end Regex

end BenchTracker
