import BenchTracker.Decimal.Numeral

/-!
# Numerals that are read back

The digits of a number arise from those of its tenth by one more digit, and what is read off digits
is proved along this recursion.
-/

namespace BenchTracker

namespace Numeral

/-! ## The digits of a number -/

theorem digits_of_lt {n : Nat} (h : n < 10) : digits n = [Nat.digitChar n] :=
  Nat.toDigits_of_lt_base h

theorem digits_of_le {n : Nat} (h : 10 ≤ n) :
    digits n = digits (n / 10) ++ [Nat.digitChar (n % 10)] :=
  Nat.toDigits_of_base_le (by decide) h

/-- Induction on the digits of a number, from the first one to the last one. -/
theorem digits_induction {motive : Nat → List Char → Prop}
    (first : ∀ n < 10, motive n [Nat.digitChar n])
    (next : ∀ n d, 0 < n → d < 10 → motive n (digits n) →
      motive (n * 10 + d) (digits n ++ [Nat.digitChar d]))
    (n : Nat) : motive n (digits n) := by
  induction n using Nat.strongRecOn with
  | ind n ih =>
    rcases Nat.lt_or_ge n 10 with h | h
    · rw [digits_of_lt h]
      exact first n h
    · have hn : n / 10 * 10 + n % 10 = n := by omega
      have hnext := next (n / 10) (n % 10) (by omega) (by omega) (ih (n / 10) (by omega))
      rwa [hn, ← digits_of_le h] at hnext

theorem isDigit_of_mem_digits {n : Nat} {c : Char} (h : c ∈ digits n) : c.isDigit = true :=
  Nat.isDigit_of_mem_toDigits (by decide) (by decide) h

theorem not_mem_digits {c : Char} (h : c.isDigit = false) (n : Nat) : c ∉ digits n := by
  intro hmem
  rw [isDigit_of_mem_digits hmem] at h
  cases h

/-- The first digit is a zero for the number zero only. -/
theorem digits_eq_cons (n : Nat) :
    ∃ c ds, digits n = c :: ds ∧ c.isDigit = true ∧ (c = '0' → n = 0 ∧ ds = []) := by
  have hcons : ∃ c ds, digits n = c :: ds ∧ (c = '0' → n = 0 ∧ ds = []) := by
    refine digits_induction (motive := fun n s =>
      ∃ c ds, s = c :: ds ∧ (c = '0' → n = 0 ∧ ds = [])) ?_ ?_ n
    · intro n _
      exact ⟨_, [], rfl, fun h => ⟨Nat.digitChar_eq_zero.1 h, rfl⟩⟩
    · rintro n d hpos - ⟨c, ds, hds, hzero⟩
      rw [hds]
      refine ⟨c, _, rfl, fun h => ?_⟩
      have hn : n = 0 := (hzero h).1
      omega
  obtain ⟨c, ds, hds, hzero⟩ := hcons
  exact ⟨c, ds, hds, isDigit_of_mem_digits (hds ▸ List.mem_cons_self), hzero⟩

/-! ## Reading them -/

theorem digit?_digitChar {d : Nat} (h : d < 10) : digit? (Nat.digitChar d) = some d := by
  have hall : ∀ d < 10, digit? (Nat.digitChar d) = some d := by decide
  exact hall d h

theorem readDigits_append {limit acc n : Nat} {s : List Char} (t : List Char)
    (h : readDigits limit acc s = .ok n) :
    readDigits limit acc (s ++ t) = readDigits limit n t := by
  induction s generalizing acc with
  | nil =>
    simp only [readDigits, Except.ok.injEq] at h
    rw [List.nil_append, h]
  | cons c r ih =>
    simp only [List.cons_append, readDigits] at h ⊢
    split at h
    · cases h
    · split at h
      · rename_i hlt
        simp only [if_pos hlt]
        exact ih h
      · cases h

theorem readDigits_digits {limit n : Nat} (h : n < limit) :
    readDigits limit 0 (digits n) = .ok n := by
  refine digits_induction (motive := fun n s => n < limit → readDigits limit 0 s = .ok n)
    ?_ ?_ n h
  · intro n hn hlt
    simp [readDigits, digit?_digitChar hn, hlt]
  · intro n d _ hd ih hlt
    rw [readDigits_append _ (ih (by omega))]
    simp [readDigits, digit?_digitChar hd, hlt]

/-- The numeral of a number below the limit is read back. -/
theorem read_digits {limit n : Nat} (h : n < limit) : read limit (digits n) = .ok n := by
  obtain ⟨c, ds, hds, hc, -⟩ := digits_eq_cons n
  have hplus : c ≠ '+' := by
    rintro rfl
    simp at hc
  have hread : read limit (c :: ds) = readDigits limit 0 (c :: ds) := by
    unfold read
    grind
  rw [hds, hread, ← hds, readDigits_digits h]

end Numeral

end BenchTracker
