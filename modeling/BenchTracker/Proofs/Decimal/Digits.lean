import BenchTracker.Decimal.Reading
import BenchTracker.Proofs.Decimal.Numeral

/-!
# The number that digits denote

Any digits are a numeral, with zeros in front as well. Reading them gives the number that they
denote, unless it reaches the limit.
-/

namespace BenchTracker

/-- Decimal digits, at least one. -/
structure IsNumeral (s : List Char) : Prop where
  ne_nil : s ≠ []
  digits : ∀ c ∈ s, c.isDigit = true

namespace Numeral

variable {limit acc n : Nat} {s : List Char}

theorem digit?_of_isDigit {c : Char} (h : c.isDigit = true) :
    digit? c = some (c.toNat - '0'.toNat) := by
  have hrange : '0' ≤ c ∧ c ≤ '9' := by
    rwa [Char.isDigit, Bool.and_eq_true, decide_eq_true_iff, decide_eq_true_iff] at h
  rw [digit?, if_pos hrange]

/-- The number that digits denote behind a number already read. -/
def shift (acc : Nat) (s : List Char) : Nat :=
  s.foldl (fun n c => n * 10 + (c.toNat - '0'.toNat)) acc

theorem le_shift (acc : Nat) (s : List Char) : acc ≤ shift acc s := by
  induction s generalizing acc with
  | nil => exact Nat.le_refl acc
  | cons c s ih =>
    have hstep : acc ≤ acc * 10 + (c.toNat - '0'.toNat) := by omega
    exact Nat.le_trans hstep (ih _)

theorem readDigits_eq_ok_iff (hacc : acc < limit) (hdigits : ∀ c ∈ s, c.isDigit = true) :
    readDigits limit acc s = .ok n ↔ shift acc s = n ∧ n < limit := by
  induction s generalizing acc with
  | nil =>
    simp only [readDigits, Except.ok.injEq]
    constructor
    · rintro rfl
      exact ⟨rfl, hacc⟩
    · exact fun h => h.1
  | cons c s ih =>
    obtain ⟨hc, hs⟩ := List.forall_mem_cons.1 hdigits
    simp only [readDigits, digit?_of_isDigit hc]
    split
    · rename_i hlt
      exact ih hlt hs
    · rename_i hge
      refine iff_of_false (by rintro ⟨⟩) ?_
      rintro ⟨rfl, hlt⟩
      have hle := le_shift (acc * 10 + (c.toNat - '0'.toNat)) s
      exact hge (Nat.lt_of_le_of_lt hle hlt)

theorem read_eq_ok_iff (hlimit : 0 < limit) (h : IsNumeral s) :
    read limit s = .ok n ↔ Decimal.ofDigits s = n ∧ n < limit := by
  obtain ⟨c, s, rfl⟩ := List.exists_cons_of_ne_nil h.ne_nil
  have hplus : c ≠ '+' := by
    rintro rfl
    exact absurd (h.digits '+' List.mem_cons_self) (by decide)
  have hread : read limit (c :: s) = readDigits limit 0 (c :: s) := by
    unfold read
    grind
  rw [hread]
  exact readDigits_eq_ok_iff hlimit h.digits

/-- Reading a 64-bit number is reading a number below the limit. -/
theorem read64_eq_ok {n : UInt64} : read64 s = .ok n ↔ read limit64 s = .ok n.toNat := by
  rw [read64]
  cases hread : read limit64 s with
  | error fault => simp [Except.map]
  | ok v =>
    have hlt : v < UInt64.size := read_lt (by decide) hread
    simp only [Except.map, Except.ok.injEq]
    constructor
    · rintro rfl
      exact (UInt64.toNat_ofNat_of_lt' hlt).symm
    · rintro rfl
      exact UInt64.ofNat_toNat

/-- A numeral is read as a 64-bit number if and only if it denotes one. -/
theorem read64_eq_ok_iff {n : UInt64} (h : IsNumeral s) :
    read64 s = .ok n ↔ n.toNat = Decimal.ofDigits s := by
  rw [read64_eq_ok, read_eq_ok_iff (by decide) h]
  constructor
  · exact fun hn => hn.1.symm
  · exact fun hn => ⟨hn.symm, n.toNat_lt⟩

/-! ## Signs -/

/-- A text spells a number with digits that denote it. A plus sign may stand in front. -/
inductive Spells : List Char → Nat → Prop where
  | plain {s : List Char} (h : IsNumeral s) : Spells s (Decimal.ofDigits s)
  | plus {s : List Char} (h : IsNumeral s) : Spells ('+' :: s) (Decimal.ofDigits s)

theorem isDigit_of_digit? {c : Char} {d : Nat} (h : digit? c = some d) : c.isDigit = true := by
  rw [digit?] at h
  split at h
  · rename_i hrange
    rwa [Char.isDigit, Bool.and_eq_true, decide_eq_true_iff, decide_eq_true_iff]
  · cases h

/-- Nothing but digits is read. -/
theorem isDigit_of_readDigits (h : readDigits limit acc s = .ok n) :
    ∀ c ∈ s, c.isDigit = true := by
  induction s generalizing acc with
  | nil => exact fun c hc => absurd hc List.not_mem_nil
  | cons c s ih =>
    rw [readDigits] at h
    split at h
    · cases h
    · rename_i d hd
      split at h
      · exact List.forall_mem_cons.2 ⟨isDigit_of_digit? hd, ih h⟩
      · cases h

theorem read_plus (hne : s ≠ []) : read limit ('+' :: s) = readDigits limit 0 s := by
  obtain ⟨c, r, rfl⟩ := List.exists_cons_of_ne_nil hne
  rfl

/-- What is read is what is spelled, as long as it stays below the limit. -/
theorem read_eq_ok_iff_spells (hlimit : 0 < limit) :
    read limit s = .ok n ↔ Spells s n ∧ n < limit := by
  constructor
  · intro h
    refine ⟨?_, read_lt hlimit h⟩
    unfold read at h
    split at h
    · cases h
    · cases h
    · rename_i rest hne
      have hnumeral : IsNumeral rest := ⟨fun hnil => hne (hnil ▸ rfl), isDigit_of_readDigits h⟩
      rw [← ((readDigits_eq_ok_iff hlimit hnumeral.digits).1 h).1]
      exact .plus hnumeral
    · rename_i hne _ _
      have hnumeral : IsNumeral s := ⟨hne, isDigit_of_readDigits h⟩
      rw [← ((readDigits_eq_ok_iff hlimit hnumeral.digits).1 h).1]
      exact .plain hnumeral
  · rintro ⟨hspells, hlt⟩
    cases hspells with
    | plain h => exact (read_eq_ok_iff hlimit h).2 ⟨rfl, hlt⟩
    | plus h =>
      rw [read_plus h.ne_nil]
      exact (readDigits_eq_ok_iff hlimit h.digits).2 ⟨rfl, hlt⟩

theorem read64_eq_ok_iff_spells {n : UInt64} : read64 s = .ok n ↔ Spells s n.toNat := by
  rw [read64_eq_ok, read_eq_ok_iff_spells (by decide)]
  exact and_iff_left n.toNat_lt

/-! ## The numeral of a number -/

theorem isNumeral_digits (n : Nat) : IsNumeral (digits n) := by
  obtain ⟨c, ds, hds, -⟩ := digits_eq_cons n
  exact ⟨hds ▸ List.cons_ne_nil c ds, fun _ => isDigit_of_mem_digits⟩

theorem ofDigits_digits (n : Nat) : Decimal.ofDigits (digits n) = n := by
  have hread := read_digits (Nat.lt_succ_self n)
  exact ((read_eq_ok_iff (Nat.succ_pos n) (isNumeral_digits n)).1 hread).1

end Numeral

end BenchTracker
