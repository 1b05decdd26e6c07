import BenchTracker.Json.Printer
import BenchTracker.Json.Shape
import BenchTracker.Proofs.Decimal.Numeral
import Mathlib.Data.List.TakeWhile

/-!
# Numbers that are read back

A number is read up to the first character that cannot belong to it. What stands behind makes no
difference, so it suffices to know how a number is read that stands alone.
-/

namespace BenchTracker

@[simp] theorem toOption_bind {ε α β : Type} (x : Except ε α) (f : α → Except ε β) :
    (x >>= f).toOption = x.toOption.bind fun a => (f a).toOption := by
  cases x <;> rfl

@[simp] theorem toOption_map {ε α β : Type} (f : α → β) (x : Except ε α) :
    (x.map f).toOption = x.toOption.map f := by
  cases x <;> rfl

theorem toOption_eq_some {ε α : Type} {x : Except ε α} {a : α} :
    x.toOption = some a ↔ x = .ok a := by
  cases x <;> simp [Except.toOption]

theorem bind_eq_ok {ε α β : Type} {x : Except ε α} {f : α → Except ε β} {b : β} :
    (x >>= f) = .ok b ↔ ∃ a, x = .ok a ∧ f a = .ok b := by
  cases x <;> simp [bind, Except.bind]

namespace Json

namespace Reader

/-! ## The end of a number -/

/-- No number goes on with this text. -/
def EndsNumber (r : List Char) : Prop :=
  ∀ c ∈ r.head?, c.isDigit = false ∧ c ≠ '.' ∧ isExponentMark c = false

theorem endsNumber_nil : EndsNumber [] := by
  intro c hc
  cases hc

theorem endsNumber_cons {c : Char} {r : List Char} :
    EndsNumber (c :: r) ↔ c.isDigit = false ∧ c ≠ '.' ∧ isExponentMark c = false := by
  simp [EndsNumber]

theorem spanDigits_append (s : List Char) {r : List Char} (hr : EndsNumber r) :
    Decimal.spanDigits (s ++ r) =
      ((Decimal.spanDigits s).1, (Decimal.spanDigits s).2 ++ r) := by
  have hnone : r.takeWhile Char.isDigit = [] ∧ r.dropWhile Char.isDigit = r := by
    cases r with
    | nil => exact ⟨rfl, rfl⟩
    | cons c r => simp [(endsNumber_cons.1 hr).1]
  induction s with
  | nil => simp [Decimal.spanDigits, hnone]
  | cons c s ih =>
    simp only [Decimal.spanDigits, Prod.mk.injEq] at ih ⊢
    cases hc : c.isDigit <;> simp [hc, ih]

theorem someDigits_append {s ds rest r : List Char} (hr : EndsNumber r)
    (h : someDigits s = .ok (ds, rest)) : someDigits (s ++ r) = .ok (ds, rest ++ r) := by
  cases s with
  | nil => cases h
  | cons c s =>
    simp only [someDigits] at h
    split at h
    · rename_i hc
      cases h
      simp only [List.cons_append, someDigits, if_pos hc]
      rw [← List.cons_append, spanDigits_append _ hr]
      rfl
    · cases h

theorem wholeDigits_cons_cons (c d : Char) (s : List Char) :
    wholeDigits (c :: d :: s) =
      if c = '0' then if d.isDigit then .error .malformed else .ok (['0'], d :: s)
      else someDigits (c :: d :: s) := by
  by_cases hc : c = '0'
  · subst c
    rfl
  · rw [if_neg hc]
    unfold wholeDigits
    split
    · simp_all
    · rfl

theorem wholeDigits_append {s ds rest r : List Char} (hr : EndsNumber r)
    (h : wholeDigits s = .ok (ds, rest)) : wholeDigits (s ++ r) = .ok (ds, rest ++ r) := by
  rcases s with _ | ⟨c, _ | ⟨d, s⟩⟩
  · cases h
  · -- The digit stands alone, and what follows is no digit.
    have hone : someDigits [c] = .ok (ds, rest) := by
      unfold wholeDigits at h
      grind
    rw [List.singleton_append]
    cases r with
    | nil => simpa using h
    | cons e r =>
      have he : e.isDigit = false := (endsNumber_cons.1 hr).1
      rw [wholeDigits_cons_cons]
      by_cases hc : c = '0'
      · subst c
        cases hone
        simp [he]
      · rw [if_neg hc]
        exact someDigits_append hr hone
  · rw [List.cons_append, List.cons_append, wholeDigits_cons_cons]
    rw [wholeDigits_cons_cons] at h
    split
    · rename_i hc
      rw [if_pos hc] at h
      split at h
      · cases h
      · rename_i hd
        cases h
        rw [if_neg hd]
        rfl
    · rename_i hc
      rw [if_neg hc] at h
      exact someDigits_append hr h

theorem fractionPart_append {s rest r : List Char} {x : Option (List Char)} (hr : EndsNumber r)
    (h : fractionPart s = .ok (x, rest)) : fractionPart (s ++ r) = .ok (x, rest ++ r) := by
  cases s with
  | nil =>
    cases h
    cases r with
    | nil => rfl
    | cons c r =>
      have hpoint := (endsNumber_cons.1 hr).2.1
      unfold fractionPart
      grind
  | cons c s =>
    by_cases hpoint : c = '.'
    · subst c
      rw [List.cons_append]
      simp only [fractionPart] at h ⊢
      obtain ⟨⟨ds, t⟩, hds, h⟩ := bind_eq_ok.1 h
      cases h
      rw [someDigits_append hr hds]
      rfl
    · have hplain (t : List Char) : fractionPart (c :: t) = .ok (none, c :: t) := by
        unfold fractionPart
        grind
      rw [hplain] at h
      cases h
      exact hplain _

theorem exponentPart_append {s rest r : List Char} {x : Option (Bool × List Char)}
    (hr : EndsNumber r) (h : exponentPart s = .ok (x, rest)) :
    exponentPart (s ++ r) = .ok (x, rest ++ r) := by
  cases s with
  | nil =>
    cases h
    cases r with
    | nil => rfl
    | cons c r => simp [exponentPart, (endsNumber_cons.1 hr).2.2]
  | cons c s =>
    rw [List.cons_append]
    simp only [exponentPart] at h ⊢
    split at h
    · rename_i hc
      rw [if_pos hc]
      obtain ⟨⟨ds, t⟩, hds, h⟩ := bind_eq_ok.1 h
      cases h
      have hsign : exponentSign (s ++ r) = ((exponentSign s).1, (exponentSign s).2 ++ r) := by
        cases s with
        | nil => cases hds
        | cons d s =>
          rw [List.cons_append]
          unfold exponentSign
          grind
      rw [hsign]
      simp only [someDigits_append hr hds]
      rfl
    · rename_i hc
      cases h
      rw [if_neg hc]
      rfl

theorem numberText_append {s rest r : List Char} {x : NumberText} (hr : EndsNumber r)
    (h : numberText s = .ok (x, rest)) : numberText (s ++ r) = .ok (x, rest ++ r) := by
  obtain ⟨⟨whole, s₁⟩, hwhole, h⟩ := bind_eq_ok.1 h
  obtain ⟨⟨fraction, s₂⟩, hfraction, h⟩ := bind_eq_ok.1 h
  obtain ⟨⟨exponent, s₃⟩, hexponent, h⟩ := bind_eq_ok.1 h
  cases h
  simp only [numberText, wholeDigits_append hr hwhole, fractionPart_append hr hfraction,
    exponentPart_append hr hexponent, bind, Except.bind]

/-- Reads a number behind its sign. -/
def behindSign (negative : Bool) : Reader Number := fun s => do
  let (t, r) ← numberText s
  let x ← t.value negative
  .ok (x, r)

theorem number_of_ne {c : Char} (h : c ≠ '-') (s : List Char) :
    number (c :: s) = behindSign false (c :: s) := by
  unfold number behindSign
  split
  grind

theorem behindSign_append {negative : Bool} {s rest r : List Char} {x : Number}
    (hr : EndsNumber r) (h : behindSign negative s = .ok (x, rest)) :
    behindSign negative (s ++ r) = .ok (x, rest ++ r) := by
  obtain ⟨⟨t, s₁⟩, htext, h⟩ := bind_eq_ok.1 h
  obtain ⟨y, hvalue, h⟩ := bind_eq_ok.1 h
  cases h
  simp only [behindSign, numberText_append hr htext, bind, Except.bind, hvalue]

theorem number_append {s rest r : List Char} {x : Number} (hr : EndsNumber r)
    (h : number s = .ok (x, rest)) : number (s ++ r) = .ok (x, rest ++ r) := by
  cases s with
  | nil => cases h
  | cons c s =>
    by_cases hc : c = '-'
    · subst c
      exact behindSign_append hr h
    · rw [number_of_ne hc] at h
      rw [List.cons_append, number_of_ne hc]
      exact behindSign_append hr h

/-! ## The digits of a natural number -/

theorem digitValue_digitChar {d : Nat} (h : d < 10) : digitValue (Nat.digitChar d) = d := by
  have hall : ∀ d < 10, digitValue (Nat.digitChar d) = d := by decide
  exact hall d h

/-- No digit of a 64-bit number is left out. -/
theorem ofWhole_digits {n : Nat} (h : n < Numeral.limit64) :
    Significand.ofWhole (Numeral.digits n) = ⟨n, 0, false⟩ := by
  refine Numeral.digits_induction (motive := fun n s =>
    n < Numeral.limit64 → Significand.ofWhole s = ⟨n, 0, false⟩) ?_ ?_ n h
  · intro n hn hlt
    simp [Significand.ofWhole, Significand.addWhole, digitValue_digitChar hn, hlt]
  · intro n d _ hd ih hlt
    rw [Significand.ofWhole] at ih ⊢
    rw [List.foldl_append, ih (by omega)]
    simp [Significand.addWhole, digitValue_digitChar hd, hlt]

theorem wholeDigits_digits (n : Nat) :
    wholeDigits (Numeral.digits n) = .ok (Numeral.digits n, []) := by
  have hsome : someDigits (Numeral.digits n) = .ok (Numeral.digits n, []) := by
    obtain ⟨c, ds, hds, hc, -⟩ := Numeral.digits_eq_cons n
    have hall : ∀ d ∈ c :: ds, d.isDigit = true := fun d hd =>
      Numeral.isDigit_of_mem_digits (hds ▸ hd)
    rw [hds, someDigits, if_pos hc, Decimal.spanDigits, List.takeWhile_eq_self_iff.2 hall,
      List.dropWhile_eq_nil_iff.2 hall]
  obtain ⟨c, ds, hds, -, hzero⟩ := Numeral.digits_eq_cons n
  rw [hds] at hsome ⊢
  cases ds with
  | nil =>
    unfold wholeDigits
    grind
  | cons d ds =>
    have hc : c ≠ '0' := fun h => List.cons_ne_nil _ _ (hzero h).2
    rw [wholeDigits_cons_cons, if_neg hc, hsome]

theorem numberText_digits (n : Nat) :
    numberText (Numeral.digits n) = .ok (⟨Numeral.digits n, none, none⟩, []) := by
  simp only [numberText, wholeDigits_digits, bind, Except.bind, fractionPart, exponentPart]

theorem number_digits {n : Nat} (h : n < Numeral.limit64) :
    number (Numeral.digits n) = .ok (.natural n, []) := by
  have hvalue : NumberText.value false ⟨Numeral.digits n, none, none⟩ = .ok (.natural n) := by
    simp [NumberText.value, ofWhole_digits h]
  obtain ⟨c, ds, hds, hc, -⟩ := Numeral.digits_eq_cons n
  have hminus : c ≠ '-' := by
    rintro rfl
    simp at hc
  rw [hds, number_of_ne hminus, ← hds]
  simp only [behindSign, numberText_digits, hvalue, bind, Except.bind]

/-- Only a positive number is an integer behind a minus sign. -/
theorem number_minus_digits {n : Nat} (hpos : 0 < n) (h : n ≤ 1 <<< 63) :
    number ('-' :: Numeral.digits n) = .ok (.negative n, []) := by
  have hlimit : n < Numeral.limit64 := Nat.lt_of_le_of_lt h (by decide)
  have hvalue : NumberText.value true ⟨Numeral.digits n, none, none⟩ = .ok (.negative n) := by
    have hle : decide (n ≤ 1 <<< 63) = true := decide_eq_true h
    simp only [NumberText.value, ofWhole_digits hlimit, hle]
    simp [hpos]
  change behindSign true (Numeral.digits n) = _
  simp only [behindSign, numberText_digits, hvalue, bind, Except.bind]

/-! ## The readers for numbers -/

theorem skipGap_of_not_isGap {c : Char} (h : isGap c = false) (s : List Char) :
    skipGap (c :: s) = c :: s := by
  simp [skipGap, h]

/-- Numbers start with a sign or a digit. -/
def startsNumber (c : Char) : Bool := c = '-' || c.isDigit

theorem isGap_of_startsNumber {c : Char} (h : startsNumber c = true) : isGap c = false := by
  by_contra hgap
  simp only [isGap, Bool.not_eq_false, Bool.or_eq_true, decide_eq_true_eq] at hgap
  rcases hgap with ((rfl | rfl) | rfl) | rfl <;> cases h

theorem anyNumber_of_startsNumber {c : Char} (h : startsNumber c = true) (s : List Char) :
    anyNumber (c :: s) = number (c :: s) := by
  have hc : c = '-' ∨ c.isDigit = true := by simpa [startsNumber] using h
  simp only [anyNumber, skipGap_of_not_isGap (isGap_of_startsNumber h), if_pos hc]

/-- The digits of a number below a limit of at most 64 bits are read back. -/
theorem natural_digits {n limit : Nat} (h : n < limit) (hlimit : limit ≤ Numeral.limit64)
    {r : List Char} (hr : EndsNumber r) :
    natural limit (Numeral.digits n ++ r) = .ok (n, r) := by
  have hnumber : number (Numeral.digits n) = .ok (.natural n, []) := number_digits (by omega)
  obtain ⟨c, ds, hds, hc, -⟩ := Numeral.digits_eq_cons n
  have hstarts : startsNumber c = true := by simp [startsNumber, hc]
  rw [hds] at hnumber ⊢
  rw [List.cons_append, natural, anyNumber_of_startsNumber hstarts]
  have happend : number (c :: (ds ++ r)) = .ok (.natural n, r) := number_append hr hnumber
  simp only [happend, bind, Except.bind, if_pos h]

/-- The integer fits into 64 bits with a sign. -/
def IsSigned64 (n : Int) : Prop := -0x8000000000000000 ≤ n ∧ n < 0x8000000000000000

instance (n : Int) : Decidable (IsSigned64 n) :=
  inferInstanceAs (Decidable (-0x8000000000000000 ≤ n ∧ n < 0x8000000000000000))

/-- The digits of a signed 64-bit number are read back. -/
theorem integer_signedDigits {n : Int} (h : IsSigned64 n) {r : List Char} (hr : EndsNumber r) :
    integer (Numeral.signedDigits n ++ r) = .ok (n, r) := by
  obtain ⟨hlow, hhigh⟩ := h
  rw [Numeral.signedDigits]
  by_cases hneg : n < 0
  · have hnumber : number ('-' :: (Numeral.digits n.natAbs ++ r)) = .ok (.negative n.natAbs, r) :=
      number_append hr (number_minus_digits (by omega) (by simp; omega))
    rw [if_pos hneg, List.cons_append, integer, anyNumber_of_startsNumber rfl]
    simp only [hnumber, bind, Except.bind]
    congr 2
    omega
  · have hlimit : n.natAbs < 1 <<< 63 := by simp; omega
    have hnumber := number_digits (Nat.lt_trans hlimit (by decide))
    obtain ⟨c, ds, hds, hc, -⟩ := Numeral.digits_eq_cons n.natAbs
    have happend := number_append hr hnumber
    rw [hds] at happend
    rw [if_neg hneg, hds, List.cons_append, integer,
      anyNumber_of_startsNumber (by simp [startsNumber, hc]), ← List.cons_append]
    simp only [happend, bind, Except.bind, if_pos hlimit, List.nil_append]
    congr 2
    omega

end Reader

end Json

end BenchTracker
