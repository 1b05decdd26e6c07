import BenchTracker.Proofs.Json.Grammar

/-!
# Written numbers

A number of the grammar is read up to its end, and every finite double is written as such a number.
What is read for a written double can therefore be told from the double alone, although it need not
be the same double.
-/

namespace BenchTracker

namespace Json

/-! ## Digits -/

theorem isDigits_digits (n : Nat) : IsDigits (Numeral.digits n) := by
  obtain ⟨c, ds, hds, -⟩ := Numeral.digits_eq_cons n
  exact ⟨hds ▸ List.cons_ne_nil c ds, fun _ => Numeral.isDigit_of_mem_digits⟩

/-- Digits of a positive number stay a whole number with further digits behind them. -/
theorem isWhole_digits_append {n : Nat} (hpos : 0 < n) {ds : List Char}
    (hds : ∀ c ∈ ds, c.isDigit = true) : IsWhole (Numeral.digits n ++ ds) := by
  obtain ⟨c, rest, hrest, hc, hzero⟩ := Numeral.digits_eq_cons n
  rw [hrest, List.cons_append]
  refine .digits (fun h => ?_) ⟨List.cons_ne_nil _ _, ?_⟩
  · exact Nat.ne_of_gt hpos (hzero h).1
  · rw [← List.cons_append, ← hrest]
    rintro d hd
    exact (List.mem_append.1 hd).elim Numeral.isDigit_of_mem_digits (hds d)

theorem isWhole_digits (n : Nat) : IsWhole (Numeral.digits n) := by
  rcases Nat.eq_zero_or_pos n with rfl | hpos
  · exact .zero
  · simpa using isWhole_digits_append hpos (List.forall_mem_nil _)

theorem isWhole_singleton {c : Char} (h : c.isDigit = true) : IsWhole [c] := by
  by_cases hc : c = '0'
  · exact hc ▸ .zero
  · exact .digits hc ⟨List.cons_ne_nil _ _, by simpa using h⟩

/-- Some of the digits of a number, without the last ones. -/
theorem isWhole_take {n k : Nat} (hpos : 0 < k) (hk : k < (Numeral.digits n).length) :
    IsWhole ((Numeral.digits n).take k) := by
  obtain ⟨c, rest, hrest, hc, hzero⟩ := Numeral.digits_eq_cons n
  obtain ⟨k, rfl⟩ := Nat.exists_eq_succ_of_ne_zero (Nat.ne_of_gt hpos)
  have hall : ∀ d ∈ (Numeral.digits n).take (k + 1), d.isDigit = true := fun d hd =>
    Numeral.isDigit_of_mem_digits (List.mem_of_mem_take hd)
  rw [hrest] at hk hall ⊢
  refine .digits (fun h => ?_) ⟨List.cons_ne_nil _ _, hall⟩
  rw [(hzero h).2] at hk
  exact Nat.not_lt_zero k (Nat.lt_of_succ_lt_succ hk)

/-! ## Layouts -/

theorem withPlaces_of_lt {ds : List Char} {places : Nat} (h : places < ds.length) :
    NumberStyle.withPlaces ds places =
      ds.take (ds.length - places) ++ '.' :: ds.drop (ds.length - places) := by
  simp [NumberStyle.withPlaces, Nat.sub_eq_zero_of_le (Nat.succ_le_of_lt h)]

/-- Digits that do not reach up to the point have a zero in front of it. -/
theorem withPlaces_of_le {ds : List Char} {places : Nat} (h : ds.length ≤ places) :
    NumberStyle.withPlaces ds places =
      '0' :: '.' :: (List.replicate (places - ds.length) '0' ++ ds) := by
  have hzeros : places + 1 - ds.length = places - ds.length + 1 := Nat.sub_add_comm h
  have hplaces : places - ds.length + ds.length + 1 - places = 1 := by omega
  simp [NumberStyle.withPlaces, hzeros, hplaces, List.replicate_succ]

theorem isUnsigned_withPlaces (n : Nat) {places : Nat} (hplaces : 0 < places) :
    IsUnsigned (NumberStyle.withPlaces (Numeral.digits n) places) := by
  obtain ⟨hne, hall⟩ := isDigits_digits n
  rcases Nat.lt_or_ge places (Numeral.digits n).length with hlt | hge
  · have hfraction : IsDigits ((Numeral.digits n).drop ((Numeral.digits n).length - places)) := by
      refine ⟨fun hnil => ?_, fun c hc => hall c (List.mem_of_mem_drop hc)⟩
      have hlength := List.drop_eq_nil_iff.1 hnil
      omega
    have hwhole := isWhole_take (n := n) (Nat.sub_pos_of_lt hlt) (Nat.sub_lt (by omega) hplaces)
    have hunsigned := IsUnsigned.parts hwhole (.digits hfraction) .absent
    rwa [List.append_nil, ← withPlaces_of_lt hlt] at hunsigned
  · have hfraction : IsDigits (List.replicate (places - (Numeral.digits n).length) '0' ++
        Numeral.digits n) := by
      refine ⟨by simp [hne], fun c hc => ?_⟩
      rcases List.mem_append.1 hc with hc | hc
      · rw [(List.mem_replicate.1 hc).2]
        rfl
      · exact hall c hc
    have hunsigned := IsUnsigned.parts .zero (.digits hfraction) .absent
    rwa [List.append_nil, List.singleton_append, ← withPlaces_of_le hge] at hunsigned

theorem isUnsigned_positionalDigits (style : NumberStyle) (s : Scientific) :
    IsUnsigned (style.positionalDigits s) := by
  unfold NumberStyle.positionalDigits
  cases s.exponent with
  | ofNat e =>
    have hwhole : IsWhole (Numeral.digits s.digits ++
        if s.digits = 0 then [] else List.replicate e '0') := by
      split
      · rw [List.append_nil]
        exact isWhole_digits _
      · rename_i hne
        refine isWhole_digits_append (Nat.pos_of_ne_zero hne) fun c hc => ?_
        rw [(List.mem_replicate.1 hc).2]
        rfl
    have hfraction : IsFraction (if style.pointZero then ['.', '0'] else []) := by
      split
      · exact .digits ⟨List.cons_ne_nil _ _, List.forall_mem_singleton.2 rfl⟩
      · exact .absent
    have hunsigned := IsUnsigned.parts hwhole hfraction .absent
    rwa [List.append_nil] at hunsigned
  | negSucc e => exact isUnsigned_withPlaces s.digits (Nat.succ_pos e)

theorem isUnsigned_exponentDigits (style : NumberStyle) (s : Scientific) :
    IsUnsigned (style.exponentDigits s) := by
  obtain ⟨c, ds, hds, hc, -⟩ := Numeral.digits_eq_cons s.digits
  have hall := (isDigits_digits s.digits).2
  rw [hds] at hall
  have hexponent (power : Int) :
      IsExponent ('e' :: ((if power < 0 then ['-'] else if style.exponentSign then ['+'] else []) ++
        Numeral.digits power.natAbs)) := by
    refine .digits List.mem_cons_self ?_ (isDigits_digits _)
    split
    · decide
    · split <;> decide
  simp only [NumberStyle.exponentDigits, hds]
  cases ds with
  | nil => exact .parts (isWhole_singleton hc) .absent (hexponent _)
  | cons d ds =>
    have hfraction : IsFraction ('.' :: d :: ds) :=
      .digits ⟨List.cons_ne_nil _ _, (List.forall_mem_cons.1 hall).2⟩
    rw [List.append_assoc]
    change IsUnsigned ([c] ++ ('.' :: d :: ds ++ _))
    exact .parts (isWhole_singleton hc) hfraction (hexponent _)

/-- Decimal numbers are written as numbers, whatever the style. -/
theorem isUnsigned_layout (style : NumberStyle) (s : Scientific) :
    IsUnsigned (style.layout s) := by
  unfold NumberStyle.layout
  split
  · exact isUnsigned_positionalDigits style s
  · simp only
    split
    · exact isUnsigned_positionalDigits style s
    · exact isUnsigned_exponentDigits style s

namespace Reader

variable {s r text ds whole fraction exponent : List Char}

/-! ## Reading the parts of a number -/

/-- No digits go on with this text. -/
def EndsDigits (r : List Char) : Prop := ∀ c ∈ r.head?, c.isDigit = false

theorem EndsNumber.endsDigits (h : EndsNumber r) : EndsDigits r := fun c hc => (h c hc).1

theorem endsDigits_exponent (h : IsExponent exponent) (hr : EndsNumber r) :
    EndsDigits (exponent ++ r) := by
  cases h with
  | absent => exact hr.endsDigits
  | digits hc =>
    rintro c' ⟨⟩
    simp only [List.mem_cons, List.not_mem_nil, or_false] at hc
    rcases hc with rfl | rfl <;> rfl

theorem endsDigits_fraction (h : IsFraction fraction) (hr : EndsDigits r) :
    EndsDigits (fraction ++ r) := by
  cases h with
  | absent => exact hr
  | digits =>
    rintro c ⟨⟩
    rfl

theorem someDigits_of_isDigits (h : IsDigits ds) (hr : EndsDigits r) :
    someDigits (ds ++ r) = .ok (ds, r) := by
  have hrest : r.takeWhile Char.isDigit = [] ∧ r.dropWhile Char.isDigit = r := by
    cases r with
    | nil => exact ⟨rfl, rfl⟩
    | cons c r => simp [hr c rfl]
  obtain ⟨hne, hall⟩ := h
  have hspan : Decimal.spanDigits (ds ++ r) = (ds, r) := by
    simp [Decimal.spanDigits, List.takeWhile_append_of_pos hall,
      List.dropWhile_append_of_pos hall, hrest]
  cases ds with
  | nil => cases hne rfl
  | cons c ds =>
    rw [List.cons_append] at hspan ⊢
    rw [someDigits, if_pos (hall c List.mem_cons_self), hspan]

theorem wholeDigits_of_isWhole (h : IsWhole whole) (hr : EndsDigits r) :
    wholeDigits (whole ++ r) = .ok (whole, r) := by
  cases h with
  | zero =>
    cases r with
    | nil => rfl
    | cons c r => simp [wholeDigits, hr c rfl]
  | @digits c s hc h =>
    have hsome : wholeDigits (c :: (s ++ r)) = someDigits (c :: (s ++ r)) := by
      unfold wholeDigits
      split
      · simp_all
      · rfl
    exact hsome.trans (someDigits_of_isDigits h hr)

theorem exists_fractionPart (h : IsFraction fraction) (he : IsExponent exponent) :
    ∃ x, fractionPart (fraction ++ exponent) = .ok (x, exponent) := by
  cases h with
  | @digits ds h =>
    have hends := endsDigits_exponent he endsNumber_nil
    rw [List.append_nil] at hends
    refine ⟨some ds, ?_⟩
    simp only [List.cons_append, fractionPart, someDigits_of_isDigits h hends, bind, Except.bind]
  | absent =>
    refine ⟨none, ?_⟩
    cases he with
    | absent => rfl
    | digits hc =>
      simp only [List.mem_cons, List.not_mem_nil, or_false] at hc
      rcases hc with rfl | rfl <;> rfl

theorem isExponentMark_of_mem {c : Char} (h : c ∈ ['e', 'E']) : isExponentMark c = true := by
  simp only [List.mem_cons, List.not_mem_nil, or_false] at h
  rcases h with rfl | rfl <;> rfl

/-- Behind the sign of an exponent are its digits. -/
theorem exponentSign_append {sign : List Char} (hsign : sign ∈ [[], ['+'], ['-']])
    (h : IsDigits ds) (r : List Char) : (exponentSign (sign ++ (ds ++ r))).2 = ds ++ r := by
  obtain ⟨hne, hall⟩ := h
  simp only [List.mem_cons, List.not_mem_nil, or_false] at hsign
  rcases hsign with rfl | rfl | rfl
  · cases ds with
    | nil => cases hne rfl
    | cons d ds =>
      have hd : d.isDigit = true := hall d List.mem_cons_self
      unfold exponentSign
      split <;> simp_all
  · rfl
  · rfl

theorem exists_exponentPart (h : IsExponent exponent) :
    ∃ x, exponentPart exponent = .ok (x, []) := by
  cases h with
  | absent => exact ⟨none, rfl⟩
  | @digits c sign ds hc hsign h =>
    have hbehind := exponentSign_append hsign h []
    have hdigits := someDigits_of_isDigits h endsNumber_nil.endsDigits
    rw [List.append_nil] at hbehind hdigits
    refine ⟨some ((exponentSign (sign ++ ds)).1, ds), ?_⟩
    simp only [exponentPart, if_pos (isExponentMark_of_mem hc), hbehind, hdigits, bind,
      Except.bind]

/-- A number of the grammar is read to its end. -/
theorem exists_numberText (h : IsUnsigned text) : ∃ t, numberText text = .ok (t, []) := by
  cases h with
  | @parts whole fraction exponent hwhole hfraction hexponent =>
    have hexponentEnds := endsDigits_exponent hexponent endsNumber_nil
    have hends := endsDigits_fraction hfraction hexponentEnds
    rw [List.append_nil] at hends
    obtain ⟨x, hx⟩ := exists_fractionPart hfraction hexponent
    obtain ⟨y, hy⟩ := exists_exponentPart hexponent
    exact ⟨⟨whole, x, y⟩, by simp only [numberText, wholeDigits_of_isWhole hwhole hends, hx, hy,
      bind, Except.bind]⟩

theorem exists_digit_of_isUnsigned (h : IsUnsigned text) :
    ∃ c t, text = c :: t ∧ c.isDigit = true := by
  cases h with
  | parts hwhole =>
    cases hwhole with
    | zero => exact ⟨'0', _, rfl, rfl⟩
    | digits _ h => exact ⟨_, _, rfl, h.2 _ List.mem_cons_self⟩

/-- What a number of the grammar is read as, if anything, does not depend on what follows. -/
theorem exists_behindSign (h : IsUnsigned text) (negative : Bool) :
    ∃ x : Except Fault Number, ∀ r, EndsNumber r →
      behindSign negative (text ++ r) = x.map fun y => (y, r) := by
  obtain ⟨t, ht⟩ := exists_numberText h
  refine ⟨t.value negative, fun r hr => ?_⟩
  simp only [behindSign, numberText_append hr ht, bind, Except.bind, List.nil_append]
  cases t.value negative <;> rfl

theorem exists_anyNumber (h : IsUnsigned text) (negative : Bool) :
    ∃ x : Except Fault Number, ∀ r, EndsNumber r →
      anyNumber ((if negative then ['-'] else []) ++ text ++ r) = x.map fun y => (y, r) := by
  obtain ⟨x, hx⟩ := exists_behindSign h negative
  refine ⟨x, fun r hr => (hx r hr).symm ▸ ?_⟩
  cases negative with
  | false =>
    obtain ⟨c, t, rfl, hc⟩ := exists_digit_of_isUnsigned h
    have hminus : c ≠ '-' := by
      rintro rfl
      cases hc
    exact (anyNumber_of_startsNumber (by simp [startsNumber, hc]) _).trans
      (number_of_ne hminus _)
  | true => exact anyNumber_of_startsNumber rfl (text ++ r)

theorem exists_real (h : IsUnsigned text) (negative : Bool) :
    ∃ x : Except Fault Float, ∀ r, EndsNumber r →
      real ((if negative then ['-'] else []) ++ text ++ r) = x.map fun y => (y, r) := by
  obtain ⟨x, hx⟩ := exists_anyNumber h negative
  cases x with
  | error fault => exact ⟨.error fault, fun r hr => by rw [real, hx r hr]; rfl⟩
  | ok y =>
    cases y with
    | natural n => exact ⟨.ok (Double.ofNat n), fun r hr => by rw [real, hx r hr]; rfl⟩
    | negative n => exact ⟨.ok (- Double.ofNat n), fun r hr => by rw [real, hx r hr]; rfl⟩
    | real y => exact ⟨.ok y, fun r hr => by rw [real, hx r hr]; rfl⟩

end Reader

/-! ## Written doubles -/

/-- The double is written so that it reads back as itself. -/
def ReadsBack (x : Float) : Prop := Reader.real (writeReal x) = .ok (x, [])

instance (x : Float) : Decidable (ReadsBack x) :=
  decidable_of_iff ((Reader.real (writeReal x)).toOption = some (x, [])) <| by
    unfold ReadsBack
    cases Reader.real (writeReal x) <;> simp [Except.toOption]

/-- What is read for a written double, if anything. -/
def reread (y : Float) : Option Float := (Reader.real (writeReal y)).toOption.map Prod.fst

theorem writeReal_of_isFinite {y : Float} (h : Double.isFinite y = true) :
    writeReal y =
      (if Double.isNegative y then ['-'] else []) ++ numberStyle.layout (.shortest y) := by
  have hnan : Double.isNaN y = false := by
    have hfield : Double.exponentField y ≠ 2047 := by simpa [Double.isFinite] using h
    simp [Double.isNaN, hfield]
  rw [writeReal, if_pos h, NumberStyle.write, if_neg (by simp [hnan]), if_pos h]

theorem real_null (r : List Char) :
    (Reader.real ('n' :: 'u' :: 'l' :: 'l' :: r)).toOption = none := by
  have hskip : Reader.skipGap ('n' :: 'u' :: 'l' :: 'l' :: r) = 'n' :: 'u' :: 'l' :: 'l' :: r :=
    Reader.skipGap_of_not_isGap (by decide) _
  have hsign : ¬ ('n' = '-' ∨ 'n'.isDigit = true) := by decide
  simp only [Reader.real, Reader.anyNumber, hskip, if_neg hsign]
  rfl

/-- Only a finite double is read. -/
theorem reread_eq_none {y : Float} (h : Double.isFinite y = false) : reread y = none := by
  rw [reread, writeReal, h]
  exact congrArg _ (real_null [])

/-- What is read for a written double is the same whatever stands behind it. -/
theorem toOption_real (y : Float) {r : List Char} (hr : Reader.EndsNumber r) :
    (Reader.real (writeReal y ++ r)).toOption = (reread y).map fun z => (z, r) := by
  cases h : Double.isFinite y with
  | false =>
    rw [reread_eq_none h, writeReal, h]
    exact real_null r
  | true =>
    obtain ⟨x, hx⟩ := Reader.exists_real (isUnsigned_layout numberStyle (.shortest y))
      (Double.isNegative y)
    rw [← writeReal_of_isFinite h] at hx
    have hread : reread y = x.toOption := by
      rw [reread, ← List.append_nil (writeReal y), hx [] Reader.endsNumber_nil]
      cases x <;> rfl
    rw [hread, hx r hr]
    cases x <;> rfl

theorem readsBack_iff {y : Float} : ReadsBack y ↔ reread y = some y := by
  have hreal := toOption_real y Reader.endsNumber_nil
  rw [List.append_nil] at hreal
  unfold ReadsBack
  constructor
  · intro h
    rw [reread, h]
    rfl
  · intro h
    rw [h] at hreal
    cases hread : Reader.real (writeReal y) with
    | error fault => simp [hread, Except.toOption] at hreal
    | ok p => simpa [hread, Except.toOption] using hreal

end Json

end BenchTracker
