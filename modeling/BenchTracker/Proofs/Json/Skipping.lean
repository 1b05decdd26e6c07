import BenchTracker.Proofs.Json.Written

/-!
# JSON values are skipped

Every JSON value is skipped up to its end, however deeply it is nested. The brackets that are open
around a value decide what comes after it, so the induction on values is over all of them: if the
rest is skipped from behind the value on, it is skipped from the value on as well. The values inside
one pair of brackets are taken from the last one to the first.
-/

namespace BenchTracker

namespace Json

namespace Reader

variable {s r text value ds whole fraction exponent : List Char} {n : Nat}

/-! ## Strings -/

theorem codeUnit_append (h : IsCodeUnit ds n) (r : List Char) :
    codeUnit (ds ++ r) = .ok (n, r) := by
  cases h with
  | digits ha hb hc hd =>
    simp only [codeUnit, List.cons_append, List.nil_append, List.take_succ_cons, List.take_zero,
      List.mapM_cons, List.mapM_nil, ha, hb, hc, hd, List.drop_succ_cons, List.drop_zero]
    rfl

theorem takesPiece_skipEscape (h : IsPiece text) :
    TakesPiece skipEscape (fun _ => ()) text () := by
  cases h with
  | plain h => exact takesPiece_plain h.ne_quote h.ne_slash h.not_control
  | @short c d h =>
    have hu : d ≠ 'u' := by
      rintro rfl
      cases h
    exact takesPiece_escaped fun r => by simp [skipEscape, hu, h]
  | unit h =>
    refine takesPiece_escaped fun r => ?_
    rw [List.cons_append, skipEscape, if_pos rfl, codeUnit_append h]
    rfl

theorem skipTextTail_quoted {pieces : List (List Char)} (h : ∀ p ∈ pieces, IsPiece p)
    (r : List Char) : skipTextTail (pieces.flatten ++ '"' :: r) = .ok ((), r) := by
  have hpieces : List.Forall₂ (TakesPiece skipEscape fun _ => ()) pieces
      (pieces.map fun _ => ()) := by
    rw [List.forall₂_map_right_iff, List.forall₂_same]
    exact fun p hp => takesPiece_skipEscape (h p hp)
  simp only [skipTextTail, textFrom_length hpieces, bind, Except.bind]

/-! ## Numbers -/

theorem skipDigits_append (h : IsDigits ds) (hr : EndsDigits r) :
    skipDigits (ds ++ r) = .ok ((), r) := by
  simp only [skipDigits, someDigits_of_isDigits h hr]

theorem skipWhole_append (h : IsWhole whole) (hr : EndsDigits r) :
    skipWhole (whole ++ r) = .ok ((), r) := by
  cases h with
  | zero =>
    cases r with
    | nil => rfl
    | cons c r => simp [skipWhole, hr c rfl]
  | @digits c s hc h =>
    have hskip : skipWhole (c :: (s ++ r)) = skipDigits (c :: (s ++ r)) := by
      unfold skipWhole
      split
      · simp_all
      · rfl
    exact hskip.trans (skipDigits_append h hr)

theorem skipExponent_append (h : IsExponent exponent) (hr : EndsNumber r) :
    skipExponent (exponent ++ r) = .ok ((), r) := by
  cases h with
  | absent =>
    cases r with
    | nil => rfl
    | cons c r => simp [skipExponent, (endsNumber_cons.1 hr).2.2]
  | @digits c sign s hc hsign h =>
    rw [List.cons_append, List.append_assoc, skipExponent, if_pos (isExponentMark_of_mem hc),
      exponentSign_append hsign h r]
    exact skipDigits_append h hr.endsDigits

theorem skipFraction_append (h : IsFraction fraction) (he : IsExponent exponent)
    (hr : EndsNumber r) :
    skipFraction (fraction ++ (exponent ++ r)) = .ok ((), exponent ++ r) := by
  cases h with
  | digits h => exact skipDigits_append h (endsDigits_exponent he hr)
  | absent =>
    have hpoint : ∀ c ∈ (exponent ++ r).head?, c ≠ '.' := by
      cases he with
      | absent => exact fun c hc => (hr c hc).2.1
      | digits hc =>
        rintro c' ⟨⟩
        rintro rfl
        simp at hc
    rw [List.nil_append]
    unfold skipFraction
    split
    · simp_all
    · rfl

theorem skipNumber_append (h : IsUnsigned text) (hr : EndsNumber r) :
    skipNumber (text ++ r) = .ok ((), r) := by
  cases h with
  | parts hwhole hfraction hexponent =>
    have hdigits := endsDigits_fraction hfraction (endsDigits_exponent hexponent hr)
    simp only [skipNumber, List.append_assoc, skipWhole_append hwhole hdigits,
      skipFraction_append hfraction hexponent hr, bind, Except.bind,
      skipExponent_append hexponent hr]

/-! ## The start of a value -/

theorem startsItem_of_isValue (h : IsValue text) : StartsItem text := by
  cases h with
  | null => exact ⟨'n', _, rfl, rfl, fun b => by cases b <;> decide⟩
  | true => exact ⟨'t', _, rfl, rfl, fun b => by cases b <;> decide⟩
  | false => exact ⟨'f', _, rfl, rfl, fun b => by cases b <;> decide⟩
  | natural h =>
    obtain ⟨c, t, rfl, hc⟩ := exists_digit_of_isUnsigned h
    exact startsItem_of_startsValue (startsValue_of_startsNumber (by simp [startsNumber, hc])) t
  | negative => exact startsItem_of_startsValue rfl _
  | string h =>
    obtain ⟨pieces, -, rfl⟩ := h
    exact startsItem_of_startsValue rfl _
  | between _ _ h =>
    obtain ⟨-⟩ := h
    exact startsItem_of_startsValue (startsValue_opening _) _

theorem startsItem_of_isItem {b : Bracket} (hvalue : IsValue value) (h : IsItem b value text) :
    StartsItem text := by
  cases h with
  | element => exact startsItem_of_isValue hvalue
  | member hkey h =>
    obtain ⟨pieces, -, rfl⟩ := hkey
    obtain ⟨-, -⟩ := h
    exact startsItem_of_startsValue rfl _

/-! ## Single steps -/

variable {b : Bracket} {outer : List Bracket} {p : List Bracket × List Char} {g : List Char}

theorem leave_close (hg : IsBlank g) (r : List Char) :
    leave (b :: outer) (g ++ b.close :: r) = leave outer r := by
  simp only [leave, Reader.skipGap_append hg, skipGap_of_not_isGap b.close_cases.1, if_true]

theorem leave_comma (hg : IsBlank g) (r : List Char) :
    leave (b :: outer) (g ++ ',' :: r) = approach b outer r := by
  have hskip : skipGap (',' :: r) = ',' :: r := skipGap_of_not_isGap rfl r
  simp only [leave, Reader.skipGap_append hg, hskip, if_neg b.close_cases.2.2.1.symm, if_true]

theorem enter_close (hg : IsBlank g) (r : List Char) :
    enter b outer (g ++ b.close :: r) = leave outer r := by
  simp only [enter, Reader.skipGap_append hg, skipGap_of_not_isGap b.close_cases.1, if_true]

theorem enter_item (hg : IsBlank g) (h : StartsItem text) (r : List Char) :
    enter b outer (g ++ (text ++ r)) = approach b outer (text ++ r) := by
  obtain ⟨c, t, rfl, hgap, hclose⟩ := h
  simp only [enter, Reader.skipGap_append hg, List.cons_append, skipGap_of_not_isGap hgap,
    if_neg (hclose b)]

theorem skipKey_append {key : List Char} (hkey : IsString key) (h : IsMember key value text)
    (hg : IsBlank g) (r : List Char) :
    ∃ g', IsBlank g' ∧ skipKey (g ++ (text ++ r)) = .ok ((), g' ++ (value ++ r)) := by
  obtain ⟨pieces, hpieces, rfl⟩ := hkey
  obtain ⟨hbefore, hbehind⟩ := h
  have hquote : isGap '"' = false := rfl
  refine ⟨_, hbehind, ?_⟩
  simp only [skipKey, quoted, List.cons_append, List.append_assoc, List.nil_append,
    mark_append hquote hg, skipTextTail_quoted hpieces, mark_colon hbefore, bind,
    Except.bind]

/-- From the start of an item it is only white space to its value. -/
theorem approach_item (h : IsItem b value text) (hg : IsBlank g) (r : List Char) :
    ∃ g', IsBlank g' ∧ ∀ outer,
      approach b outer (g ++ (text ++ r)) = .ok (b :: outer, g' ++ (value ++ r)) := by
  cases h with
  | element => exact ⟨g, hg, fun _ => rfl⟩
  | member hkey h =>
    obtain ⟨g', hg', hskip⟩ := skipKey_append hkey h hg r
    exact ⟨g', hg', fun outer => by simp only [approach, hskip, Except.map]⟩

theorem skipStep_opening (hg : IsBlank g) (r : List Char) :
    skipStep outer (g ++ b.opening :: r) = enter b outer r := by
  cases b <;> simp only [skipStep, Reader.skipGap_append hg] <;> rfl

/-- The text is skipped in one step, whatever stands behind it. -/
def IsScalar (text : List Char) : Prop :=
  ∀ outer g r, IsBlank g → EndsNumber r → skipStep outer (g ++ (text ++ r)) = leave outer r

theorem isScalar_cons {c : Char} (hc : isGap c = false ∧ c ≠ '[' ∧ c ≠ '\x7b')
    (h : ∀ r, EndsNumber r → skipScalar c (text ++ r) = .ok ((), r)) : IsScalar (c :: text) := by
  intro outer g r hg hr
  obtain ⟨hgap, hsquare, hcurly⟩ := hc
  simp only [skipStep, Reader.skipGap_append hg, List.cons_append, skipGap_of_not_isGap hgap,
    if_neg hsquare, if_neg hcurly, h r hr, bind, Except.bind]

theorem isScalar_string (h : IsString text) : IsScalar text := by
  obtain ⟨pieces, hpieces, rfl⟩ := h
  refine isScalar_cons (by decide) fun r _ => ?_
  rw [List.append_assoc]
  exact skipTextTail_quoted hpieces r

theorem isScalar_negative (h : IsUnsigned text) : IsScalar ('-' :: text) :=
  isScalar_cons (by decide) fun _ hr => skipNumber_append h hr

theorem isScalar_natural (h : IsUnsigned text) : IsScalar text := by
  obtain ⟨c, t, rfl, hc⟩ := exists_digit_of_isUnsigned h
  have hne (d : Char) (hd : d.isDigit = false) : c ≠ d := by
    rintro rfl
    simp [hc] at hd
  have hgap : isGap c = false := isGap_of_startsNumber (by simp [startsNumber, hc])
  refine isScalar_cons ⟨hgap, hne _ rfl, hne _ rfl⟩ fun r hr => ?_
  rw [skipScalar, if_neg (hne _ rfl), if_neg (hne _ rfl), if_pos hc]
  exact skipNumber_append h hr

theorem isScalar_null : IsScalar ['n', 'u', 'l', 'l'] :=
  isScalar_cons (by decide) fun _ _ => rfl

theorem isScalar_true : IsScalar ['t', 'r', 'u', 'e'] :=
  isScalar_cons (by decide) fun _ _ => rfl

theorem isScalar_false : IsScalar ['f', 'a', 'l', 's', 'e'] :=
  isScalar_cons (by decide) fun _ _ => rfl

/-! ## Whole values -/

/-- What is left of skipping behind a step. -/
def resume (fuel : Nat) (p : List Bracket × List Char) : Except Fault (Unit × List Char) :=
  if p.1 = [] then .ok ((), p.2) else skipFrom fuel p.1 p.2

/-- Skipping goes on from here to the rest, if there is enough fuel. -/
def Ends (n : Nat) (p : List Bracket × List Char) (rest : List Char) : Prop :=
  ∀ fuel, n ≤ fuel → resume fuel p = .ok ((), rest)

variable {rest : List Char} {values texts : List (List Char)}

theorem Ends.mono {m : Nat} (h : Ends m p rest) (hle : m ≤ n) : Ends n p rest :=
  fun fuel hfuel => h fuel (Nat.le_trans hle hfuel)

theorem skipFrom_of_skipStep (hstep : skipStep outer s = .ok p) (h : Ends n p rest) {fuel : Nat}
    (hfuel : n < fuel) : skipFrom fuel outer s = .ok ((), rest) := by
  obtain ⟨fuel, rfl⟩ := Nat.exists_eq_succ_of_ne_zero (Nat.ne_zero_of_lt hfuel)
  simp only [skipFrom, hstep, bind, Except.bind]
  exact h fuel (Nat.le_of_lt_succ hfuel)

/-- The text is skipped: if it is possible to go on behind it, then from its start as well. -/
def Skips (text : List Char) : Prop :=
  ∀ outer g r p n rest, IsBlank g → EndsNumber r → leave outer r = .ok p → Ends n p rest →
    ∀ fuel, n + text.length ≤ fuel → skipFrom fuel outer (g ++ (text ++ r)) = .ok ((), rest)

theorem IsScalar.skips (h : IsScalar text) (hne : text ≠ []) : Skips text := by
  intro outer g r p n rest hg hr hleave hends fuel hfuel
  have hpos := List.length_pos_iff.2 hne
  exact skipFrom_of_skipStep ((h _ _ _ hg hr).trans hleave) hends (by omega)

theorem length_le_of_isItem (h : IsItem b value text) : value.length ≤ text.length := by
  cases h with
  | element => exact Nat.le_refl _
  | member _ h =>
    obtain ⟨-, -⟩ := h
    simp only [List.length_append, List.length_cons]
    omega

/-- An item is skipped if what stands behind it is. -/
theorem approach_ends (hvalue : Skips value) (hitem : IsItem b value text) (hg : IsBlank g)
    (hr : EndsNumber r) (hleave : leave (b :: outer) r = .ok p) (hends : Ends n p rest) :
    ∃ q, approach b outer (g ++ (text ++ r)) = .ok q ∧ Ends (n + text.length) q rest := by
  obtain ⟨g', hg', happroach⟩ := approach_item hitem hg r
  have hlength := length_le_of_isItem hitem
  refine ⟨_, happroach outer, fun fuel hfuel => ?_⟩
  rw [resume, if_neg (List.cons_ne_nil _ _)]
  exact hvalue _ _ _ _ _ _ hg' hr hleave hends fuel (by omega)

/-- The items behind another one are skipped. -/
theorem leave_behind (h : Behind texts s) (hvalues : ∀ v ∈ values, Skips v)
    (hitems : List.Forall₂ (IsItem b) values texts) (hleave : leave outer r = .ok p)
    (hends : Ends n p rest) :
    ∃ q, leave (b :: outer) (s ++ b.close :: r) = .ok q ∧ Ends (n + s.length) q rest := by
  induction h generalizing values with
  | nil hg =>
    rw [leave_close hg]
    exact ⟨p, hleave, hends.mono (Nat.le_add_right _ _)⟩
  | @cons g g' t s texts hg hg' h ih =>
    cases hitems with
    | cons hitem hitems =>
      obtain ⟨hvalue, hvalues⟩ := List.forall_mem_cons.1 hvalues
      obtain ⟨q, hq, hqends⟩ := ih hvalues hitems
      obtain ⟨q', hq', hqends'⟩ :=
        approach_ends hvalue hitem hg' (endsNumber_behind_close h b r) hq hqends
      refine ⟨q', ?_, hqends'.mono ?_⟩
      · rw [← hq', ← leave_comma hg]
        simp only [List.append_assoc, List.cons_append]
      · simp only [List.length_append, List.length_cons]
        omega

theorem skips_between (hvalues : ∀ v ∈ values, IsValue v ∧ Skips v)
    (hitems : List.Forall₂ (IsItem b) values texts) (h : Enclosed b texts text) : Skips text := by
  obtain ⟨hlisted⟩ := h
  intro outer g r p n rest hg hr hleave hends fuel hfuel
  rw [List.cons_append, List.append_assoc, List.singleton_append]
  rw [List.length_cons, List.length_append] at hfuel
  cases hlisted with
  | nil hgap =>
    refine skipFrom_of_skipStep ?_ hends (by omega)
    rw [skipStep_opening hg, enter_close hgap, hleave]
  | cons hgap h =>
    cases hitems with
    | cons hitem hitems =>
      obtain ⟨⟨hisValue, hvalue⟩, hvalues⟩ := List.forall_mem_cons.1 hvalues
      obtain ⟨q, hq, hqends⟩ :=
        leave_behind h (fun v hv => (hvalues v hv).2) hitems hleave hends
      obtain ⟨q', hq', hqends'⟩ :=
        approach_ends hvalue hitem isBlank_nil (endsNumber_behind_close h b r) hq hqends
      simp only [List.length_append] at hfuel
      refine skipFrom_of_skipStep ?_ hqends' (by omega)
      rw [skipStep_opening hg, List.append_assoc, List.append_assoc,
        enter_item hgap (startsItem_of_isItem hisValue hitem)]
      exact hq'

theorem skips_value (h : IsValue text) : Skips text := by
  induction h with
  | null => exact isScalar_null.skips (List.cons_ne_nil _ _)
  | true => exact isScalar_true.skips (List.cons_ne_nil _ _)
  | false => exact isScalar_false.skips (List.cons_ne_nil _ _)
  | natural h =>
    obtain ⟨c, t, rfl, -⟩ := exists_digit_of_isUnsigned h
    exact (isScalar_natural h).skips (List.cons_ne_nil _ _)
  | negative h => exact (isScalar_negative h).skips (List.cons_ne_nil _ _)
  | string h =>
    have hscalar := isScalar_string h
    obtain ⟨pieces, -, rfl⟩ := h
    exact hscalar.skips (List.cons_ne_nil _ _)
  | between hvalues hitems h ih =>
    exact skips_between (fun v hv => ⟨hvalues v hv, ih v hv⟩) hitems h

/-- A value is skipped up to its end. -/
theorem skipValue_append (h : IsValue text) {g r : List Char} (hg : IsBlank g)
    (hr : EndsNumber r) : skipValue (g ++ (text ++ r)) = .ok ((), r) := by
  refine skips_value h [] g r ([], r) 0 r hg hr rfl (fun _ _ => rfl) _ ?_
  simp only [List.length_append]
  omega

end Reader

end Json

end BenchTracker
