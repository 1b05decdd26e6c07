import BenchTracker.Json.Printer
import BenchTracker.Json.Text
import Mathlib.Data.List.Forall2

/-!
# Strings that are read back

Each character is read back from the one to six characters that are written for it, so a string is
read back up to its last quote, whatever stands behind it.
-/

namespace BenchTracker

namespace Json

namespace Reader

/-! ## Characters -/

theorem hexDigit?_lowerHexDigit {n : Nat} (h : n < 16) : hexDigit? (lowerHexDigit n) = some n := by
  have hall : ∀ n < 16, hexDigit? (lowerHexDigit n) = some n := by decide
  exact hall n h

/-- A control character is written in the last two of four digits. -/
theorem codePoint_control {c : Char} (h : c < ' ') (r : List Char) :
    codePoint ('0' :: '0' :: lowerHexDigit (c.toNat / 16) :: lowerHexDigit (c.toNat % 16) :: r) =
      .ok (c, r) := by
  have hc : c.toNat < 32 := h
  have hhigh : hexDigit? (lowerHexDigit (c.toNat / 16)) = some (c.toNat / 16) :=
    hexDigit?_lowerHexDigit (by omega)
  have hlow : hexDigit? (lowerHexDigit (c.toNat % 16)) = some (c.toNat % 16) :=
    hexDigit?_lowerHexDigit (by omega)
  have hzero : hexDigit? '0' = some 0 := by decide
  have hunit : codeUnit
      ('0' :: '0' :: lowerHexDigit (c.toNat / 16) :: lowerHexDigit (c.toNat % 16) :: r) =
        .ok (c.toNat, r) := by
    have hvalue : ((0 * 16 + 0) * 16 + c.toNat / 16) * 16 + c.toNat % 16 = c.toNat := by omega
    simp only [codeUnit, List.take_succ_cons, List.take_zero, List.mapM_cons, List.mapM_nil, hzero,
      hhigh, hlow, List.drop_succ_cons, List.drop_zero]
    exact congrArg (fun n => Except.ok (n, r)) hvalue
  have hnotLow : isLowSurrogate c.toNat = false := by
    simp only [isLowSurrogate, Bool.and_eq_false_iff, decide_eq_false_iff_not]
    omega
  have hnotHigh : isHighSurrogate c.toNat = false := by
    simp only [isHighSurrogate, Bool.and_eq_false_iff, decide_eq_false_iff_not]
    omega
  simp only [codePoint, hunit, bind, Except.bind, hnotLow, hnotHigh]
  simp [Char.ofNat_toNat]

/-- A character is written by a letter of its own, by its number, or as it stands. -/
theorem writeChar_cases (c : Char) :
    (∃ d, shortEscape? d = some c ∧ writeChar c = ['\\', d]) ∨
      (c < ' ' ∧ writeChar c = '\\' :: 'u' :: '0' :: '0' ::
        [lowerHexDigit (c.toNat / 16), lowerHexDigit (c.toNat % 16)]) ∨
      (c ≠ '"' ∧ c ≠ '\\' ∧ ¬ c < ' ' ∧ writeChar c = [c]) := by
  by_cases hshort : ∃ d ∈ ['"', '\\', 'b', 'f', 'n', 'r', 't'], shortEscape? d = some c
  · obtain ⟨d, hd, hc⟩ := hshort
    refine .inl ⟨d, hc, ?_⟩
    simp only [List.mem_cons, List.not_mem_nil, or_false] at hd
    rcases hd with rfl | rfl | rfl | rfl | rfl | rfl | rfl <;> cases hc <;> rfl
  · have hne (d x : Char) (hd : d ∈ ['"', '\\', 'b', 'f', 'n', 'r', 't'])
        (hx : shortEscape? d = some x) : c ≠ x := by
      rintro rfl
      exact hshort ⟨d, hd, hx⟩
    have hquote := hne '"' '"' (by decide) rfl
    have hslash := hne '\\' '\\' (by decide) rfl
    have hb := hne 'b' '\x08' (by decide) rfl
    have hf := hne 'f' '\x0c' (by decide) rfl
    have hn := hne 'n' '\n' (by decide) rfl
    have hr := hne 'r' '\r' (by decide) rfl
    have ht := hne 't' '\t' (by decide) rfl
    unfold writeChar
    rw [if_neg hquote, if_neg hslash, if_neg hb, if_neg hf, if_neg hn, if_neg hr, if_neg ht]
    by_cases hlt : c < ' '
    · rw [if_pos hlt]
      exact .inr (.inl ⟨hlt, rfl⟩)
    · rw [if_neg hlt]
      exact .inr (.inr ⟨hquote, hslash, hlt, rfl⟩)

/-! ## Strings -/

section Pieces

variable {α : Type} {escaped : Reader α} {plain : Char → α} {piece : List Char} {x : α}
  {pieces : List (List Char)} {xs : List α}

/-- The reader of strings takes the text as one piece, whatever stands behind it. -/
def TakesPiece (escaped : Reader α) (plain : Char → α) (piece : List Char) (x : α) : Prop :=
  ∀ fuel r, textFrom escaped plain (fuel + 1) (piece ++ r) =
    (textFrom escaped plain fuel r).map fun p => (x :: p.1, p.2)

theorem takesPiece_escaped (h : ∀ r, escaped (piece ++ r) = .ok (x, r)) :
    TakesPiece escaped plain ('\\' :: piece) x := by
  intro fuel r
  rw [List.cons_append, textFrom]
  simp only [h, if_neg (by decide : ¬ '\\' = '"'), if_true, bind, Except.bind]
  cases textFrom escaped plain fuel r <;> rfl

theorem takesPiece_plain {c : Char} (hquote : c ≠ '"') (hslash : c ≠ '\\') (hlt : ¬ c < ' ') :
    TakesPiece escaped plain [c] (plain c) := by
  intro fuel r
  rw [List.singleton_append, textFrom]
  simp only [if_neg hquote, if_neg hslash, if_neg hlt, bind, Except.bind]
  cases textFrom escaped plain fuel r <;> rfl

/-- Without a piece nothing is read, as the closing quote alone shows. -/
theorem TakesPiece.ne_nil (h : TakesPiece escaped plain piece x) : piece ≠ [] := by
  rintro rfl
  cases h 0 ['"']

theorem textFrom_pieces (h : List.Forall₂ (TakesPiece escaped plain) pieces xs) {fuel : Nat}
    (hfuel : pieces.length < fuel) (r : List Char) :
    textFrom escaped plain fuel (pieces.flatten ++ '"' :: r) = .ok (xs, r) := by
  induction h generalizing fuel with
  | nil =>
    obtain ⟨fuel, rfl⟩ := Nat.exists_eq_succ_of_ne_zero (Nat.ne_zero_of_lt hfuel)
    rfl
  | cons hx _ ih =>
    obtain ⟨fuel, rfl⟩ := Nat.exists_eq_succ_of_ne_zero (Nat.ne_zero_of_lt hfuel)
    rw [List.flatten_cons, List.append_assoc, hx, ih (Nat.lt_of_succ_lt_succ hfuel)]
    rfl

theorem length_le_length_flatten (h : List.Forall₂ (TakesPiece escaped plain) pieces xs) :
    pieces.length ≤ pieces.flatten.length := by
  induction h with
  | nil => exact Nat.le_refl _
  | cons hx _ ih =>
    have hpos := List.length_pos_iff.2 hx.ne_nil
    rw [List.flatten_cons, List.length_append, List.length_cons]
    omega

/-- The length of the text is fuel enough. -/
theorem textFrom_length (h : List.Forall₂ (TakesPiece escaped plain) pieces xs) (r : List Char) :
    textFrom escaped plain ((pieces.flatten ++ '"' :: r).length + 1)
      (pieces.flatten ++ '"' :: r) = .ok (xs, r) := by
  have hlength := length_le_length_flatten h
  refine textFrom_pieces h ?_ r
  rw [List.length_append]
  omega

end Pieces

/-- What is written for a character is read as that character. -/
theorem takesPiece_writeChar (c : Char) : TakesPiece escape id (writeChar c) c := by
  rcases writeChar_cases c with ⟨d, hd, h⟩ | ⟨hlt, h⟩ | ⟨hquote, hslash, hlt, h⟩
  · have hu : d ≠ 'u' := by
      rintro rfl
      cases hd
    rw [h]
    exact takesPiece_escaped fun r => by simp [escape, hu, hd]
  · rw [h]
    refine takesPiece_escaped fun r => ?_
    rw [List.cons_append, escape, if_pos rfl]
    exact codePoint_control hlt r
  · rw [h]
    exact takesPiece_plain hquote hslash hlt

/-- A written string is read back up to its last quote. -/
theorem textTail_writeText (s : String) (r : List Char) :
    textTail (s.toList.flatMap writeChar ++ '"' :: r) = .ok (s, r) := by
  have hpieces : List.Forall₂ (TakesPiece escape id) (s.toList.map writeChar) s.toList := by
    rw [List.forall₂_map_left_iff, List.forall₂_same]
    exact fun c _ => takesPiece_writeChar c
  simp only [textTail, List.flatMap_def, textFrom_length hpieces, bind, Except.bind,
    String.ofList_toList]

theorem writeText_append (s : String) (r : List Char) :
    writeText s ++ r = '"' :: (s.toList.flatMap writeChar ++ '"' :: r) := by
  simp [writeText]

end Reader

end Json

end BenchTracker
