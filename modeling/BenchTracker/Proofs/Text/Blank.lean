import BenchTracker.Text.Blank
import Mathlib.Data.List.TakeWhile

/-!
# Texts without blanks

White space is only taken away where there is some. What is left begins and ends with a character
that is not blank, and this together with the blanks around it determines it.
-/

namespace BenchTracker

namespace Text

variable {s : List Char}

/-- The printable characters of ASCII are not blank. -/
theorem isBlank_eq_false {c : Char} (hlow : 32 < c.toNat) (hhigh : c.toNat < 128) :
    isBlank c = false := by
  simp only [isBlank, Bool.or_eq_false_iff, Bool.and_eq_false_iff, decide_eq_false_iff_not,
    beq_eq_false_iff_ne]
  omega

theorem isBlank_of_isDigit {c : Char} (h : c.isDigit = true) : isBlank c = false := by
  simp only [Char.isDigit, Bool.and_eq_true, decide_eq_true_eq] at h
  have hlow : 48 ≤ c.toNat := h.1
  have hhigh : c.toNat ≤ 57 := h.2
  exact isBlank_eq_false (by omega) (by omega)

theorem trimStart_append (h : ∀ c ∈ s, isBlank c = false) (hne : s ≠ []) (t : List Char) :
    trimStart (s ++ t) = s ++ t := by
  obtain ⟨c, r, rfl⟩ := List.exists_cons_of_ne_nil hne
  simp [trimStart, h c List.mem_cons_self]

theorem trim_eq_self (h : ∀ c ∈ s, isBlank c = false) : trim s = s := by
  by_cases hnil : s = []
  · subst s
    rfl
  · have hfront := trimStart_append h hnil []
    have hback := trimStart_append (fun c hc => h c (List.mem_reverse.1 hc))
      (mt List.reverse_eq_nil_iff.1 hnil) []
    rw [List.append_nil] at hfront hback
    rw [trim, hfront, trimEnd, ← trimStart, hback, List.reverse_reverse]

/-- The line break behind a text without blanks is taken away. -/
theorem trim_append_newline (h : ∀ c ∈ s, isBlank c = false) : trim (s ++ ['\n']) = s := by
  by_cases hnil : s = []
  · subst s
    rfl
  · have hnewline : trimEnd (s ++ ['\n']) = trimEnd s := by
      rw [trimEnd, trimEnd, List.reverse_append]
      rfl
    have hfront := trimStart_append h hnil []
    have hself := trim_eq_self h
    rw [List.append_nil] at hfront
    rw [trim, hfront] at hself
    rw [trim, trimStart_append h hnil, hnewline, hself]

/-! ## What is left -/

/-- The second text is what is left of the first one without the white space around it. -/
structure TrimsTo (s t : List Char) : Prop where
  around : ∃ front back, s = front ++ t ++ back ∧ (∀ c ∈ front, isBlank c = true) ∧
    ∀ c ∈ back, isBlank c = true
  first : ∀ c ∈ t.head?, isBlank c = false
  last : ∀ c ∈ t.getLast?, isBlank c = false

theorem trimStart_of_blank {front : List Char} (h : ∀ c ∈ front, isBlank c = true)
    (t : List Char) : trimStart (front ++ t) = trimStart t :=
  List.dropWhile_append_of_pos h

theorem trimStart_of_head? (h : ∀ c ∈ s.head?, isBlank c = false) : trimStart s = s := by
  cases s with
  | nil => rfl
  | cons c r =>
    have hc : ¬ isBlank c = true := by simp [h c rfl]
    exact List.dropWhile_cons_of_neg hc

theorem head?_trimStart (s : List Char) : ∀ c ∈ (trimStart s).head?, isBlank c = false := by
  intro c hc
  have hhead := List.head?_dropWhile_not isBlank s
  rw [trimStart, Option.mem_def] at hc
  rw [hc] at hhead
  exact hhead

theorem trimEnd_eq (s : List Char) : trimEnd s = (trimStart s.reverse).reverse := rfl

/-- White space in front is a part of the text. -/
theorem exists_trimStart (s : List Char) :
    ∃ front, s = front ++ trimStart s ∧ ∀ c ∈ front, isBlank c = true :=
  ⟨s.takeWhile isBlank, List.takeWhile_append_dropWhile.symm, fun _ hc => List.mem_takeWhile_imp hc⟩

theorem exists_trimEnd (s : List Char) :
    ∃ back, s = trimEnd s ++ back ∧ ∀ c ∈ back, isBlank c = true := by
  obtain ⟨front, hfront, hblank⟩ := exists_trimStart s.reverse
  refine ⟨front.reverse, ?_, fun c hc => hblank c (List.mem_reverse.1 hc)⟩
  rw [trimEnd_eq, ← List.reverse_append, ← hfront, List.reverse_reverse]

theorem trimsTo_trim (s : List Char) : TrimsTo s (trim s) := by
  obtain ⟨front, hfront, hblank⟩ := exists_trimStart s
  obtain ⟨back, hback, hblank'⟩ := exists_trimEnd (trimStart s)
  rw [← trim] at hback
  refine ⟨⟨front, back, ?_, hblank, hblank'⟩, fun c hc => ?_, fun c hc => ?_⟩
  · rw [List.append_assoc, ← hback, ← hfront]
  · apply head?_trimStart s c
    rw [hback, List.head?_append, Option.mem_def.1 hc]
    rfl
  · rw [trim, trimEnd_eq, List.getLast?_reverse] at hc
    exact head?_trimStart _ c hc

/-- There is only one way to take the white space around a text away. -/
theorem trim_eq_iff {t : List Char} : trim s = t ↔ TrimsTo s t := by
  constructor
  · rintro rfl
    exact trimsTo_trim s
  · rintro ⟨⟨front, back, rfl, hfront, hback⟩, hfirst, hlast⟩
    have hend : trimEnd (t ++ back) = t := by
      rw [trimEnd_eq, List.reverse_append, trimStart_of_blank, trimStart_of_head?,
        List.reverse_reverse]
      · intro c hc
        rw [List.head?_reverse] at hc
        exact hlast c hc
      · intro c hc
        exact hback c (List.mem_reverse.1 hc)
    rw [trim, List.append_assoc, trimStart_of_blank hfront]
    cases t with
    | nil =>
      -- All of the text is blank, so that the blanks behind are in front as well.
      have hnone := trimStart_of_blank hback []
      rw [List.append_nil] at hnone
      rw [List.nil_append, hnone]
      rfl
    | cons c r => rw [trimStart_of_head? (s := c :: r ++ back) hfirst, hend]

/-- A text without blanks is left as it is. -/
theorem trimsTo_self (h : ∀ c ∈ s, isBlank c = false) : TrimsTo s s :=
  trim_eq_iff.1 (trim_eq_self h)

end Text

end BenchTracker
