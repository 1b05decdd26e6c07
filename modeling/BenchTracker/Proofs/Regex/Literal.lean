import BenchTracker.Alias
import BenchTracker.Proofs.Regex.CharSet
import BenchTracker.Proofs.Regex.Matching
import Mathlib.Data.List.Forall2

/-!
# Patterns made of single characters

A pattern in which no character has an effect on others is read one character after the other, and
its expression matches a row of characters, one of each set. An escaped text is such a pattern. With
letters of either case alike it matches the text itself up to case, and nothing else.
-/

namespace BenchTracker

namespace Regex

/-! ## Reading -/

namespace Parser

variable {α : Type} {c : Char} {s t : List Char} {names : List (List Char)} {p : Pattern}
  {ps items done : List Pattern} {ts : List (List Char)} {fuel : Nat} {inGroup : Bool}

theorem next_bind (f : Char → Parse α) :
    (next >>= f) ⟨c :: s, false, names⟩ = f c ⟨c :: s, false, names⟩ := rfl

theorem next?_bind (f : Option Char → Parse α) :
    (next? >>= f) ⟨s, false, names⟩ = f s.head? ⟨s, false, names⟩ := rfl

theorem bump_bind (f : Unit → Parse α) :
    (bump >>= f) ⟨c :: s, false, names⟩ = f () ⟨s, false, names⟩ := rfl

theorem skip_bind (f : Unit → Parse α) :
    (skip >>= f) ⟨s, false, names⟩ = f () ⟨s, false, names⟩ := rfl

/-- A character without a meaning of its own, or with one that is spelled by it alone. -/
theorem single_plain (hc : c ∉ ['\\', '.', '^', '$']) :
    single ⟨c :: s, false, names⟩ = some (.literal c false, ⟨s, false, names⟩) := by
  simp only [List.mem_cons, List.not_mem_nil, or_false, not_or] at hc
  obtain ⟨hbackslash, hdot, hcaret, hdollar⟩ := hc
  rw [single, next_bind, if_neg hbackslash, bump_bind]
  split
  · exact absurd rfl hdot
  · exact absurd rfl hcaret
  · exact absurd rfl hdollar
  · rfl

theorem single_escaped (hc : isMeta c = true) :
    single ⟨'\\' :: c :: s, false, names⟩ = some (.literal c false, ⟨s, false, names⟩) := by
  simp only [isMeta, List.mem_cons, List.not_mem_nil, or_false, decide_eq_true_eq] at hc
  rcases hc with rfl | rfl | rfl | rfl | rfl | rfl | rfl | rfl | rfl | rfl | rfl | rfl | rfl | rfl |
    rfl | rfl | rfl | rfl <;> rfl

/-- The text is read as one item that has no effect on others and nothing within it. -/
structure ReadsItem (t : List Char) (p : Pattern) : Prop where
  depth : p.depth = 0
  starts : ∃ c r, t = c :: r ∧ c ∉ [')', '|', '(', '[', '?', '*', '+', '\x7b']
  reads : ∀ s names, single ⟨t ++ s, false, names⟩ = some (p, ⟨s, false, names⟩)

theorem alternatives_of_item (h : ReadsItem t p) (s : List Char) :
    alternatives inGroup (fuel + 1) done items ⟨t ++ s, false, names⟩ =
      alternatives inGroup fuel done (p :: items) ⟨s, false, names⟩ := by
  have hreads := h.reads s names
  obtain ⟨c, r, rfl, hc⟩ := h.starts
  simp only [List.mem_cons, List.not_mem_nil, or_false, not_or] at hc
  obtain ⟨hclose, hbar, hopen, hbracket, hquestion, hstar, hplus, hbrace⟩ := hc
  rw [alternatives, skip_bind, next?_bind]
  simp only [List.cons_append, List.head?_cons, if_neg hclose, if_neg hbar, if_neg hopen,
    if_neg hbracket, hquestion, hstar, hplus, hbrace, or_self, if_false]
  rw [List.cons_append] at hreads
  simp only [bind, StateT.bind, hreads, Option.bind]

theorem alternatives_nil : alternatives false (fuel + 1) done items ⟨[], false, names⟩ =
    some (.ofAlternatives (.ofSequence items.reverse :: done).reverse, ⟨[], false, names⟩) := rfl

theorem alternatives_of_items (h : List.Forall₂ ReadsItem ts ps) (hfuel : ts.length < fuel) :
    alternatives false fuel [] items ⟨ts.flatten, false, names⟩ =
      some (.ofSequence (items.reverse ++ ps), ⟨[], false, names⟩) := by
  obtain ⟨fuel, rfl⟩ := Nat.exists_eq_succ_of_ne_zero (Nat.ne_zero_of_lt hfuel)
  induction h generalizing fuel items with
  | nil =>
    rw [List.flatten_nil, alternatives_nil, List.append_nil]
    rfl
  | @cons t p ts ps hitem _ ih =>
    obtain ⟨fuel, rfl⟩ := Nat.exists_eq_succ_of_ne_zero (n := fuel) (by
      rintro rfl
      simp at hfuel)
    rw [List.flatten_cons, alternatives_of_item hitem, ih fuel (Nat.lt_of_succ_lt_succ hfuel)]
    simp

end Parser

variable {c : Char} {ps : List Pattern} {ts : List (List Char)} {text : List Char}
  {sets : List CharSet} {f : Flags} {i j : Nat}

theorem length_le_length_flatten (h : List.Forall₂ Parser.ReadsItem ts ps) :
    ts.length ≤ ts.flatten.length := by
  induction h with
  | nil => exact Nat.le_refl _
  | cons hitem _ ih =>
    obtain ⟨c, r, rfl, -⟩ := hitem.starts
    simp only [List.flatten_cons, List.length_append, List.length_cons]
    omega

theorem depthOfAll_eq_zero (h : List.Forall₂ Parser.ReadsItem ts ps) :
    Pattern.depthOfAll ps = 0 := by
  induction h with
  | nil => rfl
  | cons hitem _ ih => rw [Pattern.depthOfAll, hitem.depth, ih, Nat.max_self]

theorem depth_ofSequence_le (h : List.Forall₂ Parser.ReadsItem ts ps) :
    (Pattern.ofSequence ps).depth ≤ 1 := by
  match ps with
  | [] => exact Nat.zero_le _
  | [p] =>
    obtain ⟨t, -, hitem, -⟩ := List.forall₂_cons_right_iff.1 h
    exact Nat.le_trans (Nat.le_of_eq hitem.depth) (Nat.zero_le _)
  | p :: q :: rest =>
    rw [Pattern.ofSequence, Pattern.depth, depthOfAll_eq_zero h]
    all_goals simp

theorem read?_flatten (h : List.Forall₂ Parser.ReadsItem ts ps) :
    Pattern.read? ts.flatten = some (.ofSequence ps) := by
  have hread : Parser.alternatives false (ts.flatten.length + 1) [] [] ⟨ts.flatten, false, []⟩ =
      some (.ofSequence ps, ⟨[], false, []⟩) :=
    Parser.alternatives_of_items h (Nat.lt_succ_of_le (length_le_length_flatten h))
  have hlimit : (Pattern.ofSequence ps).depth ≤ Pattern.depthLimit :=
    Nat.le_trans (depth_ofSequence_le h) (by decide)
  simp only [Pattern.read?, StateT.run, hread, bind, Option.bind, if_pos hlimit]

/-! ## Matching -/

/-- The expression for one character of each set, one after the other. -/
def row : List CharSet → Regex
  | [] => .empty
  | set :: rest => .seq (.chars set) (row rest)

/-- One character of each set. -/
def InRow : List CharSet → List Char → Prop :=
  List.Forall₂ fun set c => set.contains c.toNat = true

theorem spans_row : Spans text (row sets) i j ↔
    (∃ part, part <+: text.drop i ∧ InRow sets part) ∧ i + sets.length = j := by
  induction sets generalizing i with
  | nil =>
    simp only [row, Spans, InRow, List.forall₂_nil_left_iff, exists_eq_right, List.nil_prefix,
      true_and, List.length_nil, Nat.add_zero]
  | cons set rest ih =>
    simp only [row, Spans, ih, List.length_cons]
    constructor
    · rintro ⟨k, ⟨⟨c, hc, hset⟩, rfl⟩, ⟨part, hpart, hrow⟩, rfl⟩
      obtain ⟨hlt, rfl⟩ := List.getElem?_eq_some_iff.1 hc
      refine ⟨⟨text[i] :: part, ?_, .cons hset hrow⟩, by omega⟩
      rw [List.drop_eq_getElem_cons hlt]
      exact List.cons_prefix_cons.2 ⟨rfl, hpart⟩
    · rintro ⟨⟨part, hpart, hrow⟩, rfl⟩
      obtain ⟨c, part, hset, hrest, rfl⟩ := List.forall₂_cons_left_iff.1 hrow
      have hlt : i < text.length := by
        have hlength := hpart.length_le
        rw [List.length_cons, List.length_drop] at hlength
        omega
      rw [List.drop_eq_getElem_cons hlt, List.cons_prefix_cons] at hpart
      obtain ⟨rfl, hpart⟩ := hpart
      refine ⟨i + 1, ⟨⟨text[i], List.getElem?_eq_getElem hlt, hset⟩, rfl⟩, ⟨part, hpart, hrest⟩, ?_⟩
      omega

theorem matches_row : (row sets).Matches text ↔ ∃ part, part <:+: text ∧ InRow sets part := by
  simp only [Matches, spans_row]
  constructor
  · rintro ⟨i, -, -, ⟨part, hpart, hrow⟩, -⟩
    exact ⟨part, hpart.isInfix.trans (List.drop_suffix i text).isInfix, hrow⟩
  · rintro ⟨part, ⟨front, back, rfl⟩, hrow⟩
    refine ⟨front.length, _, ?_, ⟨part, ?_, hrow⟩, rfl⟩
    · simp only [List.append_assoc, List.length_append]
      omega
    · rw [List.append_assoc, List.drop_left]
      exact List.prefix_append part back

/-- The pattern stands for one character of the set and leaves the flags as they are. -/
def StandsFor (f : Flags) (p : Pattern) (set : CharSet) : Prop :=
  p.meaning f = some (.chars set, f)

theorem sequenceMeaning_eq (h : List.Forall₂ (StandsFor f) ps sets) :
    Pattern.sequenceMeaning f ps = some (row sets, f) := by
  induction h with
  | nil => rfl
  | cons hp _ ih =>
    rw [StandsFor] at hp
    simp only [Pattern.sequenceMeaning, hp, ih, bind, Option.bind]
    rfl

theorem exists_meaning_ofSequence (h : List.Forall₂ (StandsFor f) ps sets) :
    ∃ r, (Pattern.ofSequence ps).meaning f = some (r, f) ∧
      ∀ text, r.Matches text ↔ ∃ part, part <:+: text ∧ InRow sets part := by
  match h with
  | .nil =>
    have hempty (text : List Char) : (row []).Matches text ↔ _ := matches_row
    exact ⟨.empty, rfl, hempty⟩
  | .cons (b := set) hp .nil =>
    refine ⟨.chars set, hp, fun text => ?_⟩
    -- The sequence of a single item has nothing behind it.
    have hsame : (Regex.chars set).Matches text ↔ (row [set]).Matches text := by
      simp only [Matches, row, Spans, exists_eq_right]
    rw [hsame, matches_row]
  | .cons hp (.cons hq hrest) =>
    refine ⟨_, ?_, fun text => matches_row⟩
    exact sequenceMeaning_eq (.cons hp (.cons hq hrest))

end Regex

end BenchTracker
