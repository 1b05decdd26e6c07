import BenchTracker.Regex.Basic
import Mathlib.Data.List.Count

/-!
# What expressions match

An expression matches a part of a text, from one place to another. The matcher carries a whole set
of places along, and what it does with them is the image under this relation. So it finds a match
just if the expression matches some part of the text. Repetitions without an upper limit are no
exception: while places are added there is one that was not yet there, and so the number of places
bounds the number of rounds.
-/

namespace BenchTracker

namespace Regex

/-! ## Parts of a text -/

/-- The characters on the two sides of the `i`-th place of a text. -/
def Place.at (text : List Char) (i : Nat) : Place := ⟨(text.take i).getLast?, text[i]?⟩

/-- A number of steps, one after the other. -/
def Times (R : Nat → Nat → Prop) : Nat → Nat → Nat → Prop
  | 0, i, j => i = j
  | n + 1, i, k => ∃ j, R i j ∧ Times R n j k

/-- The expression matches the part of the text between two places. A repetition whose upper limit
is below the lower one has just the lower number of rounds. -/
def Spans (text : List Char) : Regex → Nat → Nat → Prop
  | empty, i, j => i = j
  | chars set, i, j => (∃ c, text[i]? = some c ∧ set.contains c.toNat = true) ∧ i + 1 = j
  | look l, i, j => l.holds (Place.at text i) = true ∧ i = j
  | seq r s, i, k => ∃ j, Spans text r i j ∧ Spans text s j k
  | alt r s, i, j => Spans text r i j ∨ Spans text s i j
  | repeated r least most, i, j =>
    ∃ n, least ≤ n ∧ (∀ m ∈ most, n ≤ max least m) ∧ Times (Spans text r) n i j
  | group r, i, j => Spans text r i j

/-- The expression matches some part of the text. -/
def Matches (r : Regex) (text : List Char) : Prop :=
  ∃ i j, i ≤ text.length ∧ Spans text r i j

variable {R S : Nat → Nat → Prop} {i j k m n : Nat}

theorem times_add : Times R (m + n) i k ↔ ∃ j, Times R m i j ∧ Times R n j k := by
  induction m generalizing i with
  | zero => simp [Times]
  | succ m ih =>
    rw [Nat.succ_add_eq_add_succ, Nat.add_succ]
    simp only [Times, ih]
    grind

/-! ## Sets of places -/

namespace Places

variable {text : List Char} {step step' : Places → Places} {a b : Places}

/-- The place belongs to the set. -/
def Has (a : Places) (i : Nat) : Prop := a[i]? = some true

theorem Has.lt (h : a.Has i) : i < a.length := (List.getElem?_eq_some_iff.1 h).1

theorem isEmpty_eq_false_iff : a.isEmpty = false ↔ ∃ i, a.Has i := by
  simp only [isEmpty, List.all_eq_false, Bool.not_eq_true, Bool.not_eq_false', Has]
  constructor
  · rintro ⟨x, hx, rfl⟩
    exact List.mem_iff_getElem?.1 hx
  · rintro ⟨i, hi⟩
    exact ⟨true, List.mem_of_getElem? hi, rfl⟩

theorem has_union (h : a.length = b.length) : (a.union b).Has i ↔ a.Has i ∨ b.Has i := by
  simp only [Has, union, List.getElem?_zipWith]
  by_cases hi : i < a.length
  · simp [List.getElem?_eq_getElem hi, List.getElem?_eq_getElem (h ▸ hi)]
  · have hb : b.length ≤ i := h ▸ Nat.le_of_not_lt hi
    simp [List.getElem?_eq_none (Nat.le_of_not_lt hi), List.getElem?_eq_none hb]

theorem length_union (h : a.length = b.length) : (a.union b).length = a.length := by
  simp [union, h]

/-- The step carries the places of a text along a relation. -/
structure Carries (text : List Char) (step : Places → Places) (R : Nat → Nat → Prop) : Prop where
  length : ∀ a : Places, a.length = text.length + 1 → (step a).length = text.length + 1
  has : ∀ a : Places, a.length = text.length + 1 → ∀ j, (step a).Has j ↔ ∃ i, a.Has i ∧ R i j

theorem carries_id : Carries text (fun a => a) (fun i j => i = j) :=
  ⟨fun _ h => h, fun a _ j => by simp⟩

theorem Carries.comp (h : Carries text step R) (h' : Carries text step' S) :
    Carries text (fun a => step' (step a)) (fun i k => ∃ j, R i j ∧ S j k) := by
  refine ⟨fun a ha => h'.length _ (h.length a ha), fun a ha k => ?_⟩
  rw [h'.has _ (h.length a ha)]
  simp only [h.has a ha]
  grind

theorem Carries.union (h : Carries text step R) (h' : Carries text step' S) :
    Carries text (fun a => (step a).union (step' a)) (fun i j => R i j ∨ S i j) := by
  have hlength (a : Places) (ha : a.length = text.length + 1) :
      (step a).length = (step' a).length := (h.length a ha).trans (h'.length a ha).symm
  refine ⟨fun a ha => (length_union (hlength a ha)).trans (h.length a ha), fun a ha j => ?_⟩
  rw [has_union (hlength a ha), h.has a ha, h'.has a ha]
  grind

theorem carries_advance (text : List Char) (set : CharSet) :
    Carries text (fun a => a.advance text set) (Spans text (.chars set)) := by
  refine ⟨fun a ha => by simp [advance, ha], fun a ha j => ?_⟩
  cases j with
  | zero => simp [Has, advance, Spans]
  | succ j =>
    simp only [Has, advance, List.getElem?_cons_succ, List.getElem?_zipWith, Spans]
    constructor
    · intro h
      split at h
      · rename_i c here hc hhere
        obtain ⟨rfl, hset⟩ := Bool.and_eq_true_iff.1 (Option.some.inj h)
        exact ⟨j, hhere, ⟨c, hc, hset⟩, rfl⟩
      · cases h
    · rintro ⟨i, hi, ⟨c, hc, hset⟩, hij⟩
      obtain rfl : i = j := Nat.succ.inj hij
      simp [hi, hc, hset]

theorem getElem?_ofText (h : i ≤ text.length) : (ofText text)[i]? = some (Place.at text i) := by
  have hbefore : (none :: text.map some)[i]? = some (text.take i).getLast? := by
    cases i with
    | zero => simp
    | succ i =>
      have hi : i < text.length := h
      simp [List.getLast?_take, hi]
  have hafter : (text.map some ++ [none])[i]? = some text[i]? := by
    rcases Nat.lt_or_eq_of_le h with hi | rfl
    · rw [List.getElem?_append_left (by simpa using hi)]
      simp [hi]
    · simp
  rw [ofText, List.getElem?_zipWith, hbefore, hafter]
  rfl

theorem carries_restrict (text : List Char) (l : Look) :
    Carries text (fun a => a.restrict text l) (Spans text (.look l)) := by
  have hlength : (ofText text).length = text.length + 1 := by simp [ofText]
  refine ⟨fun a ha => by simp [restrict, hlength, ha], fun a ha j => ?_⟩
  simp only [Has, restrict, List.getElem?_zipWith, Spans]
  by_cases hj : j ≤ text.length
  · rw [getElem?_ofText hj, List.getElem?_eq_getElem (by omega)]
    grind
  · rw [List.getElem?_eq_none (by omega)]
    grind

/-! ## Repetitions -/

theorem Carries.iterate (h : Carries text step R) (n : Nat) :
    Carries text (Places.iterate step n) (Times R n) := by
  induction n with
  | zero => exact carries_id
  | succ n ih =>
    refine ⟨fun a ha => ?_, fun a ha j => ?_⟩
    · rw [Places.iterate]
      split
      · exact ha
      · exact ih.length _ (h.length a ha)
    · rw [Places.iterate]
      split
      · -- No place is left to go on from.
        rename_i hempty
        have hnone (i : Nat) : ¬ a.Has i := fun hi => by
          simp [isEmpty_eq_false_iff.2 ⟨i, hi⟩] at hempty
        simp [hnone]
      · rw [ih.has _ (h.length a ha)]
        simp only [h.has a ha, Times]
        grind

/-- Going on from the set leads to no other place. -/
def Closed (R : Nat → Nat → Prop) (a : Places) : Prop := ∀ i j, a.Has i → R i j → a.Has j

theorem Closed.times (h : Closed R a) (hi : a.Has i) (ht : Times R n i j) : a.Has j := by
  induction n generalizing i with
  | zero => exact ht ▸ hi
  | succ n ih =>
    obtain ⟨k, hik, hkj⟩ := ht
    exact ih (h i k hi hik) hkj

theorem Carries.closed_of_union_eq (h : Carries text step R) (ha : a.length = text.length + 1)
    (heq : a.union (step a) = a) : Closed R a := by
  intro i j hi hij
  rw [← heq, has_union (ha.trans (h.length a ha).symm), h.has a ha]
  exact .inr ⟨i, hi, hij⟩

theorem Carries.reach (h : Carries text step R) (n : Nat) :
    Carries text (Places.reach step n) (fun i j => ∃ m ≤ n, Times R m i j) := by
  induction n with
  | zero =>
    refine ⟨fun a ha => ha, fun a ha j => ?_⟩
    simp [Places.reach, Times]
  | succ n ih =>
    have hunion := carries_id.union h
    refine ⟨fun a ha => ?_, fun a ha j => ?_⟩
    · rw [Places.reach]
      split
      · exact ha
      · exact ih.length _ (hunion.length a ha)
    · rw [Places.reach]
      split
      · rename_i heq
        constructor
        · exact fun hj => ⟨j, hj, 0, Nat.zero_le _, rfl⟩
        · rintro ⟨i, hi, m, -, ht⟩
          exact (h.closed_of_union_eq ha heq).times hi ht
      · rw [ih.has _ (hunion.length a ha)]
        simp only [hunion.has a ha]
        constructor
        · rintro ⟨i, ⟨k, hk, rfl | hki⟩, m, hm, ht⟩
          · exact ⟨k, hk, m, by omega, ht⟩
          · exact ⟨k, hk, m + 1, by omega, i, hki, ht⟩
        · rintro ⟨i, hi, m, hm, ht⟩
          cases m with
          | zero => exact ⟨i, ⟨i, hi, .inl rfl⟩, 0, Nat.zero_le _, ht⟩
          | succ m =>
            obtain ⟨k, hik, hkj⟩ := ht
            exact ⟨k, ⟨i, hi, .inr hik⟩, m, by omega, hkj⟩

theorem count_lt_count_union (h : a.length = b.length) (hne : a.union b ≠ a) :
    a.count true < (a.union b).count true := by
  induction a generalizing b with
  | nil => simp [Places.union] at hne
  | cons x a ih =>
    cases b with
    | nil => simp at h
    | cons y b =>
      have hlength : a.length = b.length := Nat.succ.inj h
      have hcons : union (x :: a) (y :: b) = (x || y) :: union a b := rfl
      have hle : a.count true ≤ (union a b).count true := by
        by_cases hrest : union a b = a
        · exact Nat.le_of_eq (congrArg _ hrest.symm)
        · exact Nat.le_of_lt (ih hlength hrest)
      rw [hcons] at hne ⊢
      cases x with
      | true =>
        have hrest : union a b ≠ a := fun heq => hne (by rw [heq]; rfl)
        simpa using ih hlength hrest
      | false =>
        cases y with
        | true => simpa using Nat.lt_succ_of_le hle
        | false =>
          have hrest : union a b ≠ a := fun heq => hne (by rw [heq]; rfl)
          simpa using ih hlength hrest

/-- With a round for every place that is missing, nothing remains to be reached. -/
theorem Carries.closed_reach (h : Carries text step R) (ha : a.length = text.length + 1)
    (hn : text.length + 1 ≤ a.count true + n) : Closed R (Places.reach step n a) := by
  induction n generalizing a with
  | zero =>
    -- Every place belongs to the set already.
    have hall : ∀ x ∈ a, true = x := List.count_eq_length.1
      (Nat.le_antisymm List.count_le_length (by omega))
    intro i j hi hij
    have hj : j < a.length := by
      have hstep : (step a).Has j := (h.has a ha j).2 ⟨i, hi, hij⟩
      have hlt := hstep.lt
      rw [h.length a ha] at hlt
      omega
    rw [Places.reach, Has, List.getElem?_eq_getElem hj, ← hall _ (List.getElem_mem hj)]
  | succ n ih =>
    rw [Places.reach]
    split
    · exact h.closed_of_union_eq ha ‹_›
    · rename_i hne
      have hlength : a.length = (step a).length := ha.trans (h.length a ha).symm
      have hcount := count_lt_count_union hlength hne
      exact ih ((length_union hlength).trans ha) (by omega)

theorem Carries.reach_all (h : Carries text step R) :
    Carries text (Places.reach step (text.length + 1)) (fun i j => ∃ m, Times R m i j) := by
  have hreach := h.reach (text.length + 1)
  refine ⟨hreach.length, fun a ha j => ⟨fun hj => ?_, ?_⟩⟩
  · obtain ⟨i, hi, m, -, ht⟩ := (hreach.has a ha j).1 hj
    exact ⟨i, hi, m, ht⟩
  · rintro ⟨i, hi, m, ht⟩
    have hstart : (Places.reach step (text.length + 1) a).Has i :=
      (hreach.has a ha i).2 ⟨i, hi, 0, Nat.zero_le _, rfl⟩
    exact (h.closed_reach ha (by omega)).times hstart ht

end Places

/-! ## Matches -/

open Places (Carries)

theorem carries_repeated {text : List Char} {r : Regex}
    (h : Carries text (ends text r) (Spans text r)) (least : Nat) (most : Option Nat) :
    Carries text (ends text (.repeated r least most)) (Spans text (.repeated r least most)) := by
  have hrounds (count : Nat) (bound : Nat → Prop)
      (hends : ends text (.repeated r least most) = fun a =>
        Places.reach (ends text r) count (Places.iterate (ends text r) least a))
      (hreach : Carries text (Places.reach (ends text r) count)
        (fun i j => ∃ m, bound m ∧ Times (Spans text r) m i j))
      (hbound : ∀ m, bound m ↔ ∀ n ∈ most, least + m ≤ max least n) :
      Carries text (ends text (.repeated r least most)) (Spans text (.repeated r least most)) := by
    have hcomp := (h.iterate least).comp hreach
    rw [hends]
    refine ⟨hcomp.length, fun a ha j => (hcomp.has a ha j).trans ?_⟩
    refine exists_congr fun i => and_congr_right fun _ => ?_
    rw [Spans]
    constructor
    · rintro ⟨k, hik, m, hm, hkj⟩
      exact ⟨least + m, Nat.le_add_right _ _, (hbound m).1 hm, times_add.2 ⟨k, hik, hkj⟩⟩
    · rintro ⟨n, hleast, hmost, ht⟩
      obtain ⟨m, rfl⟩ := Nat.exists_eq_add_of_le hleast
      obtain ⟨k, hik, hkj⟩ := times_add.1 ht
      exact ⟨k, hik, m, (hbound m).2 hmost, hkj⟩
  cases most with
  | none =>
    exact hrounds (text.length + 1) (fun _ => True) rfl (by simpa using h.reach_all) (by simp)
  | some n =>
    refine hrounds (n - least) (fun m => m ≤ n - least) rfl (h.reach (n - least)) fun m => ?_
    simp only [Option.mem_def, Option.some.injEq, forall_eq']
    omega

/-- The matcher carries places along the relation of matching. -/
theorem carries_ends (text : List Char) (r : Regex) :
    Carries text (ends text r) (Spans text r) := by
  induction r with
  | empty => exact Places.carries_id
  | chars set => exact Places.carries_advance text set
  | look l => exact Places.carries_restrict text l
  | seq r s ihr ihs => exact ihr.comp ihs
  | alt r s ihr ihs => exact ihr.union ihs
  | repeated r least most ih => exact carries_repeated ih least most
  | group r ih => exact ih

theorem isMatch_iff {r : Regex} {text : List Char} : r.isMatch text = true ↔ r.Matches text := by
  have hlength : (Places.everywhere text).length = text.length + 1 := by simp [Places.everywhere]
  have heverywhere (i : Nat) : (Places.everywhere text).Has i ↔ i ≤ text.length := by
    cases i with
    | zero => simp [Places.everywhere, Places.Has]
    | succ i =>
      rw [Nat.succ_le_iff]
      simp [Places.everywhere, Places.Has, List.getElem?_eq_some_iff]
  rw [isMatch, Bool.not_eq_true', Places.isEmpty_eq_false_iff]
  simp only [(carries_ends text r).has _ hlength, heverywhere, Matches]
  grind

end Regex

end BenchTracker
