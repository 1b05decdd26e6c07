import BenchTracker.Proofs.Regex.Literal

/-!
# What the texts of a group recognise

A text that is a pattern recognises what its expression matches. Any other is escaped, and then it
recognises the texts that contain it, up to case. A text recognises itself if it is no pattern, but
also if it is one without characters of special meaning, where a dot may stand for itself.
-/

namespace BenchTracker

open Regex (Pattern Flags CharSet InRow StandsFor)
open Regex.Parser (ReadsItem isMeta)

/-- The characters of two texts differ in case only. -/
def SameUpToCase : List Char → List Char → Prop :=
  List.Forall₂ fun c d => Unicode.FoldTogether c.toNat d.toNat

/-- A part of the text differs from the given characters in case only. -/
def ContainsUpToCase (raw s : List Char) : Prop := ∃ part, part <:+: raw ∧ SameUpToCase s part

namespace AliasPattern

variable {c : Char} {s raw : List Char} {r : Regex} {ts : List (List Char)} {ps : List Pattern}
  {sets : List CharSet}

/-- The text is a pattern with this expression where case is ignored, and not too large. -/
structure Compiles (s : List Char) (r : Regex) : Prop where
  expression : ∃ p f, Pattern.read? s = some p ∧ p.meaning
    { ignoreCase := true, multiLine := false, dotAll := false, unicode := true, crlf := false } =
      some (r, f)
  fits : Regex.Size.fits r = true

/-- What a text of a group recognises: as a pattern if it is one, and literally otherwise. -/
inductive Recognises (s raw : List Char) : Prop where
  | pattern {r : Regex} (h : Compiles s r) (hmatch : r.Matches raw)
  | literal (h : ∀ r, ¬ Compiles s r) (hcontains : ContainsUpToCase raw s)

theorem expression?_eq_some : expression? s = some r ↔
    ∃ p f, Pattern.read? s = some p ∧ p.meaning Flags.initial = some (r, f) := by
  simp only [expression?, bind, Option.bind_eq_some_iff]
  constructor
  · rintro ⟨p, hread, ⟨r', f⟩, hmeaning, hr⟩
    cases hr
    exact ⟨p, f, hread, hmeaning⟩
  · rintro ⟨p, f, hread, hmeaning⟩
    exact ⟨p, hread, (r, f), hmeaning, rfl⟩

theorem compile?_eq_some : compile? s = some r ↔ Compiles s r := by
  rw [compile?, Option.filter_eq_some_iff, expression?_eq_some]
  exact ⟨fun ⟨hexpression, hfits⟩ => ⟨hexpression, hfits⟩, fun h => ⟨h.expression, h.fits⟩⟩

theorem compile?_eq_none : compile? s = none ↔ ∀ r, ¬ Compiles s r := by
  simp only [Option.eq_none_iff_forall_ne_some, ne_eq, compile?_eq_some]

/-! ## Escaped texts -/

/-- The characters, other than the dot, that may keep a pattern from matching itself. -/
def special : List Char := ['\\', '^', '$', ')', '|', '(', '[', '?', '*', '+', '\x7b']

theorem isMeta_of_mem_special : ∀ c ∈ special, isMeta c = true :=
  List.all_eq_true.1 (by decide)

theorem readsItem_plain (hc : c ∉ special) (hdot : c ≠ '.') :
    ReadsItem [c] (.literal c false) := by
  have hone : ∀ d ∈ ['\\', '.', '^', '$'], d ≠ '.' → d ∈ special := by simp [special]
  have hrest : ∀ d ∈ [')', '|', '(', '[', '?', '*', '+', '\x7b'], d ∈ special := by simp [special]
  exact ⟨rfl, ⟨c, [], rfl, fun h => hc (hrest c h)⟩,
    fun s names => Regex.Parser.single_plain fun h => hc (hone c h hdot)⟩

theorem readsItem_dot : ReadsItem ['.'] .dot :=
  ⟨rfl, ⟨'.', [], rfl, by decide⟩, fun _ _ => rfl⟩

theorem readsItem_escaped (hc : isMeta c = true) : ReadsItem ['\\', c] (.literal c false) :=
  ⟨rfl, ⟨'\\', [c], rfl, by decide⟩, fun _ _ => Regex.Parser.single_escaped hc⟩

theorem standsFor_literal (c : Char) :
    StandsFor Flags.initial (.literal c false) (CharSet.single c.toNat).fold := rfl

theorem standsFor_dot : StandsFor Flags.initial .dot
    (Unicode.Ranges.complement [(Regex.lineFeed, Regex.lineFeed)]) := rfl

/-- The expression of a text that is read item by item. -/
theorem exists_expression?_flatten (hitems : List.Forall₂ ReadsItem ts ps)
    (hsets : List.Forall₂ (StandsFor Flags.initial) ps sets) :
    ∃ r, expression? ts.flatten = some r ∧
      ∀ raw, r.Matches raw ↔ ∃ part, part <:+: raw ∧ InRow sets part := by
  obtain ⟨r, hmeaning, hmatches⟩ := Regex.exists_meaning_ofSequence hsets
  exact ⟨r, expression?_eq_some.2 ⟨_, _, Regex.read?_flatten hitems, hmeaning⟩, hmatches⟩

theorem inRow_fold {part : List Char} :
    InRow (s.map fun c => (CharSet.single c.toNat).fold) part ↔ SameUpToCase s part := by
  simp only [InRow, List.forall₂_map_left_iff, CharSet.contains_fold_single, SameUpToCase]

/-- Every text can be escaped, and then it stands for itself up to case. -/
theorem exists_expression?_escaped (s : List Char) :
    ∃ r, expression? (escaped s) = some r ∧ ∀ raw, r.Matches raw ↔ ContainsUpToCase raw s := by
  let piece := fun c : Char => if isMeta c then ['\\', c] else [c]
  have hpieces : escaped s = (s.map piece).flatten := List.flatMap_def
  have hitems : List.Forall₂ ReadsItem (s.map piece) (s.map fun c => .literal c false) := by
    rw [List.forall₂_map_left_iff, List.forall₂_map_right_iff, List.forall₂_same]
    intro c _
    by_cases hmeta : isMeta c = true
    · simpa only [piece, if_pos hmeta] using readsItem_escaped hmeta
    · simp only [piece, if_neg hmeta]
      refine readsItem_plain (fun hc => hmeta (isMeta_of_mem_special c hc)) ?_
      rintro rfl
      exact hmeta rfl
  have hsets : List.Forall₂ (StandsFor Flags.initial) (s.map fun c => .literal c false)
      (s.map fun c => (CharSet.single c.toNat).fold) := by
    rw [List.forall₂_map_left_iff, List.forall₂_map_right_iff, List.forall₂_same]
    exact fun c _ => standsFor_literal c
  obtain ⟨r, hr, hmatches⟩ := exists_expression?_flatten hitems hsets
  refine ⟨r, hpieces ▸ hr, fun raw => ?_⟩
  simp only [hmatches, inRow_fold, ContainsUpToCase]

/-- The pattern of a text matches what the text recognises. -/
theorem isMatch_ofText (s : String) :
    (ofText s).isMatch raw = true ↔ Recognises s.toList raw := by
  rw [isMatch, ofText, Regex.isMatch_iff]
  cases hcompile : compile? s.toList with
  | some r =>
    have hr := compile?_eq_some.1 hcompile
    constructor
    · exact fun hmatch => .pattern hr hmatch
    · rintro (⟨hr', hmatch⟩ | ⟨hnone, -⟩)
      · obtain rfl := Option.some.inj (hcompile.symm.trans (compile?_eq_some.2 hr'))
        exact hmatch
      · exact absurd hr (hnone r)
  | none =>
    have hnone := compile?_eq_none.1 hcompile
    obtain ⟨r, hr, hmatches⟩ := exists_expression?_escaped s.toList
    simp only [Option.none_or, hr, Option.getD_some, hmatches]
    constructor
    · exact fun hcontains => .literal hnone hcontains
    · rintro (⟨hr', -⟩ | ⟨-, hcontains⟩)
      · exact absurd hr' (hnone _)
      · exact hcontains

/-! ## Texts that recognise themselves -/

theorem sameUpToCase_refl (s : List Char) : SameUpToCase s s :=
  List.forall₂_same.2 fun c _ => Unicode.foldTogether_refl c.toNat

theorem containsUpToCase_self (s : List Char) : ContainsUpToCase s s :=
  ⟨s, List.infix_rfl, sameUpToCase_refl s⟩

/-- A text without special characters is a pattern for itself. -/
theorem matches_self (hs : ∀ c ∈ s, c ∉ special) (hr : expression? s = some r) :
    r.Matches s := by
  let item := fun c : Char => if c = '.' then Pattern.dot else .literal c false
  let set := fun c : Char => if c = '.' then
    Unicode.Ranges.complement [(Regex.lineFeed, Regex.lineFeed)]
    else (CharSet.single c.toNat).fold
  have hpieces : s = (s.map fun c => [c]).flatten := by
    rw [← List.flatMap_def, List.flatMap_singleton']
  have hitems : List.Forall₂ ReadsItem (s.map fun c => [c]) (s.map item) := by
    rw [List.forall₂_map_left_iff, List.forall₂_map_right_iff, List.forall₂_same]
    intro c hc
    by_cases hdot : c = '.'
    · subst hdot
      exact readsItem_dot
    · simpa only [item, if_neg hdot] using readsItem_plain (hs c hc) hdot
  have hsets : List.Forall₂ (StandsFor Flags.initial) (s.map item) (s.map set) := by
    rw [List.forall₂_map_left_iff, List.forall₂_map_right_iff, List.forall₂_same]
    intro c _
    by_cases hdot : c = '.'
    · simpa only [item, set, if_pos hdot] using standsFor_dot
    · simpa only [item, set, if_neg hdot] using standsFor_literal c
  have hrow : InRow (s.map set) s := by
    rw [InRow, List.forall₂_map_left_iff, List.forall₂_same]
    intro c _
    by_cases hdot : c = '.'
    · subst hdot
      refine (Unicode.Ranges.contains_complement (by decide)).2 ⟨?_, ?_⟩ <;>
        simp [Unicode.Ranges.Covers, Unicode.Ranges.surrogates, Regex.lineFeed]
    · simp only [set, if_neg hdot, CharSet.contains_fold_single, Unicode.foldTogether_refl]
  obtain ⟨r', hr', hmatches⟩ := exists_expression?_flatten hitems hsets
  rw [← hpieces, hr] at hr'
  obtain rfl := Option.some.inj hr'
  exact (hmatches s).2 ⟨s, List.infix_rfl, hrow⟩

end AliasPattern

end BenchTracker
