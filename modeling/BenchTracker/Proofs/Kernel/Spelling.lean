import BenchTracker.Kernel
import BenchTracker.Proofs.Decimal.Digits
import BenchTracker.Proofs.Log.Pairing
import BenchTracker.Proofs.Text.Blank
import BenchTracker.Proofs.Text.Fields

/-!
# The spellings of a kernel

A kernel can be spelled with white space around the whole and around each dimension, with plus signs
and with zeros in front of the digits. Exactly these spellings are read. The text of a kernel is one
of them, unless a dimension is zero: no text spells such a kernel.
-/

namespace BenchTracker

namespace Kernel

variable {s : String} {kernel : Kernel}

/-! ## Dimensions -/

/-- The text spells a positive dimension, with white space around the numeral. -/
structure SpellsDimension (s : List Char) (x : UInt64) : Prop where
  positive : 0 < x
  numeral : ∃ numeral, Text.TrimsTo s numeral ∧ Numeral.Spells numeral x.toNat

theorem readDimension?_eq_some {s : List Char} {x : UInt64} :
    readDimension? s = some x ↔
      ∃ numeral, Text.TrimsTo s numeral ∧ Numeral.Spells numeral x.toNat := by
  have hread : readDimension? s = some x ↔ Numeral.Spells (Text.trim s) x.toNat := by
    rw [readDimension?, ← Numeral.read64_eq_ok_iff_spells]
    cases Numeral.read64 (Text.trim s) <;> simp [Except.toOption]
  rw [hread]
  constructor
  · exact fun h => ⟨_, Text.trimsTo_trim s, h⟩
  · rintro ⟨numeral, htrim, h⟩
    rwa [Text.trim_eq_iff.2 htrim]

theorem spellsDimension_iff {s : List Char} {x : UInt64} :
    SpellsDimension s x ↔ 0 < x ∧ readDimension? s = some x := by
  rw [readDimension?_eq_some]
  constructor
  · exact fun h => ⟨h.positive, h.numeral⟩
  · exact fun h => ⟨h.1, h.2⟩

theorem spellsDimension_digits {x : UInt64} (h : 0 < x) :
    SpellsDimension (Numeral.digits x.toNat) x := by
  have hspells := Numeral.Spells.plain (Numeral.isNumeral_digits x.toNat)
  rw [Numeral.ofDigits_digits] at hspells
  refine ⟨h, _, Text.trimsTo_self fun c hc => ?_, hspells⟩
  exact Text.isBlank_of_isDigit (Numeral.isDigit_of_mem_digits hc)

/-! ## Kernels -/

/-- The text spells the kernel: without the white space around it, it is divided by each `x` into
the spellings of the three dimensions. -/
inductive Spells (s : String) (kernel : Kernel) : Prop where
  | mk {m n k : List Char} (text : Text.TrimsTo s.toList (['x'].intercalate [m, n, k]))
    (apart : ∀ part ∈ [m, n, k], 'x' ∉ part) (hm : SpellsDimension m kernel.m)
    (hn : SpellsDimension n kernel.n) (hk : SpellsDimension k kernel.k)

theorem Spells.positive (h : Spells s kernel) : 0 < kernel.m ∧ 0 < kernel.n ∧ 0 < kernel.k := by
  obtain ⟨-, -, hm, hn, hk⟩ := h
  exact ⟨hm.positive, hn.positive, hk.positive⟩

theorem read?_eq_some : read? s = some kernel ↔
    (Text.fields 'x' (Text.trim s.toList)).mapM readDimension? =
        some [kernel.m, kernel.n, kernel.k] ∧
      0 < kernel.m ∧ 0 < kernel.n ∧ 0 < kernel.k := by
  unfold read?
  split
  · rename_i m n k hdims
    rw [hdims]
    cases kernel
    simp only [Option.ite_none_right_eq_some, Option.some.injEq, mk.injEq, List.cons.injEq,
      and_true]
    constructor
    · rintro ⟨hpos, rfl, rfl, rfl⟩
      exact ⟨⟨rfl, rfl, rfl⟩, hpos⟩
    · rintro ⟨⟨rfl, rfl, rfl⟩, hpos⟩
      exact ⟨hpos, rfl, rfl, rfl⟩
  · rename_i hnot
    refine iff_of_false (by rintro ⟨⟩) ?_
    exact fun h => hnot _ _ _ h.1

/-- Exactly the spellings of a kernel are read as this kernel. -/
theorem read?_eq_some_iff : read? s = some kernel ↔ Spells s kernel := by
  rw [read?_eq_some, Log.mapM_eq_some_iff]
  constructor
  · rintro ⟨hparts, hm, hn, hk⟩
    generalize hfields : Text.fields 'x' (Text.trim s.toList) = parts at hparts
    obtain ⟨-, htext, hapart⟩ := Text.fields_eq_iff.1 hfields
    obtain ⟨m, behind, hreadm, hbehind, rfl⟩ := List.forall₂_cons_right_iff.1 hparts
    obtain ⟨n, last, hreadn, hlast, rfl⟩ := List.forall₂_cons_right_iff.1 hbehind
    obtain ⟨k, none, hreadk, hnone, rfl⟩ := List.forall₂_cons_right_iff.1 hlast
    obtain rfl := List.forall₂_nil_right_iff.1 hnone
    refine .mk (Text.trim_eq_iff.1 htext) hapart ?_ ?_ ?_
    · exact spellsDimension_iff.2 ⟨hm, hreadm⟩
    · exact spellsDimension_iff.2 ⟨hn, hreadn⟩
    · exact spellsDimension_iff.2 ⟨hk, hreadk⟩
  · intro h
    refine ⟨?_, h.positive⟩
    obtain ⟨htext, hapart, hm, hn, hk⟩ := h
    rw [Text.trim_eq_iff.2 htext, Text.fields_intercalate (List.cons_ne_nil _ _) hapart]
    exact .cons (spellsDimension_iff.1 hm).2
      (.cons (spellsDimension_iff.1 hn).2 (.cons (spellsDimension_iff.1 hk).2 .nil))

theorem read?_eq_none_iff : read? s = none ↔ ∀ kernel, ¬ Spells s kernel := by
  simp only [← read?_eq_some_iff]
  exact Option.eq_none_iff_forall_ne_some

/-- A text spells at most one kernel. -/
theorem Spells.unique {kernel' : Kernel} (h : Spells s kernel) (h' : Spells s kernel') :
    kernel = kernel' := by
  have hread := read?_eq_some_iff.2 h
  rw [read?_eq_some_iff.2 h'] at hread
  exact (Option.some.inj hread).symm

/-! ## The text of a kernel -/

theorem toList_text (kernel : Kernel) : kernel.text.toList = ['x'].intercalate
    [Numeral.digits kernel.m.toNat, Numeral.digits kernel.n.toNat,
      Numeral.digits kernel.k.toNat] := by
  simp [text, Numeral.text, List.intercalate_cons_cons]

/-- The text of a kernel spells it. -/
theorem spells_text (h : 0 < kernel.m ∧ 0 < kernel.n ∧ 0 < kernel.k) :
    Spells kernel.text kernel := by
  obtain ⟨hm, hn, hk⟩ := h
  have hapart : ∀ part ∈ [Numeral.digits kernel.m.toNat, Numeral.digits kernel.n.toNat,
      Numeral.digits kernel.k.toNat], ∀ c ∈ part, c.isDigit = true := by
    simp only [List.forall_mem_cons, List.not_mem_nil, false_implies, implies_true, and_true]
    exact ⟨fun _ => Numeral.isDigit_of_mem_digits, fun _ => Numeral.isDigit_of_mem_digits,
      fun _ => Numeral.isDigit_of_mem_digits⟩
  refine .mk ?_ ?_ (spellsDimension_digits hm) (spellsDimension_digits hn)
    (spellsDimension_digits hk)
  · rw [toList_text]
    refine Text.trimsTo_self fun c hc => ?_
    rcases Text.mem_of_mem_intercalate hc with hx | ⟨part, hpart, hc⟩
    · rw [List.mem_singleton.1 hx]
      rfl
    · exact Text.isBlank_of_isDigit (hapart part hpart c hc)
  · intro part hpart hx
    have hdigit : 'x'.isDigit = true := hapart part hpart 'x' hx
    cases hdigit

theorem read?_text_iff : read? kernel.text = some kernel ↔
    0 < kernel.m ∧ 0 < kernel.n ∧ 0 < kernel.k := by
  rw [read?_eq_some_iff]
  exact ⟨Spells.positive, spells_text⟩

end Kernel

end BenchTracker
