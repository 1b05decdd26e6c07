import BenchTracker.Log.Measurements
import BenchTracker.Proofs.Decimal.Digits
import BenchTracker.Proofs.Log.Scan
import BenchTracker.Proofs.Text.Fields
import Mathlib.Data.List.Forall2

/-!
# Invocations line by line

An invocation stands on one line, so the kernels of a log are those of its lines. Its dimensions are
digits. A kernel has room for 64-bit numbers, and an invocation of any larger dimension is none of a
kernel.
-/

namespace BenchTracker

namespace Log

open Scan

variable {s t l r : List Char} {dims : List Char × List Char × List Char}

/-! ## One invocation -/

/-- The text of an invocation with these dimensions. -/
inductive Invokes : List Char → List Char × List Char × List Char → Prop
  | mk {a b m n k c d : List Char} (ha : IsNumeral a) (hb : IsNumeral b) (hm : IsNumeral m)
    (hn : IsNumeral n) (hk : IsNumeral k) (hc : IsNumeral c) (hd : IsNumeral d) :
    Invokes ("acc_bench_smm ".toList ++ [' '].intercalate [a, b, m, n, k, c, d]) (m, n, k)

theorem number?_append {ds : List Char} (h : IsNumeral ds)
    (hstop : ∀ c ∈ s.head?, c.isDigit = false) : number? (ds ++ s) = some (ds, s) :=
  run?_append h.ne_nil h.digits hstop

theorem of_number?_eq_some {ds : List Char} (h : number? s = some (ds, r)) :
    s = ds ++ r ∧ IsNumeral ds := by
  obtain ⟨rfl, hne, hdigits⟩ := of_run?_eq_some h
  exact ⟨rfl, hne, hdigits⟩

theorem number?_line (l r : List Char) :
    number? (l ++ '\n' :: r) = (number? l).map (behind r) :=
  run?_line rfl l r

theorem of_spaced {ds : List Char} (hspace : after? [' '] s = some t)
    (h : number? t = some (ds, r)) : s = [' '] ++ (ds ++ r) ∧ IsNumeral ds := by
  obtain ⟨rfl, hds⟩ := of_number?_eq_some h
  exact ⟨after?_eq_some.1 hspace, hds⟩

/-- An invocation is found where it stands, unless a digit follows. -/
theorem invocation?_append (h : Invokes t dims) (hstop : ∀ c ∈ s.head?, c.isDigit = false) :
    invocation? (t ++ s) = some (dims, s) := by
  cases h with
  | @mk a b m n k c d ha hb hm hn hk hc hd =>
    have hnumber {ds : List Char} (h : IsNumeral ds) (u : List Char) :
        number? (ds ++ ([' '] ++ u)) = some (ds, [' '] ++ u) := by
      refine number?_append h ?_
      rintro x ⟨⟩
      rfl
    unfold invocation?
    simp only [List.intercalate_cons_cons, List.intercalate_singleton, List.append_assoc,
      after?_append, hnumber ha, hnumber hb, hnumber hm, hnumber hn, hnumber hk, hnumber hc,
      number?_append hd hstop, bind, Option.bind_some]

theorem exists_invokes_of_eq_some (h : invocation? s = some (dims, r)) :
    ∃ t, Invokes t dims ∧ s = t ++ r := by
  simp only [invocation?, bind, Option.bind_eq_some_iff, Prod.exists] at h
  obtain ⟨_, hmark, a, _, reada, _, gapb, b, _, readb, _, gapm, m, _, readm, _, gapn, n, _, readn,
    _, gapk, k, _, readk, _, gapc, c, _, readc, _, gapd, d, _, readd, hdims⟩ := h
  cases hdims
  obtain ⟨rfl, hd⟩ := of_spaced gapd readd
  obtain ⟨rfl, hc⟩ := of_spaced gapc readc
  obtain ⟨rfl, hk⟩ := of_spaced gapk readk
  obtain ⟨rfl, hn⟩ := of_spaced gapn readn
  obtain ⟨rfl, hm⟩ := of_spaced gapm readm
  obtain ⟨rfl, hb⟩ := of_spaced gapb readb
  obtain ⟨rfl, ha⟩ := of_number?_eq_some reada
  refine ⟨_, .mk ha hb hm hn hk hc hd, ?_⟩
  rw [after?_eq_some.1 hmark]
  simp only [List.intercalate_cons_cons, List.intercalate_singleton, List.append_assoc]

theorem takes_invocation? : Takes invocation? := by
  intro s dims r h
  obtain ⟨t, ht, rfl⟩ := exists_invokes_of_eq_some h
  cases ht
  exact ⟨_, by simp, rfl⟩

theorem Invokes.mem_or_isDigit (h : Invokes t dims) {c : Char} (hc : c ∈ t) :
    c ∈ "acc_bench_smm ".toList ∨ c.isDigit = true := by
  cases h with
  | @mk a b m n k d e ha hb hm hn hk hd he =>
    rcases List.mem_append.1 hc with hc | hc
    · exact .inl hc
    rcases Text.mem_of_mem_intercalate hc with hspace | ⟨ds, hds, hc⟩
    · exact .inl (by simp_all)
    · have hnumerals : ∀ ds ∈ [a, b, m, n, k, d, e], IsNumeral ds := by
        simp [ha, hb, hm, hn, hk, hd, he]
      exact .inr ((hnumerals ds hds).digits c hc)

theorem Invokes.not_mem (h : Invokes t dims) {c : Char} (hmark : c ∉ "acc_bench_smm ".toList)
    (hdigit : c.isDigit = false) : c ∉ t := by
  intro hc
  rcases h.mem_or_isDigit hc with hc | hc
  · exact hmark hc
  · rw [hdigit] at hc
    cases hc

theorem Invokes.all_invocation? (h : Invokes t dims) : all invocation? t = [dims] := by
  have hwhole := invocation?_append (s := []) h (by simp)
  rw [List.append_nil] at hwhole
  exact all_eq_singleton takes_invocation? hwhole

theorem invocation?_line (l r : List Char) :
    invocation? (l ++ '\n' :: r) = (invocation? l).map (behind r) := by
  have hmark : '\n' ∉ "acc_bench_smm ".toList := by simp
  have hspace : '\n' ∉ [' '] := by simp
  unfold invocation?
  rw [after?_line hmark]
  cases after? "acc_bench_smm ".toList l with
  | none => rfl
  | some l =>
    simp only [bind, Option.map_some, Option.bind_some, number?_line, Option.bind_map,
      Option.map_bind, Function.comp_def, behind, Prod.map, after?_line hspace, id]

/-- The digits of the dimensions that a log invokes, in order. -/
def invocations (log : List Char) : List (List Char × List Char × List Char) := all invocation? log

theorem exists_invokes_of_mem (h : dims ∈ invocations s) : ∃ t, Invokes t dims := by
  obtain ⟨u, r, hinvocation⟩ := exists_of_mem_all h
  obtain ⟨t, ht, -⟩ := exists_invokes_of_eq_some hinvocation
  exact ⟨t, ht⟩

/-! ## The kernel of an invocation -/

/-- A kernel has the dimensions that the digits denote. -/
structure Denotes (dims : List Char × List Char × List Char) (kernel : Kernel) : Prop where
  m : kernel.m.toNat = Decimal.ofDigits dims.1
  n : kernel.n.toNat = Decimal.ofDigits dims.2.1
  k : kernel.k.toNat = Decimal.ofDigits dims.2.2

/-- The dimensions are 64-bit numbers. -/
def Fits (dims : List Char × List Char × List Char) : Prop :=
  Decimal.ofDigits dims.1 < UInt64.size ∧ Decimal.ofDigits dims.2.1 < UInt64.size ∧
    Decimal.ofDigits dims.2.2 < UInt64.size

instance : DecidablePred Fits := fun _ => inferInstanceAs (Decidable (_ ∧ _ ∧ _))

/-- The invocations of a log that fit a kernel. -/
def fitting (log : List Char) : List (List Char × List Char × List Char) :=
  (invocations log).filter Fits

theorem Denotes.fits {kernel : Kernel} (h : Denotes dims kernel) : Fits dims :=
  ⟨h.m ▸ kernel.m.toNat_lt_size, h.n ▸ kernel.n.toNat_lt_size, h.k ▸ kernel.k.toNat_lt_size⟩

theorem Fits.exists_denotes (h : Fits dims) : ∃ kernel, Denotes dims kernel := by
  obtain ⟨hm, hn, hk⟩ := h
  exact ⟨⟨_, _, _⟩, UInt64.toNat_ofNat_of_lt' hm, UInt64.toNat_ofNat_of_lt' hn,
    UInt64.toNat_ofNat_of_lt' hk⟩

theorem denotes_digits (kernel : Kernel) :
    Denotes (Numeral.digits kernel.m.toNat, Numeral.digits kernel.n.toNat,
      Numeral.digits kernel.k.toNat) kernel :=
  ⟨(Numeral.ofDigits_digits _).symm, (Numeral.ofDigits_digits _).symm,
    (Numeral.ofDigits_digits _).symm⟩

theorem kernel?_eq_some_iff {kernel : Kernel} (h : Invokes t dims) :
    kernel? dims = some kernel ↔ Denotes dims kernel := by
  cases h with
  | mk _ _ hm hn hk _ _ =>
    have hread {ds : List Char} {x : UInt64} (h : IsNumeral ds) :
        (Numeral.read64 ds).toOption = some x ↔ x.toNat = Decimal.ofDigits ds := by
      rw [← Numeral.read64_eq_ok_iff h]
      cases Numeral.read64 ds <;> simp [Except.toOption]
    simp only [kernel?, bind, Option.bind_eq_some_iff, hread hm, hread hn, hread hk]
    constructor
    · rintro ⟨m, hm, n, hn, k, hk, ⟨⟩⟩
      exact ⟨hm, hn, hk⟩
    · rintro ⟨hm, hn, hk⟩
      exact ⟨kernel.m, hm, kernel.n, hn, kernel.k, hk, rfl⟩

/-- An invocation whose dimensions are no 64-bit numbers is left out. -/
theorem kernels_denote (log : List Char) :
    List.Forall₂ Denotes (fitting log) (kernels log) := by
  have hinvokes : ∀ dims ∈ invocations log, ∃ t, Invokes t dims := fun _ => exists_invokes_of_mem
  rw [fitting, kernels, ← invocations]
  generalize invocations log = found at hinvokes ⊢
  induction found with
  | nil => exact .nil
  | cons dims rest ih =>
    obtain ⟨⟨t, ht⟩, hrest⟩ := List.forall_mem_cons.1 hinvokes
    by_cases hfits : Fits dims
    · obtain ⟨kernel, hkernel⟩ := hfits.exists_denotes
      rw [List.filter_cons_of_pos (by simpa using hfits),
        List.filterMap_cons_some ((kernel?_eq_some_iff ht).2 hkernel)]
      exact .cons hkernel (ih hrest)
    · have hnone : kernel? dims = none := by
        rw [Option.eq_none_iff_forall_ne_some]
        exact fun kernel hsome => hfits ((kernel?_eq_some_iff ht).1 hsome).fits
      rw [List.filter_cons_of_neg (by simpa using hfits), List.filterMap_cons_none hnone]
      exact ih hrest

/-! ## Lines -/

/-- The kernels of a log are those of its lines. -/
theorem kernels_lines (log : List Char) :
    kernels log = (Text.fields '\n' log).flatMap kernels := by
  refine Text.fields_induction (motive := fun s lines => kernels s = lines.flatMap kernels)
    ?_ ?_ log
  · intro l _
    rw [List.flatMap_singleton]
  · intro l s _ ih
    have hall : all invocation? (l ++ '\n' :: s) = all invocation? l ++ all invocation? s :=
      all_line takes_invocation? rfl fun t _ => invocation?_line t s
    rw [kernels, hall, List.filterMap_append, List.flatMap_cons, ← ih]
    rfl

end Log

end BenchTracker
