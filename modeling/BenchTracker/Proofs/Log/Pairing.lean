import BenchTracker.Log
import BenchTracker.Proofs.Log.Invocations
import Mathlib.Data.List.Forall2

/-!
# Invocations and their throughputs

A log is measured if it has as many throughputs as invocations that fit a kernel, and these are
paired by their positions. An invocation that does not fit is not counted, so it can make up for a
missing timing, and then the throughputs behind it are those of other invocations.
-/

namespace BenchTracker

namespace Log

variable {aliases : AliasTable} {chain : List DeviceLine} {log : List Char} {device : String}

/-! ## Readings of all items -/

section readings

variable {α β : Type} {f : α → Option β} {xs : List α} {ys : List β}

theorem mapM_eq_some_iff : xs.mapM f = some ys ↔ List.Forall₂ (fun x y => f x = some y) xs ys := by
  induction xs generalizing ys with
  | nil =>
    rw [List.forall₂_nil_left_iff, List.mapM_nil]
    exact ⟨fun h => (Option.some.inj h).symm, fun h => congrArg some h.symm⟩
  | cons x xs ih =>
    rw [List.forall₂_cons_left_iff, List.mapM_cons]
    simp only [bind, pure, Option.bind_eq_some_iff, Option.some.injEq, ih]
    constructor
    · rintro ⟨y, hy, rest, hrest, rfl⟩
      exact ⟨y, rest, hy, hrest, rfl⟩
    · rintro ⟨y, rest, hy, hrest, rfl⟩
      exact ⟨y, hy, rest, hrest, rfl⟩

theorem mapM_eq_none_iff : xs.mapM f = none ↔ ∃ x ∈ xs, f x = none := by
  induction xs with
  | nil => simp
  | cons x xs ih =>
    rw [List.mapM_cons]
    cases hx : f x with
    | none => exact iff_of_true rfl ⟨x, List.mem_cons_self, hx⟩
    | some y =>
      have hrest : (∃ z ∈ x :: xs, f z = none) ↔ ∃ z ∈ xs, f z = none := by
        simp [hx]
      rw [hrest, ← ih]
      cases xs.mapM f <;> simp

end readings

/-! ## Pairs -/

/-- Measurements that join the invocations and the texts of the values, each with the one at the
same position. -/
structure Pairs (invoked : List (List Char × List Char × List Char)) (texts : List (List Char))
    (measurements : List Measurement) : Prop where
  kernels : List.Forall₂ (fun dims x => Denotes dims x.kernel) invoked measurements
  values : List.Forall₂ (fun text x => value? text = some x.value) texts measurements

theorem Pairs.zipWith {texts : List (List Char)} {values : List Float} {kernels : List Kernel}
    {invoked : List (List Char × List Char × List Char)}
    (hkernels : List.Forall₂ Denotes invoked kernels)
    (hvalues : List.Forall₂ (fun text value => value? text = some value) texts values)
    (hlength : kernels.length = values.length) :
    Pairs invoked texts (kernels.zipWith Measurement.mk values) := by
  induction hkernels generalizing texts values with
  | nil =>
    cases values with
    | nil =>
      rw [List.forall₂_nil_right_iff.1 hvalues]
      exact ⟨.nil, .nil⟩
    | cons => cases hlength
  | cons hkernel _ ih =>
    cases hvalues with
    | nil => cases hlength
    | cons hvalue hvalues =>
      obtain ⟨hks, hvs⟩ := ih hvalues (Nat.succ.inj hlength)
      exact ⟨.cons hkernel hks, .cons hvalue hvs⟩

/-! ## Outcomes -/

theorem read_eq_measure
    (h : (DeviceLine.findAny? chain log).bind aliases.resolve? = some device) :
    read aliases chain log = measure device log := by
  rw [read, h]

/-- The outcome of a log whose device is known. What counts is the number of invocations that fit;
the pairs are those of all invocations if and only if each of them does. -/
theorem read_of_device
    (h : (DeviceLine.findAny? chain log).bind aliases.resolve? = some device) :
    ((fitting log).length ≠ (throughputs log).length → read aliases chain log =
      .invalid device ((fitting log).length - (throughputs log).length : Int).natAbs) ∧
    ((fitting log).length = (throughputs log).length →
      (∃ text ∈ throughputs log, value? text = none) →
      read aliases chain log = .invalid device 1) ∧
    ((fitting log).length = (throughputs log).length →
      (∀ text ∈ throughputs log, value? text ≠ none) →
      ∃ measurements, read aliases chain log = .measured device measurements ∧
        Pairs (fitting log) (throughputs log) measurements ∧
        (Pairs (invocations log) (throughputs log) measurements ↔
          ∀ dims ∈ invocations log, Fits dims)) := by
  have hkernels := kernels_denote log
  rw [read_eq_measure h, measure, hkernels.length_eq]
  refine ⟨fun hne => ?_, fun heq hbad => ?_, fun heq hgood => ?_⟩
  · rw [if_pos hne]
    congr 1
    omega
  · rw [if_neg (not_not_intro heq), mapM_eq_none_iff.2 hbad]
  · have hsome : (throughputs log).mapM value? ≠ none := by
      rw [Ne, mapM_eq_none_iff]
      rintro ⟨text, hmem, hnone⟩
      exact hgood text hmem hnone
    obtain ⟨values, hvalues⟩ := Option.ne_none_iff_exists'.1 hsome
    have htexts := mapM_eq_some_iff.1 hvalues
    have hpairs := Pairs.zipWith hkernels htexts (heq.trans htexts.length_eq)
    rw [if_neg (not_not_intro heq), hvalues]
    refine ⟨_, rfl, hpairs, fun hall => ?_, fun hfits => ?_⟩
    · have hlength : (fitting log).length = (invocations log).length :=
        hpairs.kernels.length_eq.trans hall.kernels.length_eq.symm
      simpa using List.length_filter_eq_length_iff.1 hlength
    · rwa [fitting, List.filter_eq_self.2 (by simpa using hfits)] at hpairs

theorem read_of_device_two_kernels :
    let aliases : AliasTable := .ofTexts [["4090"]]
    let log := ['\n'].intercalate ["hostname: 4090".toList,
      "acc_bench_smm 1 1 23 23 23 0 0".toList, "device: 1 ms 5.0 GFLOPS/s".toList,
      "acc_bench_smm 1 1 4 4 4 0 0".toList, "device: 2 ms 7.0 GFLOPS/s".toList]
    (DeviceLine.findAny? DeviceLine.defaultChain log).bind aliases.resolve? = some "4090" ∧
      ∃ measurements, read aliases DeviceLine.defaultChain log = .measured "4090" measurements ∧
        Pairs (invocations log) (throughputs log) measurements := by
  intro aliases log
  have hdevice : (DeviceLine.findAny? DeviceLine.defaultChain log).bind aliases.resolve? =
      some "4090" := by decide +kernel
  obtain ⟨-, -, hmeasured⟩ := read_of_device hdevice
  obtain ⟨measurements, hread, -, hpairs⟩ := hmeasured (by decide +kernel) (by decide +kernel)
  exact ⟨hdevice, measurements, hread, hpairs.2 (by decide +kernel)⟩

/-- The first invocation is too large and the timing of the second one is missing. So the throughput
of the first one is taken for that of the second one. -/
theorem read_of_device_too_large :
    let aliases : AliasTable := .ofTexts [["4090"]]
    let log := ['\n'].intercalate ["hostname: 4090".toList,
      "acc_bench_smm 1 1 18446744073709551616 4 4 0 0".toList,
      "device: 1 ms 5.0 GFLOPS/s".toList, "acc_bench_smm 1 1 4 4 4 0 0".toList]
    (DeviceLine.findAny? DeviceLine.defaultChain log).bind aliases.resolve? = some "4090" ∧
      (invocations log).length = 2 ∧ throughputs log = ["5.0".toList] ∧
      ∃ value, value? "5.0".toList = some value ∧
        read aliases DeviceLine.defaultChain log = .measured "4090" [⟨⟨4, 4, 4⟩, value⟩] := by
  intro aliases log
  have hdevice : (DeviceLine.findAny? DeviceLine.defaultChain log).bind aliases.resolve? =
      some "4090" := by decide +kernel
  have hkernels : kernels log = [⟨4, 4, 4⟩] := by decide +kernel
  have hthroughputs : throughputs log = ["5.0".toList] := by decide +kernel
  have hsome : (value? "5.0".toList).isSome := by decide +kernel
  obtain ⟨value, hvalue⟩ := Option.isSome_iff_exists.1 hsome
  refine ⟨hdevice, by decide +kernel, hthroughputs, value, hvalue, ?_⟩
  have hvalues := mapM_eq_some_iff.2 (.cons hvalue .nil)
  rw [read_eq_measure hdevice, measure, hkernels, hthroughputs, if_neg (by decide), hvalues]
  rfl

end Log

end BenchTracker
