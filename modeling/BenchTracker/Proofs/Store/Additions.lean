import BenchTracker.Proofs.Store.Lookup

/-!
# Adding lists of samples

A store grows by additions, one sample after the other. Where two additions are for the same
triple of a step, a device and a build, the first one counts, and those that the store has already
do not count at all.
-/

namespace BenchTracker

/-- A sample for the series of a step and device. -/
structure Addition where
  step : String
  device : String
  sample : Sample

/-- Whether the addition is for the triple. -/
def Addition.isFor (a : Addition) (step device : String) (build : UInt64) : Bool :=
  a.step = step ∧ a.device = device ∧ a.sample.build = build

/-- The first sample that a list of additions has for a triple. -/
def firstSample? (as : List Addition) (step device : String) (build : UInt64) : Option Sample :=
  (as.find? (·.isFor step device build)).map (·.sample)

theorem firstSample?_append (as bs : List Addition) (step device : String) (build : UInt64) :
    firstSample? (as ++ bs) step device build =
      (firstSample? as step device build).or (firstSample? bs step device build) := by
  simp only [firstSample?, List.find?_append]
  cases as.find? (·.isFor step device build) <;> simp

theorem firstSample?_eq_none {as : List Addition} {step device : String} {build : UInt64} :
    firstSample? as step device build = none ↔
      ∀ a ∈ as, ¬ (a.step = step ∧ a.device = device ∧ a.sample.build = build) := by
  simp [firstSample?, Addition.isFor]

/-- The sample of an addition for the series of a step and device. -/
def Addition.sampleFor? (a : Addition) (step device : String) : Option Sample :=
  if a.step = step ∧ a.device = device then some a.sample else none

theorem Addition.sampleFor?_eq_some {a : Addition} {step device : String} {x : Sample} :
    a.sampleFor? step device = some x ↔ a = ⟨step, device, x⟩ := by
  obtain ⟨step', device', x'⟩ := a
  simp [sampleFor?, and_assoc]

/-- The samples that a list of additions has for the series of a step and device, in order. -/
def samplesFor (as : List Addition) (step device : String) : List Sample :=
  as.filterMap (·.sampleFor? step device)

theorem mem_samplesFor {as : List Addition} {step device : String} {x : Sample} :
    x ∈ samplesFor as step device ↔ (⟨step, device, x⟩ : Addition) ∈ as := by
  simp [samplesFor, Addition.sampleFor?_eq_some]

namespace Store

/-- Appends samples in order. -/
def addAll (s : Store) (as : List Addition) : Store :=
  as.foldl (fun s a => s.append a.step a.device a.sample) s

theorem addAll_append (s : Store) (as bs : List Addition) :
    s.addAll (as ++ bs) = (s.addAll as).addAll bs :=
  List.foldl_append

/-- A series takes in the samples that are added for it, in order. -/
theorem series_addAll (s : Store) (as : List Addition) (step device : String) :
    (s.addAll as).series step device =
      (samplesFor as step device).foldl Series.append (s.series step device) := by
  induction as generalizing s with
  | nil => rfl
  | cons a r ih =>
    rw [addAll, List.foldl_cons, ← addAll, ih, series_append]
    by_cases h : a.step = step ∧ a.device = device <;>
      simp [samplesFor, Addition.sampleFor?, h]

theorem sample?_addAll (s : Store) (as : List Addition) (step device : String) (build : UInt64) :
    (s.addAll as).sample? step device build =
      (s.sample? step device build).or (firstSample? as step device build) := by
  induction as generalizing s with
  | nil => simp [addAll, firstSample?]
  | cons a r ih =>
    rw [addAll, List.foldl_cons, ← addAll, ih, sample?_append, Option.or_assoc]
    congr 1
    simp only [firstSample?, List.find?_cons, Addition.isFor]
    by_cases h : a.step = step ∧ a.device = device ∧ a.sample.build = build <;> simp [h]

theorem isSome_series?_addAll (s : Store) (as : List Addition) (step device : String) :
    ((s.addAll as).series? step device).isSome ↔
      (s.series? step device).isSome ∨ ∃ a ∈ as, a.step = step ∧ a.device = device := by
  induction as generalizing s with
  | nil => simp [addAll]
  | cons a r ih =>
    rw [addAll, List.foldl_cons, ← addAll, ih, series?_append]
    by_cases h : step = a.step ∧ device = a.device
    · simp [h]
    · rw [if_neg h]
      grind

theorem knows_addAll {s : Store} {as : List Addition} (h : ∀ a ∈ as, s.knows a.step = true)
    (step : String) : (s.addAll as).knows step = s.knows step := by
  induction as generalizing s with
  | nil => rfl
  | cons a r ih =>
    have hs (step : String) : (s.append a.step a.device a.sample).knows step = s.knows step := by
      rw [knows_append]
      by_cases heq : step = a.step
      · simp [heq, h a List.mem_cons_self]
      · simp [heq]
    rw [addAll, List.foldl_cons, ← addAll, ih (fun b hb => ?_), hs]
    rw [hs]
    exact h b (List.mem_cons_of_mem _ hb)

/-- Every addition leaves a sample of its build, its own or an earlier one. -/
theorem contains_addAll {s : Store} {as : List Addition} {a : Addition} (h : a ∈ as) :
    (s.addAll as).contains a.step a.device a.sample.build = true := by
  rw [contains_eq_isSome, sample?_addAll, Option.isSome_or, Bool.or_eq_true]
  refine .inr (Option.isSome_iff_ne_none.2 fun hnone => ?_)
  exact firstSample?_eq_none.1 hnone a h ⟨rfl, rfl, rfl⟩

/-- Samples stay when others are added. -/
theorem contains_addAll_of_contains {s : Store} {as : List Addition} {step device : String}
    {build : UInt64} (h : s.contains step device build = true) :
    (s.addAll as).contains step device build = true := by
  rw [contains_eq_isSome] at h
  rw [contains_eq_isSome, sample?_addAll, Option.isSome_or, h, Bool.true_or]

/-- Additions that the store has already change nothing. -/
theorem addAll_eq_self {s : Store} {as : List Addition}
    (h : ∀ a ∈ as, s.contains a.step a.device a.sample.build = true) : s.addAll as = s := by
  induction as with
  | nil => rfl
  | cons a r ih =>
    rw [addAll, List.foldl_cons, append_of_contains (h a List.mem_cons_self)]
    exact ih fun b hb => h b (List.mem_cons_of_mem _ hb)

/-- In the order of the builds it only matters which series additions are for, and which sample
comes first for each triple. -/
theorem finalizeAll_addAll_congr {s : Store} {as bs : List Addition}
    (has : ∀ a ∈ as, s.knows a.step = true) (hbs : ∀ b ∈ bs, s.knows b.step = true)
    (hseries : ∀ step device, (∃ a ∈ as, a.step = step ∧ a.device = device) ↔
      ∃ b ∈ bs, b.step = step ∧ b.device = device)
    (hfirst : ∀ step device build,
      firstSample? as step device build = firstSample? bs step device build) :
    (s.addAll as).finalizeAll = (s.addAll bs).finalizeAll := by
  refine finalizeAll_congr (fun step => ?_) (fun step device => ?_) (fun step device build => ?_)
  · rw [knows_addAll has, knows_addAll hbs]
  · rw [Bool.eq_iff_iff, isSome_series?_addAll, isSome_series?_addAll, hseries]
  · rw [sample?_addAll, sample?_addAll, hfirst]

end Store

end BenchTracker
