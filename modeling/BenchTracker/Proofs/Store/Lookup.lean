import BenchTracker.Proofs.Keyed.Lookup
import BenchTracker.Proofs.Series.Lookup
import BenchTracker.Store

/-!
# Stores as partial maps

A store gives a sample to some triples of a step, a device and a build. Together with the steps it
knows and the series it has, this determines the store up to the order inside its series, and
altogether once its series are in order.
-/

namespace BenchTracker

namespace Store

/-- The sample of a build in the series of a step and device. -/
def sample? (s : Store) (step device : String) (build : UInt64) : Option Sample :=
  (s.series? step device).bind (·.sample? build)

theorem contains_eq_isSome (s : Store) (step device : String) (build : UInt64) :
    s.contains step device build = (s.sample? step device build).isSome := by
  rw [contains, sample?]
  cases s.series? step device with
  | none => rfl
  | some series => simpa using series.contains_eq_isSome build

/-- A store is determined by the steps it knows and its series. -/
theorem ext_series? {s t : Store} (hknows : ∀ step, s.knows step = t.knows step)
    (hseries : ∀ step device, s.series? step device = t.series? step device) : s = t := by
  suffices h : s.steps = t.steps by
    cases s
    cases t
    cases h
    rfl
  refine Keyed.ext_get? fun step => ?_
  have hk : (s.steps.get? step).isSome = (t.steps.get? step).isSome := hknows step
  have hd := hseries step
  simp only [series?] at hd
  cases hs : s.steps.get? step with
  | none =>
    cases ht : t.steps.get? step with
    | none => rfl
    | some dt => simp [hs, ht] at hk
  | some ds =>
    cases ht : t.steps.get? step with
    | none => simp [hs, ht] at hk
    | some dt =>
      have : ds = dt := Keyed.ext_get? fun device => by simpa [hs, ht] using hd device
      rw [this]

theorem knows_of_series? {s : Store} {step device : String}
    (h : (s.series? step device).isSome) : s.knows step = true := by
  obtain ⟨series, hseries⟩ := Option.isSome_iff_exists.1 h
  obtain ⟨devices, hdevices, -⟩ := Option.bind_eq_some_iff.1 hseries
  simp [knows, hdevices]

theorem stepNames_congr {s t : Store} (h : ∀ step, s.knows step = t.knows step) :
    s.stepNames = t.stepNames :=
  Keyed.keys_congr h

@[simp, grind =] theorem mem_stepNames {s : Store} {step : String} :
    step ∈ s.stepNames ↔ s.knows step = true := by
  simp only [stepNames, Keyed.keys, List.mem_map, Prod.exists, exists_and_right, exists_eq_right,
    Keyed.mem_entries, knows, Keyed.contains_eq_isSome, Option.isSome_iff_exists]

theorem pairwise_stepNames (s : Store) : s.stepNames.Pairwise (· < ·) :=
  List.pairwise_map.2 s.steps.ascending

theorem get?_of_mem_entries {s : Store} {e : String × DeviceSeries} (h : e ∈ s.steps.entries)
    (device : String) : e.2.get? device = s.series? e.1 device := by
  rw [series?, Keyed.mem_entries.1 h, Option.bind_some]

theorem series?_eq_none {s : Store} {step : String} (h : s.knows step = false) (device : String) :
    s.series? step device = none := by
  cases hseries : s.series? step device with
  | none => rfl
  | some series => simp [knows_of_series? (Option.isSome_of_eq_some hseries)] at h

/-- The series of a step and device, the empty one if there is none. -/
def series (s : Store) (step device : String) : Series := (s.series? step device).getD .empty

theorem series_eq_of_series? {s : Store} {step device : String} {series : Series}
    (h : s.series? step device = some series) : s.series step device = series := by
  rw [Store.series, h]
  rfl

/-- A series with samples is not missing. -/
theorem series?_eq_some {s : Store} {step device : String}
    (h : (s.series step device).samples ≠ []) :
    s.series? step device = some (s.series step device) := by
  cases hseries : s.series? step device with
  | none => exact absurd (by rw [series, hseries]; rfl) h
  | some series => rw [series_eq_of_series? hseries]

@[simp, grind =] theorem contains_series (s : Store) (step device : String) (build : UInt64) :
    (s.series step device).contains build = s.contains step device build := by
  rw [contains, series]
  cases s.series? step device <;> rfl

/-! ## Changing one series -/

@[simp, grind =] theorem series?_alter (s : Store) (step device step' device' : String)
    (f : Series → Series) :
    (s.alter step device f).series? step' device' =
      if step' = step ∧ device' = device then some (f ((s.series? step device).getD .empty))
      else s.series? step' device' := by
  simp only [series?, alter, Keyed.get?_alter]
  by_cases hstep : step' = step
  · subst hstep
    cases s.steps.get? step' with
    | none => by_cases hd : device' = device <;> simp [hd]
    | some devices => by_cases hd : device' = device <;> simp [hd]
  · simp [hstep]

@[simp, grind =] theorem knows_alter (s : Store) (step device step' : String)
    (f : Series → Series) :
    (s.alter step device f).knows step' = (decide (step' = step) || s.knows step') := by
  simp only [knows, alter, Keyed.contains_eq_isSome, Keyed.get?_alter]
  by_cases hstep : step' = step <;> simp [hstep]

/-! ## Appending -/

@[simp, grind =] theorem series?_append (s : Store) (step device step' device' : String)
    (x : Sample) :
    (s.append step device x).series? step' device' =
      if step' = step ∧ device' = device then some (((s.series? step device).getD .empty).append x)
      else s.series? step' device' :=
  series?_alter s step device step' device' (·.append x)

@[simp, grind =] theorem knows_append (s : Store) (step device step' : String) (x : Sample) :
    (s.append step device x).knows step' = (decide (step' = step) || s.knows step') :=
  knows_alter s step device step' (·.append x)

@[simp, grind =] theorem series_append (s : Store) (step device step' device' : String)
    (x : Sample) :
    (s.append step device x).series step' device' =
      if step = step' ∧ device = device' then (s.series step' device').append x
      else s.series step' device' := by
  rw [series, series?_append]
  by_cases h : step = step' ∧ device = device'
  · obtain ⟨rfl, rfl⟩ := h
    simp [series]
  · rw [if_neg h, if_neg (by grind), series]

/-- A new sample is given only where none was before. -/
@[simp, grind =] theorem sample?_append (s : Store) (step device step' device' : String)
    (x : Sample) (build : UInt64) :
    (s.append step device x).sample? step' device' build =
      (s.sample? step' device' build).or
        (if step = step' ∧ device = device' ∧ x.build = build then some x else none) := by
  rw [sample?, series?_append]
  by_cases h : step' = step ∧ device' = device
  · obtain ⟨rfl, rfl⟩ := h
    have hs : ((s.series? step' device').getD .empty).sample? build =
        s.sample? step' device' build := by
      rw [sample?]
      cases s.series? step' device' <;> rfl
    simp [hs]
  · rw [if_neg h, if_neg (by grind), Option.or_none]
    rfl

/-- A sample of a build that is there already changes nothing. -/
theorem append_of_contains {s : Store} {step device : String} {x : Sample}
    (h : s.contains step device x.build = true) : s.append step device x = s := by
  rw [contains, Option.any_eq_true] at h
  obtain ⟨series, hseries, hcontains⟩ := h
  have hknows := knows_of_series? (Option.isSome_of_eq_some hseries)
  refine ext_series? (fun step' => ?_) (fun step' device' => ?_)
  · rw [knows_append]
    by_cases hstep : step' = step <;> simp [hstep, hknows]
  · rw [series?_append]
    split
    · rename_i heq
      obtain ⟨rfl, rfl⟩ := heq
      rw [hseries, Option.getD_some, Series.append_of_contains hcontains]
    · rfl

/-! ## The order of the builds -/

@[simp, grind =] theorem series?_mapSeries (f : String → String → Series → Series) (s : Store)
    (step device : String) :
    (s.mapSeries f).series? step device = (s.series? step device).map (f step device) := by
  simp only [series?, mapSeries, Keyed.get?_map]
  cases s.steps.get? step <;> simp

@[simp, grind =] theorem knows_mapSeries (f : String → String → Series → Series) (s : Store)
    (step : String) :
    (s.mapSeries f).knows step = s.knows step := by
  simp [knows, mapSeries]

@[simp, grind =] theorem series?_finalizeAll (s : Store) (step device : String) :
    s.finalizeAll.series? step device = (s.series? step device).map Series.finalize :=
  series?_mapSeries _ s step device

@[simp] theorem knows_finalizeAll (s : Store) (step : String) :
    s.finalizeAll.knows step = s.knows step :=
  knows_mapSeries _ s step

@[simp] theorem sample?_finalizeAll (s : Store) (step device : String) (build : UInt64) :
    s.finalizeAll.sample? step device build = s.sample? step device build := by
  rw [sample?, sample?, series?_finalizeAll]
  cases s.series? step device with
  | none => rfl
  | some series => exact series.sample?_finalize build

@[simp] theorem contains_finalizeAll (s : Store) (step device : String) (build : UInt64) :
    s.finalizeAll.contains step device build = s.contains step device build := by
  rw [contains_eq_isSome, contains_eq_isSome, sample?_finalizeAll]

/-- Two stores with the same steps, the same series and the same samples become equal in the order
of their builds. -/
theorem finalizeAll_congr {s t : Store} (hknows : ∀ step, s.knows step = t.knows step)
    (hseries : ∀ step device,
      (s.series? step device).isSome = (t.series? step device).isSome)
    (hsample : ∀ step device build,
      s.sample? step device build = t.sample? step device build) :
    s.finalizeAll = t.finalizeAll := by
  refine ext_series? (fun step => by simpa using hknows step) (fun step device => ?_)
  have hsome := hseries step device
  have hgive := hsample step device
  simp only [sample?] at hgive
  rw [series?_finalizeAll, series?_finalizeAll]
  cases hs : s.series? step device with
  | none =>
    cases ht : t.series? step device with
    | none => rfl
    | some b => simp [hs, ht] at hsome
  | some a =>
    cases ht : t.series? step device with
    | none => simp [hs, ht] at hsome
    | some b =>
      have : a.finalize = b.finalize :=
        Series.finalize_congr fun build => by simpa [hs, ht] using hgive build
      simp [this]

@[simp] theorem finalizeAll_finalizeAll (s : Store) : s.finalizeAll.finalizeAll = s.finalizeAll :=
  finalizeAll_congr (by simp) (by simp) (by simp)

/-! ## Leaving samples out -/

@[simp, grind =] theorem series?_filter (keep : String → Sample → Bool) (s : Store)
    (step device : String) :
    (s.filter keep).series? step device = (s.series? step device).map (·.filter (keep device)) :=
  series?_mapSeries _ s step device

@[simp] theorem knows_filter (keep : String → Sample → Bool) (s : Store) (step : String) :
    (s.filter keep).knows step = s.knows step :=
  knows_mapSeries _ s step

/-- All steps stay, and all devices of each step. -/
@[simp] theorem keys_filter (keep : String → Sample → Bool) (s : Store) (step : String) :
    ((s.filter keep).steps.get? step).map Keyed.keys = (s.steps.get? step).map Keyed.keys := by
  rw [filter, mapSeries, Keyed.get?_map, Option.map_map]
  exact congrArg (Option.map · _) (funext fun devices => Keyed.keys_map _ devices)

@[simp] theorem filter_filter (keep : String → Sample → Bool) (s : Store) :
    (s.filter keep).filter keep = s.filter keep := by
  refine ext_series? (fun step => by simp) fun step device => ?_
  rw [series?_filter, series?_filter, Option.map_map]
  exact congrArg (Option.map · _) (funext fun series => series.filter_filter _)

theorem filter_finalizeAll (keep : String → Sample → Bool) (s : Store) :
    s.finalizeAll.filter keep = (s.filter keep).finalizeAll := by
  refine ext_series? (fun step => by simp) fun step device => ?_
  rw [series?_filter, series?_finalizeAll, series?_finalizeAll, series?_filter, Option.map_map,
    Option.map_map]
  exact congrArg (Option.map · _) (funext fun series => (series.finalize_filter _).symm)

/-! ## Merging -/

@[simp, grind =] theorem knows_merge (s other : Store) (step : String) :
    (s.merge other).knows step = (s.knows step || other.knows step) := by
  simp only [knows, merge, Keyed.contains_eq_isSome, Keyed.get?_override, Option.isSome_or,
    Bool.or_comm]

@[simp, grind =] theorem get?_merge (s other : Store) (step : String) :
    (s.merge other).steps.get? step = (other.steps.get? step).or (s.steps.get? step) :=
  Keyed.get?_override s.steps other.steps step

theorem get?_merge_of_knows {s other : Store} {step : String} (h : other.knows step = true) :
    (s.merge other).steps.get? step = other.steps.get? step := by
  rw [get?_merge, Option.or_of_isSome h]

/-- Merging a store that knows the same steps as `t` shows whether it has the same series. -/
theorem eq_of_merge {s other t : Store} (hknows : ∀ step, other.knows step = t.knows step)
    (h : ∀ step, t.knows step = true →
      (s.merge other).steps.get? step = t.steps.get? step) : other = t := by
  refine congrArg Store.mk (Keyed.ext_get? fun step => ?_)
  cases hstep : t.knows step with
  | true => rw [← h step hstep, get?_merge_of_knows ((hknows step).trans hstep)]
  | false =>
    have hother := (hknows step).trans hstep
    simp only [knows, Keyed.contains_eq_isSome, Option.isSome_eq_false_iff,
      Option.isNone_iff_eq_none] at hstep hother
    rw [hstep, hother]

/-- A store that knows all steps of `s` hides `s` altogether. -/
theorem merge_eq_right {s other : Store} (h : ∀ step, s.knows step → other.knows step) :
    s.merge other = other :=
  congrArg Store.mk (Keyed.override_eq_right h)

end Store

end BenchTracker
