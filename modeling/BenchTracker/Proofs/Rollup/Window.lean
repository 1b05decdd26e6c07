import BenchTracker.Proofs.Store.Lookup
import BenchTracker.Rollup
import Mathlib.Data.Nat.PSub
import Mathlib.Order.Bounds.Basic

/-!
# The window of a device

What is shown of the series of a device: as many of the latest samples as fit into the frame, less
those that are cut off to align the series. No window is empty or longer than the frame, and each
line has a point for every place of the frame. With a check in front of each subtraction and each
cut, nothing else comes out.
-/

namespace BenchTracker

variable {p : Parameters} {intensity : Float} {peaks : PeakTable} {s : Store} {device : String}
  {maxlen minlen maxm length n : Nat}

namespace DeviceRollup

/-! ## How much is shown -/

theorem shownLength_le (maxlen minlen maxm length : Nat) :
    shownLength maxlen minlen maxm length ≤ maxlen := by
  unfold shownLength
  split <;> omega

theorem shownLength_le_length (maxlen minlen maxm length : Nat) :
    shownLength maxlen minlen maxm length ≤ length := by
  unfold shownLength
  split <;> omega

theorem min_le_shownLength (h : minlen ≤ length) :
    min minlen maxlen ≤ shownLength maxlen minlen maxm length := by
  unfold shownLength
  split <;> omega

theorem greatestLength_pos {maxn longest : Nat} (h : 0 < longest) :
    0 < greatestLength maxn longest := by
  unfold greatestLength
  split <;> omega

/-- The latest samples of a series, the newest first. -/
def latest (n : Nat) (series : Series) : List Sample :=
  (series.samples.drop (series.size - n)).reverse

theorem shown_eq_latest (n : Nat) (series : Series) : shown n series = latest n series :=
  List.take_reverse

theorem length_latest {series : Series} (h : n ≤ series.size) :
    (latest n series).length = n := by
  simp only [latest, List.length_reverse, List.length_drop, Series.size] at h ⊢
  omega

/-! ## Checked steps -/

/-- The first items of a list that has so many. -/
def cut? {α : Type} (xs : List α) (n : Nat) : Option (List α) :=
  if n ≤ xs.length then some (xs.take n) else none

/-- How many samples are shown of the `taken` ones that fit into the frame. -/
def checkedLength? (maxlen minlen maxm taken : Nat) : Option Nat :=
  if taken = maxlen then Nat.psub maxlen (min maxm (maxlen - minlen)) else some taken

/-- The samples that are shown of a series, and how many points of its line stay empty. There is no
answer if a subtraction goes below zero or a cut beyond the end of a list. -/
def checked? (maxlen minlen maxm : Nat) (series : Series) : Option (List Sample × Nat) := do
  let newest := series.samples.reverse
  let taken ← cut? newest (min maxlen newest.length)
  let keep ← checkedLength? maxlen minlen maxm taken.length
  let window ← cut? taken keep
  let gaps ← Nat.psub maxlen window.length
  some (window, gaps)

/-- The items that the means cover, cut off with a check. -/
def checkedMeans? {α : Type} (window : Option Nat) (xs : List α) : Option (List α) :=
  match window with
  | some n => cut? xs (min n xs.length)
  | none => some xs

theorem cut?_of_le {α : Type} {xs : List α} (h : n ≤ xs.length) : cut? xs n = some (xs.take n) :=
  if_pos h

theorem checkedLength?_eq (maxlen minlen maxm length : Nat) :
    checkedLength? maxlen minlen maxm (min maxlen length) =
      some (shownLength maxlen minlen maxm length) := by
  unfold checkedLength? shownLength
  by_cases h : maxlen ≤ length
  · rw [if_pos (Nat.min_eq_left h), if_pos h, Nat.psub_eq_sub (by omega)]
  · rw [if_neg (by omega), if_neg h, Nat.min_eq_right (by omega)]

/-- No check fails. -/
theorem checked?_eq (maxlen minlen maxm : Nat) (series : Series) :
    checked? maxlen minlen maxm series =
      some (shown (shownLength maxlen minlen maxm series.size) series,
        maxlen - shownLength maxlen minlen maxm series.size) := by
  have hmost := shownLength_le maxlen minlen maxm series.size
  have hinside := shownLength_le_length maxlen minlen maxm series.size
  have hsize : series.samples.reverse.length = series.size := List.length_reverse
  have htaken : (series.samples.reverse.take (min maxlen series.size)).length =
      min maxlen series.size := by
    simp [hsize]
  have hwindow : (series.samples.reverse.take (min maxlen series.size)).take
      (shownLength maxlen minlen maxm series.size) =
        shown (shownLength maxlen minlen maxm series.size) series := by
    rw [List.take_take, Nat.min_eq_left (by omega), shown]
  have hlength : (shown (shownLength maxlen minlen maxm series.size) series).length =
      shownLength maxlen minlen maxm series.size := by
    rw [shown_eq_latest, length_latest hinside]
  simp only [checked?, hsize, Option.bind_eq_bind]
  rw [cut?_of_le (by omega), Option.bind_some, htaken, checkedLength?_eq, Option.bind_some,
    cut?_of_le (by omega), hwindow, Option.bind_some, hlength, Nat.psub_eq_sub hmost,
    Option.bind_some]

theorem checkedMeans?_eq {α : Type} (window : Option Nat) (xs : List α) :
    checkedMeans? window xs = some (inWindow window xs) := by
  cases window with
  | none => rfl
  | some n =>
    simp only [checkedMeans?, inWindow]
    rw [cut?_of_le (Nat.min_le_right _ _), ← List.take_eq_take_min]

/-! ## Devices that are shown -/

/-- The lengths of the series of a device in all steps; a missing series has none. -/
def seriesLengths (s : Store) (device : String) : Set Nat :=
  {length | ∃ step, s.knows step = true ∧ (s.series step device).size = length}

theorem size_series {step : String} {devices : DeviceSeries}
    (h : s.steps.get? step = some devices) (device : String) :
    (s.series step device).size = ((devices.get? device).map Series.size).getD 0 := by
  simp only [Store.series, Store.series?, h, Option.bind_some]
  cases devices.get? device <;> rfl

theorem mem_lengths : length ∈ lengths s device ↔ length ∈ seriesLengths s device := by
  simp only [lengths, Keyed.values, List.map_map, List.mem_map, Prod.exists, Function.comp_apply,
    Keyed.mem_entries, seriesLengths, Set.mem_ofPred_eq]
  constructor
  · rintro ⟨step, devices, hstep, rfl⟩
    exact ⟨step, by simp [Store.knows, hstep], size_series hstep device⟩
  · rintro ⟨step, hknows, rfl⟩
    obtain ⟨devices, hstep⟩ := Option.isSome_iff_exists.1 hknows
    exact ⟨step, devices, hstep, (size_series hstep device).symm⟩

theorem isLeast_of_min? (h : (lengths s device).min? = some n) :
    IsLeast (seriesLengths s device) n := by
  obtain ⟨hmem, hle⟩ := List.min?_eq_some_iff.1 h
  exact ⟨mem_lengths.1 hmem, fun m hm => hle m (mem_lengths.2 hm)⟩

theorem isGreatest_of_max? (h : (lengths s device).max? = some n) :
    IsGreatest (seriesLengths s device) n := by
  obtain ⟨hmem, hle⟩ := List.max?_eq_some_iff.1 h
  exact ⟨mem_lengths.1 hmem, fun m hm => hle m (mem_lengths.2 hm)⟩

/-- What is true of a device that is shown: it has peak rates and a sample in every step, and there
is a summary of each step and the charts of these. -/
structure Charted (p : Parameters) (intensity : Float) (s : Store) (r : DeviceRollup) (peak : Peak)
    (minlen longest : Nat) : Prop where
  least : IsLeast (seriesLengths s r.device) minlen
  greatest : IsGreatest (seriesLengths s r.device) longest
  pos : 0 < minlen
  steps : List.Forall₂ (fun step t => ∃ series, s.series? step r.device = some series ∧
    t = .ofSamples p (peak.bound intensity) step (shown
      (shownLength (greatestLength p.maxn longest) minlen p.maxm series.size) series))
    s.stepNames r.steps
  charts : r.charts = ChartFrame.charts
    ⟨r.device, p.focus, intensity, peak.bound intensity, greatestLength p.maxn longest⟩ r.steps

theorem forall₂_filterMap {α β γ : Type} {R : γ → β → Prop} {f : α → Option β} {g : α → γ}
    {xs : List α} (h : ∀ x ∈ xs, ∃ y, f x = some y ∧ R (g x) y) :
    List.Forall₂ R (xs.map g) (xs.filterMap f) := by
  induction xs with
  | nil => exact .nil
  | cons x rest ih =>
    obtain ⟨y, hy, hr⟩ := h x List.mem_cons_self
    rw [List.map_cons, List.filterMap_cons_some hy]
    exact .cons hr (ih fun x hx => h x (List.mem_cons_of_mem _ hx))

theorem exists_mem_of_forall₂ {α β : Type} {R : α → β → Prop} {xs : List α} {ys : List β} {y : β}
    (h : List.Forall₂ R xs ys) (hy : y ∈ ys) : ∃ x ∈ xs, R x y := by
  induction h with
  | nil => cases hy
  | cons hr _ ih =>
    rcases List.mem_cons.1 hy with rfl | hy
    · exact ⟨_, List.mem_cons_self, hr⟩
    · obtain ⟨x, hx, hr⟩ := ih hy
      exact ⟨x, List.mem_cons_of_mem _ hx, hr⟩

theorem charted_of? {r : DeviceRollup} (h : of? p intensity peaks s device = some r) :
    r.device = device ∧ ∃ peak minlen longest, peaks.get? device = some peak ∧
      Charted p intensity s r peak minlen longest := by
  simp only [of?, bind, Option.bind_eq_some_iff] at h
  obtain ⟨peak, hpeak, minlen, hmin, longest, hmax, h⟩ := h
  have hleast := isLeast_of_min? hmin
  split at h
  · cases h
  · rename_i hpos
    cases h
    refine ⟨rfl, peak, minlen, longest, hpeak, hleast, isGreatest_of_max? hmax,
      Nat.pos_of_ne_zero hpos, ?_, rfl⟩
    refine forall₂_filterMap fun ⟨step, devices⟩ hmem => ?_
    have hstep : s.steps.get? step = some devices := Keyed.mem_entries.1 hmem
    -- A missing series would be one of length zero.
    have hsize : ((devices.get? device).map Series.size).getD 0 ≠ 0 := by
      have hle := hleast.2 ⟨step, by simp [Store.knows, hstep], size_series hstep device⟩
      omega
    cases hseries : devices.get? device with
    | none => simp [hseries] at hsize
    | some series =>
      exact ⟨_, by simp only [Option.map_some], series,
        by simp [Store.series?, hstep, hseries], rfl⟩

theorem charted_of_mem {devices : List String} {r : DeviceRollup}
    (h : r ∈ (Rollup.ofStore p intensity peaks s devices).devices) :
    ∃ peak minlen longest, peaks.get? r.device = some peak ∧
      Charted p intensity s r peak minlen longest := by
  obtain ⟨device, -, hr⟩ := List.mem_filterMap.1 h
  obtain ⟨rfl, hcharted⟩ := charted_of? hr
  exact hcharted

/-- How a summary of a step shows the series of the step: it covers the `n` latest samples, where a
series that fills the frame is cut off towards the shortest one. -/
structure Shows (p : Parameters) (roofline : Float) (maxlen minlen : Nat) (series : Series)
    (n : Nat) (t : StepRollup) : Prop where
  count : n = if maxlen ≤ series.size then maxlen - min p.maxm (maxlen - minlen) else series.size
  least : min minlen maxlen ≤ n
  pos : 1 ≤ n
  most : n ≤ maxlen
  inside : n ≤ series.size
  checked : checked? maxlen minlen p.maxm series = some (latest n series, maxlen - n)
  selected : t.selected = (latest n series).map p.selection.value
  focus : t.focus = (latest n series).map Sample.focus
  efficiency : t.efficiency = (latest n series).map fun x => StepRollup.partOf roofline x.focus
  builds : t.builds = (latest n series).map Sample.build

theorem shows_ofSamples {roofline : Float} {step : String} {series : Series}
    (hpos : 0 < minlen) (hmaxlen : 0 < maxlen) (hminlen : minlen ≤ series.size) :
    Shows p roofline maxlen minlen series (shownLength maxlen minlen p.maxm series.size)
      (.ofSamples p roofline step
        (shown (shownLength maxlen minlen p.maxm series.size) series)) := by
  have hleast : min minlen maxlen ≤ shownLength maxlen minlen p.maxm series.size :=
    min_le_shownLength hminlen
  have hchecked := checked?_eq maxlen minlen p.maxm series
  rw [shown_eq_latest] at hchecked ⊢
  exact
    { count := rfl
      least := hleast
      pos := by omega
      most := shownLength_le _ _ _ _
      inside := shownLength_le_length _ _ _ _
      checked := hchecked
      selected := rfl
      focus := rfl
      efficiency := by simp [StepRollup.ofSamples]
      builds := rfl }

theorem Shows.lengths {roofline : Float} {series : Series} {t : StepRollup}
    (h : Shows p roofline maxlen minlen series n t) :
    t.selected.length = n ∧ t.focus.length = n ∧ t.efficiency.length = n ∧
      t.builds.length = n := by
  simp [h.selected, h.focus, h.efficiency, h.builds, length_latest h.inside]

/-- Each step of a device that is shown has a series, and its summary shows this series. -/
theorem Charted.shows {r : DeviceRollup} {peak : Peak} {longest : Nat}
    (h : Charted p intensity s r peak minlen longest) :
    List.Forall₂ (fun step t => t.step = step ∧ ∃ series n,
      s.series? step r.device = some series ∧
        Shows p (peak.bound intensity) (greatestLength p.maxn longest) minlen series n t)
      s.stepNames r.steps := by
  refine h.steps.imp fun step t ⟨series, hseries, ht⟩ => ?_
  have hminlen : minlen ≤ series.size := by
    have hknows := Store.knows_of_series? (Option.isSome_of_eq_some hseries)
    refine h.least.2 ⟨step, hknows, ?_⟩
    rw [Store.series_eq_of_series? hseries]
  have hlongest : 0 < longest := Nat.lt_of_lt_of_le h.pos (h.greatest.2 h.least.1)
  have hmaxlen : 0 < greatestLength p.maxn longest := greatestLength_pos hlongest
  subst ht
  exact ⟨rfl, series, _, hseries, shows_ofSamples h.pos hmaxlen hminlen⟩

end DeviceRollup

/-! ## Lines -/

/-- A line with a point at each of `count` places: the values in front, and gaps behind them. -/
structure ChartLine.Plots (count : Nat) (l : ChartLine) (values : List Float) : Prop where
  length : l.points.length = count
  point : ∀ i < count, l.points[i]? = some values[i]?

theorem ChartFrame.plots {f : ChartFrame} {label : String} {values : List Float}
    (h : values.length ≤ f.length) : ChartLine.Plots f.length ⟨label, f.padded values⟩ values where
  length := by
    simp only [padded, List.length_append, List.length_map, List.length_replicate]
    omega
  point i hi := by
    rw [padded]
    by_cases hvalue : i < values.length
    · rw [List.getElem?_append_left (by simpa using hvalue), List.getElem?_map,
        List.getElem?_eq_getElem hvalue, Option.map_some]
    · rw [List.getElem?_append_right (by simpa using hvalue), List.length_map,
        List.getElem?_replicate_of_lt (by omega), List.getElem?_eq_none (by omega)]

/-- Each chart has a line of either kind for each step with its stem. -/
theorem ChartFrame.plots_of_mem {f : ChartFrame} {steps : List StepRollup} {c : Chart}
    (hselected : ∀ t ∈ steps, t.selected.length ≤ f.length)
    (hfocus : ∀ t ∈ steps, t.focus.length ≤ f.length) (h : c ∈ f.charts steps) :
    List.Forall₂ (fun l t => l.Plots f.length t.selected) c.summaryLines
        (steps.filter fun t => f.stem t = c.stem) ∧
      List.Forall₂ (fun l t => l.Plots f.length t.focus) c.focusLines
        (steps.filter fun t => f.stem t = c.stem) := by
  obtain ⟨stem, -, rfl⟩ := List.mem_map.1 h
  constructor
  · refine List.forall₂_map_left_iff.2 (List.forall₂_same.2 fun t ht => ?_)
    exact f.plots (hselected t (List.mem_filter.1 ht).1)
  · refine List.forall₂_map_left_iff.2 (List.forall₂_same.2 fun t ht => ?_)
    exact f.plots (hfocus t (List.mem_filter.1 ht).1)

namespace DeviceRollup

/-- A device that is shown has a frame whose length is the greatest one of its series, unless a
limit lies below that. Each step shows the latest samples of its series, at least one and at most as
many as the frame has places, and each line of each chart has a point at every place. No subtraction
goes below zero on the way, and no cut beyond the end of a list. -/
theorem window_of_mem_devices {devices : List String} {r : DeviceRollup}
    (h : r ∈ (Rollup.ofStore p intensity peaks s devices).devices) :
    ∃ peak minlen longest maxlen, peaks.get? r.device = some peak ∧
      IsLeast (seriesLengths s r.device) minlen ∧ IsGreatest (seriesLengths s r.device) longest ∧
      maxlen = (if p.maxn = 0 then longest else min longest p.maxn) ∧
      List.Forall₂ (fun step t => t.step = step ∧ ∃ n,
        Shows p (peak.bound intensity) maxlen minlen (s.series step r.device) n t ∧
        t.selected.length = n ∧ t.focus.length = n ∧ t.efficiency.length = n ∧
        t.builds.length = n) s.stepNames r.steps ∧
      (∀ c ∈ r.charts,
        List.Forall₂ (fun l t => l.Plots maxlen t.selected) c.summaryLines
          (r.steps.filter fun t => chartStem r.device t.caption.props = c.stem) ∧
        List.Forall₂ (fun l t => l.Plots maxlen t.focus) c.focusLines
          (r.steps.filter fun t => chartStem r.device t.caption.props = c.stem)) ∧
      ∀ (α : Type) (xs : List α), checkedMeans? p.window? xs = some (inWindow p.window? xs) := by
  obtain ⟨peak, minlen, longest, hpeak, hcharted⟩ := charted_of_mem h
  have hsteps : List.Forall₂ (fun step t => t.step = step ∧ ∃ n,
      Shows p (peak.bound intensity) (greatestLength p.maxn longest) minlen
        (s.series step r.device) n t ∧ t.selected.length = n ∧ t.focus.length = n ∧
        t.efficiency.length = n ∧ t.builds.length = n) s.stepNames r.steps := by
    refine hcharted.shows.imp fun step t ⟨hstep, series, n, hseries, hshows⟩ => ?_
    rw [Store.series_eq_of_series? hseries]
    exact ⟨hstep, n, hshows, hshows.lengths⟩
  refine ⟨peak, minlen, longest, greatestLength p.maxn longest, hpeak, hcharted.least,
    hcharted.greatest, rfl, hsteps, fun c hc => ?_, fun α xs => checkedMeans?_eq p.window? xs⟩
  have hmost {t : StepRollup} (ht : t ∈ r.steps) :
      t.selected.length ≤ greatestLength p.maxn longest ∧
        t.focus.length ≤ greatestLength p.maxn longest := by
    obtain ⟨step, -, -, n, hshows, hselected, hfocus, -⟩ := exists_mem_of_forall₂ hsteps ht
    have hle := hshows.most
    omega
  rw [hcharted.charts] at hc
  exact ChartFrame.plots_of_mem (fun t ht => (hmost ht).1) (fun t ht => (hmost ht).2) hc

/-- Five samples of one step and three of another one, of which at most four are shown. The longer
series could be cut by two, but one aligns it already. -/
theorem window_of_mem_devices_limited :
    let sample (build : UInt64) : Sample := ⟨⟨1.0, 1⟩, ⟨0.0, 0⟩, ⟨0.0, 0⟩, 1.0, build⟩
    let s : Store := ⟨.ofList [
      ("CUDA perf", .ofList [("P100", .ofList ([3, 4, 5].map sample))]),
      ("OpenCL perf", .ofList [("P100", .ofList ([1, 2, 3, 4, 5].map sample))])]⟩
    let p : Parameters := { maxn := 4, maxm := 2 }
    ∃ r ∈ (Rollup.ofStore p 1.0 (.ofList [("P100", ⟨1.0, 1.0⟩)]) s ["P100"]).devices,
      r.steps.map (·.builds) = [[5, 4, 3], [5, 4, 3]] ∧
        ∀ c ∈ r.charts, ∀ l ∈ c.summaryLines, l.points.length = 4 := by
  intro sample s p
  obtain ⟨r, hr, hdevice, hbuilds⟩ : ∃ r ∈ (Rollup.ofStore p 1.0
      (.ofList [("P100", ⟨1.0, 1.0⟩)]) s ["P100"]).devices, r.device = "P100" ∧
        r.steps.map (·.builds) = [[5, 4, 3], [5, 4, 3]] := by
    decide +kernel
  obtain ⟨peak, minlen, longest, maxlen, -, -, hgreatest, hmaxlen, -, hlines, -⟩ :=
    window_of_mem_devices hr
  have hlongest : IsGreatest (seriesLengths s r.device) 5 := by
    rw [hdevice]
    exact isGreatest_of_max? (by decide +kernel)
  obtain rfl := hgreatest.unique hlongest
  refine ⟨r, hr, hbuilds, fun c hc l hl => ?_⟩
  obtain ⟨t, -, hplots⟩ := exists_mem_of_forall₂ (hlines c hc).1.flip hl
  exact hplots.length.trans hmaxlen

end DeviceRollup

end BenchTracker
