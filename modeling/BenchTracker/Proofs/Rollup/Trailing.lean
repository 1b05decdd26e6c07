import BenchTracker.Proofs.Rollup.Efficiency

/-!
# Summaries of the newest samples

Where no samples are cut off to align the series of a device, and the charts show at least as many
samples as a summary covers, the means of a step are those of its newest samples alone. Older
samples make no difference to them, and neither does the length of the series of other steps.
-/

namespace BenchTracker

variable {p : Parameters} {intensity roofline : Float} {peaks : PeakTable} {s t : Store}
  {step : String}

/-- Charts show all samples that a summary covers. -/
structure Parameters.ShowsWindow (p : Parameters) : Prop where
  lastn : 0 < p.lastn
  maxm : p.maxm = 0
  maxn : p.maxn = 0 ∨ p.lastn ≤ p.maxn

theorem Parameters.ShowsWindow.window?_eq (h : p.ShowsWindow) :
    p.window? = some p.lastn.toNat :=
  if_pos h.lastn

theorem inWindow_map {α β : Type} (window : Option Nat) (f : α → β) (xs : List α) :
    inWindow window (xs.map f) = (inWindow window xs).map f := by
  cases window with
  | none => rfl
  | some n => exact List.map_take.symm

namespace StepRollup

/-- Two summaries of one step with the same means, and so with the same labels. -/
structure SameMeans (a b : StepRollup) : Prop where
  step : a.step = b.step
  small : a.small = b.small
  medium : a.medium = b.medium
  large : a.large = b.large
  all : a.all = b.all
  focusMean : a.focusMean = b.focusMean
  efficiencyPercent : a.efficiencyPercent = b.efficiencyPercent
  summaryLabel : a.summaryLabel = b.summaryLabel
  focusLabel : a.focusLabel = b.focusLabel

theorem SameMeans.symm {a b : StepRollup} (h : SameMeans a b) : SameMeans b a :=
  ⟨h.step.symm, h.small.symm, h.medium.symm, h.large.symm, h.all.symm, h.focusMean.symm,
    h.efficiencyPercent.symm, h.summaryLabel.symm, h.focusLabel.symm⟩

theorem SameMeans.trans {a b c : StepRollup} (h : SameMeans a b) (h' : SameMeans b c) :
    SameMeans a c :=
  ⟨h.step.trans h'.step, h.small.trans h'.small, h.medium.trans h'.medium,
    h.large.trans h'.large, h.all.trans h'.all, h.focusMean.trans h'.focusMean,
    h.efficiencyPercent.trans h'.efficiencyPercent, h.summaryLabel.trans h'.summaryLabel,
    h.focusLabel.trans h'.focusLabel⟩

/-- The means depend on the samples in the window only. -/
theorem sameMeans_ofSamples {xs ys : List Sample}
    (h : inWindow p.window? xs = inWindow p.window? ys) :
    SameMeans (ofSamples p roofline step xs) (ofSamples p roofline step ys) := by
  have hwindow (f : Sample → Float) :
      inWindow p.window? (xs.map f) = inWindow p.window? (ys.map f) := by
    rw [inWindow_map, inWindow_map, h]
  have hmean (f : Sample → Float) :
      roundedMean p.window? (xs.map f) = roundedMean p.window? (ys.map f) :=
    congrArg (fun values => Double.roundInt (geomean values)) (hwindow f)
  have hefficiency : (ofSamples p roofline step xs).efficiencyPercent =
      (ofSamples p roofline step ys).efficiencyPercent := by
    simp only [ofSamples, List.map_map, hwindow]
  exact
    { step := rfl
      small := hmean _
      medium := hmean _
      large := hmean _
      all := hmean _
      focusMean := hmean _
      efficiencyPercent := hefficiency
      summaryLabel := by simp only [summaryLabel, windowLabel, ofSamples, hmean]
      focusLabel := by
        simp only [focusLabel, hefficiency]
        simp only [windowLabel, ofSamples, hmean] }

end StepRollup

namespace DeviceRollup

/-- Whatever the lengths of the other series are, the window is made up of the newest samples. -/
theorem inWindow_shown (h : p.ShowsWindow) {series : Series} {minlen longest : Nat}
    (hlongest : series.size ≤ longest) :
    inWindow p.window? (shown
        (shownLength (greatestLength p.maxn longest) minlen p.maxm series.size) series) =
      latest p.lastn.toNat series := by
  have hmaxn := h.maxn
  have hlength : series.samples.reverse.length = series.size := List.length_reverse
  rw [h.window?_eq, ← shown_eq_latest]
  simp only [inWindow, shown, List.take_take]
  rw [List.take_eq_take_iff, hlength, h.maxm]
  unfold shownLength greatestLength
  split <;> split <;> omega

theorem inWindow_latest (h : p.ShowsWindow) (series : Series) :
    inWindow p.window? (latest p.lastn.toNat series) = latest p.lastn.toNat series := by
  rw [h.window?_eq, ← shown_eq_latest]
  exact List.take_take.trans (by rw [Nat.min_self]; rfl)

/-- The means of each step are those of its newest samples alone. -/
theorem Charted.sameMeans {r : DeviceRollup} {peak : Peak} {minlen longest : Nat}
    (hcharted : Charted p intensity s r peak minlen longest) (h : p.ShowsWindow) :
    List.Forall₂ (fun step x => StepRollup.SameMeans x (.ofSamples p (peak.bound intensity) step
      (latest p.lastn.toNat (s.series step r.device)))) s.stepNames r.steps := by
  refine hcharted.steps.imp fun step x ⟨series, hseries, hx⟩ => ?_
  have hknows := Store.knows_of_series? (Option.isSome_of_eq_some hseries)
  rw [Store.series_eq_of_series? hseries, hx]
  have hlongest : series.size ≤ longest := by
    refine hcharted.greatest.2 ⟨step, hknows, ?_⟩
    rw [Store.series_eq_of_series? hseries]
  refine StepRollup.sameMeans_ofSamples ?_
  rw [inWindow_shown h hlongest, inWindow_latest h]

theorem ne_nil_of_latest_eq {a b : Series} {n : Nat} (h : latest n a = latest n b) (hn : 0 < n)
    (hb : b.samples ≠ []) : a.samples ≠ [] := by
  intro hnil
  have hlength := congrArg List.length h
  have hpos := List.length_pos_iff.2 hb
  simp only [latest, List.length_reverse, List.length_drop, Series.size, hnil,
    List.length_nil] at hlength
  omega

end DeviceRollup

/-- Two lists that are related to a third one item by item are related to each other. -/
theorem forall₂_of_common {α β γ : Type} {R : α → β → Prop} {S : α → γ → Prop} {P : β → γ → Prop}
    {xs : List α} {ys : List β} {zs : List γ} (hP : ∀ x y z, x ∈ xs → R x y → S x z → P y z)
    (hys : List.Forall₂ R xs ys) (hzs : List.Forall₂ S xs zs) : List.Forall₂ P ys zs := by
  induction hys generalizing zs with
  | nil =>
    cases hzs
    exact .nil
  | cons hy _ ih =>
    cases hzs with
    | cons hz hzs =>
      refine .cons (hP _ _ _ List.mem_cons_self hy hz) (ih (fun x y z hx => ?_) hzs)
      exact hP x y z (List.mem_cons_of_mem _ hx)

namespace Rollup

/-- Two stores with the same steps, in each of which the series of a device have the same `lastn`
newest samples, or the same samples if there are fewer. If the device is shown for the one store, it
is shown for the other one as well, with the same means for each step and the same efficiency. -/
theorem sameMeans_ofStore {devices : List String} {r : DeviceRollup} (h : p.ShowsWindow)
    (hr : r ∈ (ofStore p intensity peaks s devices).devices) (hnames : t.stepNames = s.stepNames)
    (hlatest : ∀ step ∈ s.stepNames,
      DeviceRollup.latest p.lastn.toNat (t.series step r.device) =
        DeviceRollup.latest p.lastn.toNat (s.series step r.device)) :
    r.device ∈ (ofStore p intensity peaks t devices).devices.map (·.device) ∧
      ∀ r' ∈ (ofStore p intensity peaks t devices).devices, r'.device = r.device →
        List.Forall₂ StepRollup.SameMeans r'.steps r.steps ∧
          r'.efficiencyPercent = r.efficiencyPercent := by
  have hknows (step : String) : t.knows step = true ↔ s.knows step = true := by
    rw [← Store.mem_stepNames, hnames, Store.mem_stepNames]
  constructor
  · obtain ⟨hmem, hcomparable⟩ := mem_map_device_iff.1 (List.mem_map_of_mem hr)
    obtain ⟨step, hstep⟩ := hcomparable.known
    refine mem_map_device_iff.2 ⟨hmem, hcomparable.peak, ⟨step, (hknows step).2 hstep⟩, ?_⟩
    intro step hstep
    have hlastn := h.lastn
    rw [hknows] at hstep
    exact DeviceRollup.ne_nil_of_latest_eq (hlatest step (Store.mem_stepNames.2 hstep)) (by omega)
      (hcomparable.sampled step hstep)
  · intro r' hr' hdevice
    obtain ⟨peak, minlen, longest, hpeak, hcharted⟩ := DeviceRollup.charted_of_mem hr
    obtain ⟨peak', minlen', longest', hpeak', hcharted'⟩ := DeviceRollup.charted_of_mem hr'
    obtain rfl : peak' = peak := Option.some.inj (by rw [← hpeak, ← hpeak', hdevice])
    have hmeans := hcharted.sameMeans h
    have hmeans' := hcharted'.sameMeans h
    rw [hnames, hdevice] at hmeans'
    have hsteps : List.Forall₂ StepRollup.SameMeans r'.steps r.steps := by
      refine forall₂_of_common (fun step x' x hstep hx' hx => ?_) hmeans' hmeans
      rw [hlatest step hstep] at hx'
      exact hx'.trans hx.symm
    have hpercents : List.Forall₂ (· = ·) (r'.steps.map (·.efficiencyPercent))
        (r.steps.map (·.efficiencyPercent)) := by
      rw [List.forall₂_map_left_iff, List.forall₂_map_right_iff]
      exact hsteps.imp fun _ _ hx => hx.efficiencyPercent
    rw [List.forall₂_eq_eq_eq] at hpercents
    refine ⟨hsteps, ?_⟩
    rw [DeviceRollup.efficiencyPercent_of? (of?_of_mem hr'),
      DeviceRollup.efficiencyPercent_of? (of?_of_mem hr), hpercents]

/-- Both steps of the first store have at most the two samples that a summary covers. The second
store has older samples in one of them, and so a longer frame for both. -/
theorem sameMeans_ofStore_older :
    let sample (build : UInt64) : Sample := ⟨⟨2.0, 1⟩, ⟨0.0, 0⟩, ⟨0.0, 0⟩, 1.0, build⟩
    let store (builds : List UInt64) : Store := ⟨.ofList [
      ("CUDA perf", .ofList [("P100", .ofList ([5].map sample))]),
      ("OpenCL perf", .ofList [("P100", .ofList (builds.map sample))])]⟩
    let p : Parameters := { lastn := 2, maxn := 4 }
    let shown (s : Store) := (ofStore p 1.0 (.ofList [("P100", ⟨1.0, 1.0⟩)]) s ["P100"]).devices
    ∃ r ∈ shown (store [4, 5]), ∃ r' ∈ shown (store [1, 2, 3, 4, 5]),
      r.steps.map (·.builds) = [[5], [5, 4]] ∧ r'.steps.map (·.builds) = [[5], [5, 4, 3, 2]] ∧
        List.Forall₂ StepRollup.SameMeans r'.steps r.steps := by
  intro sample store p shown
  obtain ⟨r, hr, hdevice, hbuilds⟩ : ∃ r ∈ shown (store [4, 5]), r.device = "P100" ∧
      r.steps.map (·.builds) = [[5], [5, 4]] := by
    decide +kernel
  obtain ⟨r', hr', hdevice', hbuilds'⟩ : ∃ r' ∈ shown (store [1, 2, 3, 4, 5]),
      r'.device = "P100" ∧ r'.steps.map (·.builds) = [[5], [5, 4, 3, 2]] := by
    decide +kernel
  refine ⟨r, hr, r', hr', hbuilds, hbuilds', ?_⟩
  refine ((sameMeans_ofStore (t := store [1, 2, 3, 4, 5]) ⟨by decide, rfl, by decide⟩ hr
    (by decide +kernel) fun step hstep => ?_).2 r' hr' (hdevice'.trans hdevice.symm)).1
  rw [hdevice]
  have hsteps : (store [4, 5]).stepNames = ["CUDA perf", "OpenCL perf"] := by decide +kernel
  rw [hsteps] at hstep
  simp only [Store.series, Store.series?, store, Keyed.get?_ofList]
  rcases List.mem_cons.1 hstep with rfl | hstep
  · rfl
  · obtain rfl := List.mem_singleton.1 hstep
    rfl

end Rollup

end BenchTracker
