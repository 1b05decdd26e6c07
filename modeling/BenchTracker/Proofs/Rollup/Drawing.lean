import BenchTracker.Proofs.Rollup.Lockstep

/-!
# Drawing charts

Charts are drawn step by step: a table keeps the charts begun so far by stem, a list keeps the order
in which they were begun, and in this order the charts are taken out of the table at the end. No
step is lost on the way and none is drawn twice: each step has one line of either kind, in the chart
with its stem.
-/

namespace BenchTracker

variable {p : Parameters} {intensity : Float} {peaks : PeakTable} {s : Store}

/-- The charts begun so far, and their stems in the order in which they were begun. -/
structure Drawing where
  charts : Keyed Chart
  order : List String

namespace Drawing

def empty : Drawing := ⟨.empty, []⟩

/-- Takes charts out of a table, each of them once. -/
def takeOut (charts : Keyed Chart) : List String → List Chart
  | [] => []
  | stem :: rest =>
    match charts.get? stem with
    | some c => c :: takeOut (charts.filter fun k _ => k ≠ stem) rest
    | none => takeOut charts rest

/-- The charts in the order in which they were begun. -/
def toList (d : Drawing) : List Chart := takeOut d.charts d.order

theorem takeOut_eq_map {charts : Keyed Chart} {stems : List String} {g : String → Chart}
    (hstems : stems.Nodup) (h : ∀ stem ∈ stems, charts.get? stem = some (g stem)) :
    takeOut charts stems = stems.map g := by
  induction stems generalizing charts with
  | nil => rfl
  | cons stem rest ih =>
    obtain ⟨hnot, hrest⟩ := List.nodup_cons.1 hstems
    have hothers : ∀ other ∈ rest,
        (charts.filter fun k _ => k ≠ stem).get? other = some (g other) := by
      intro other hother
      have hne : other ≠ stem := fun heq => hnot (heq ▸ hother)
      rw [Keyed.get?_filter_ne, if_neg hne]
      exact h other (List.mem_cons_of_mem _ hother)
    simp only [takeOut, h stem List.mem_cons_self]
    rw [ih hrest hothers, List.map_cons]

end Drawing

namespace ChartFrame

/-- A chart that has been begun, without any lines. -/
def blank (f : ChartFrame) (stem : String) : Chart :=
  { stem, device := f.device, title := "", summaryTitle := "", focusTitle := f.focusTitle
    summaryLines := [], focusLines := [] }

/-- Adds the lines of a step to a chart, and gives the chart the titles of the step. -/
def addStep (f : ChartFrame) (c : Chart) (t : StepRollup) : Chart :=
  { c with
    title := "Performance of " ++ t.caption.subject ++ " " ++ t.caption.props ++ " on " ++ f.device
    summaryTitle := "Summary of " ++ Numeral.text t.kernels ++ " SMM-kernels"
    summaryLines := c.summaryLines ++ [f.summaryLine t]
    focusLines := c.focusLines ++ [f.focusLine t] }

/-- Draws a step into the chart with its stem, which is begun if there is none so far. -/
def draw (f : ChartFrame) (d : Drawing) (t : StepRollup) : Drawing :=
  { charts := d.charts.alter (f.stem t) fun c => f.addStep (c.getD (f.blank (f.stem t))) t
    order := if d.charts.contains (f.stem t) then d.order else d.order ++ [f.stem t] }

/-- The charts of the steps, drawn one step after the other. -/
def drawAll (f : ChartFrame) (steps : List StepRollup) : List Chart :=
  (steps.foldl f.draw .empty).toList

variable {f : ChartFrame} {steps : List StepRollup} {d : Drawing}

/-- What has been drawn once some steps are done. -/
structure Drawn (f : ChartFrame) (steps : List StepRollup) (d : Drawing) : Prop where
  order : d.order = distinct (steps.map f.stem)
  charts : ∀ stem, d.charts.get? stem =
    if stem ∈ steps.map f.stem then some (f.chart steps stem) else none

theorem chart_append_of_ne {t : StepRollup} {stem : String} (h : f.stem t ≠ stem)
    (steps : List StepRollup) : f.chart (steps ++ [t]) stem = f.chart steps stem := by
  simp [chart, List.filter_append, h]

theorem chart_append_self (f : ChartFrame) (steps : List StepRollup) (t : StepRollup) :
    f.chart (steps ++ [t]) (f.stem t) = f.addStep (f.chart steps (f.stem t)) t := by
  simp [chart, addStep, List.filter_append]

/-- The titles of a chart are those of its last step, so it does not matter what they were. -/
theorem addStep_chart_of_not_mem {t : StepRollup} (h : f.stem t ∉ steps.map f.stem) :
    f.addStep (f.chart steps (f.stem t)) t = f.addStep (f.blank (f.stem t)) t := by
  have hnone : steps.filter (fun r => f.stem r = f.stem t) = [] := by
    refine List.filter_eq_nil_iff.2 fun r hr => ?_
    rw [decide_eq_true_eq]
    intro heq
    exact h (heq ▸ List.mem_map_of_mem hr)
  simp [chart, addStep, blank, hnone]

theorem Drawn.draw (h : Drawn f steps d) (t : StepRollup) :
    Drawn f (steps ++ [t]) (f.draw d t) where
  order := by
    have hcontains : d.charts.contains (f.stem t) = decide (f.stem t ∈ steps.map f.stem) := by
      rw [Keyed.contains_eq_isSome, h.charts]
      split <;> simp [*]
    rw [List.map_append, List.map_singleton, distinct_append_singleton, ← h.order]
    simp only [ChartFrame.draw, hcontains, decide_eq_true_eq]
  charts stem := by
    have hold : f.addStep ((d.charts.get? (f.stem t)).getD (f.blank (f.stem t))) t =
        f.chart (steps ++ [t]) (f.stem t) := by
      rw [chart_append_self, h.charts]
      split
      · rfl
      · rw [Option.getD_none, addStep_chart_of_not_mem ‹_›]
    simp only [ChartFrame.draw, Keyed.get?_alter, hold, List.map_append, List.map_singleton,
      List.mem_append, List.mem_singleton]
    by_cases hstem : stem = f.stem t
    · subst stem
      simp
    · simp only [hstem, if_false, or_false, h.charts, chart_append_of_ne (Ne.symm hstem)]

theorem drawn_foldl (f : ChartFrame) (steps : List StepRollup) :
    Drawn f steps (steps.foldl f.draw .empty) := by
  induction steps using List.reverseRecOn with
  | nil => exact ⟨rfl, fun stem => rfl⟩
  | append_singleton steps t ih =>
    rw [List.foldl_append, List.foldl_cons, List.foldl_nil]
    exact ih.draw t

/-- Nothing else comes out than a chart for each stem. -/
theorem drawAll_eq_charts (f : ChartFrame) (steps : List StepRollup) :
    f.drawAll steps = f.charts steps := by
  have hdrawn := drawn_foldl f steps
  rw [drawAll, Drawing.toList, hdrawn.order, charts]
  refine Drawing.takeOut_eq_map (nodup_distinct _) fun stem hstem => ?_
  rw [hdrawn.charts, if_pos (mem_distinct.1 hstem)]

/-! ## The charts of all steps -/

variable {c : Chart}

theorem map_stem_charts (f : ChartFrame) (steps : List StepRollup) :
    (f.charts steps).map (·.stem) = distinct (steps.map f.stem) := by
  rw [charts, List.map_map]
  exact List.map_id _

theorem length_lines_chart (f : ChartFrame) (steps : List StepRollup) (stem : String) :
    (f.chart steps stem).summaryLines.length = (steps.map f.stem).count stem ∧
      (f.chart steps stem).focusLines.length = (steps.map f.stem).count stem := by
  have hcount : (steps.filter fun t => f.stem t = stem).length =
      (steps.map f.stem).count stem := by
    rw [List.count_eq_countP, List.countP_map, List.countP_eq_length_filter]
    rfl
  simp only [chart, List.length_map, hcount, and_self]

/-- Together the charts have one line of either kind for each step. -/
theorem sum_length_lines (f : ChartFrame) (steps : List StepRollup) :
    ((f.charts steps).map (·.summaryLines.length)).sum = steps.length ∧
      ((f.charts steps).map (·.focusLines.length)).sum = steps.length := by
  have hcount := sum_count_distinct (steps.map f.stem)
  rw [List.length_map] at hcount
  constructor
  · rw [← hcount, charts, List.map_map]
    refine congrArg List.sum (List.map_congr_left fun stem _ => ?_)
    exact (f.length_lines_chart steps stem).1
  · rw [← hcount, charts, List.map_map]
    refine congrArg List.sum (List.map_congr_left fun stem _ => ?_)
    exact (f.length_lines_chart steps stem).2

theorem labels_of_mem (h : c ∈ f.charts steps) :
    c.summaryLines.map (·.label) = (steps.filter fun t => f.stem t = c.stem).map (fun t =>
        t.caption.runtime ++ ": " ++ t.summaryLabel) ∧
      c.focusLines.map (·.label) = (steps.filter fun t => f.stem t = c.stem).map (fun t =>
        t.caption.runtime ++ ": build=" ++ Numeral.text t.oldest.toNat ++ ".." ++
          Numeral.text t.newest.toNat ++ " " ++ t.focusLabel) := by
  obtain ⟨stem, -, rfl⟩ := List.mem_map.1 h
  simp only [chart, List.map_map]
  constructor <;> rfl

end ChartFrame

namespace DeviceRollup

/-- The steps whose lines a chart of the device has. -/
def stepsOf (r : DeviceRollup) (c : Chart) : List StepRollup :=
  r.steps.filter fun t => chartStem r.device t.caption.props = c.stem

/-- The values of a step fit into the frame, so they are drawn with gaps behind them at most. -/
theorem Charted.plots_of_mem {r : DeviceRollup} {peak : Peak} {minlen longest : Nat}
    (h : Charted p intensity s r peak minlen longest) {c : Chart} (hc : c ∈ r.charts) :
    List.Forall₂ (fun l t => l.Plots (greatestLength p.maxn longest) t.selected) c.summaryLines
        (r.steps.filter fun t => chartStem r.device t.caption.props = c.stem) ∧
      List.Forall₂ (fun l t => l.Plots (greatestLength p.maxn longest) t.focus) c.focusLines
        (r.steps.filter fun t => chartStem r.device t.caption.props = c.stem) := by
  have hmost {t : StepRollup} (ht : t ∈ r.steps) :
      t.selected.length ≤ greatestLength p.maxn longest ∧
        t.focus.length ≤ greatestLength p.maxn longest := by
    obtain ⟨step, -, -, series, n, -, hshows⟩ := exists_mem_of_forall₂ h.shows ht
    obtain ⟨hselected, hfocus, -⟩ := hshows.lengths
    have hle := hshows.most
    omega
  rw [h.charts] at hc
  exact ChartFrame.plots_of_mem (fun t ht => (hmost ht).1) (fun t ht => (hmost ht).2) hc

theorem map_stem_of_mem {devices : List String} {r : DeviceRollup}
    (h : r ∈ (Rollup.ofStore p intensity peaks s devices).devices) :
    r.charts.map (·.stem) =
      distinct (r.steps.map fun t => chartStem r.device t.caption.props) := by
  obtain ⟨peak, minlen, longest, -, hcharted⟩ := charted_of_mem h
  rw [hcharted.charts, ChartFrame.map_stem_charts]
  rfl

theorem mem_map_stem_iff {devices : List String} {r : DeviceRollup}
    (h : r ∈ (Rollup.ofStore p intensity peaks s devices).devices) {stem : String} :
    stem ∈ r.charts.map (·.stem) ↔
      ∃ t ∈ r.steps, chartStem r.device t.caption.props = stem := by
  rw [map_stem_of_mem h, mem_distinct, List.mem_map]

theorem mem_stepsOf {r : DeviceRollup} {c : Chart} {t : StepRollup} :
    t ∈ r.stepsOf c ↔ t ∈ r.steps ∧ chartStem r.device t.caption.props = c.stem := by
  rw [stepsOf, List.mem_filter, decide_eq_true_eq]

/-- The lines of a chart are those of the steps with its stem, in the frame of the device. -/
theorem exists_frame_of_mem {devices : List String} {r : DeviceRollup}
    (h : r ∈ (Rollup.ofStore p intensity peaks s devices).devices) :
    ∃ f : ChartFrame, f.device = r.device ∧ ∀ c ∈ r.charts, c.device = r.device ∧
      c.summaryLines = (r.stepsOf c).map f.summaryLine ∧
        c.focusLines = (r.stepsOf c).map f.focusLine := by
  obtain ⟨peak, minlen, longest, -, hcharted⟩ := charted_of_mem h
  let f : ChartFrame := ⟨r.device, p.focus, intensity, peak.bound intensity,
    greatestLength p.maxn longest⟩
  refine ⟨f, rfl, fun c hc => ?_⟩
  rw [hcharted.charts] at hc
  obtain ⟨stem, -, rfl⟩ := List.mem_map.1 hc
  exact ⟨rfl, rfl, rfl⟩

/-- The charts of a device that is shown are those that come out of drawing its steps, the steps
being all known ones in the order of their names. There is a chart for each stem, and the charts
stand in the order in which the steps first have their stems. Each chart has a line of either kind
for each step with its stem and for no other one, with the labels and the padded values of these
steps. Together the charts have as many lines of either kind as there are steps. -/
theorem charts_of_mem_devices {devices : List String} {r : DeviceRollup}
    (h : r ∈ (Rollup.ofStore p intensity peaks s devices).devices) :
    let stems := r.steps.map fun t => chartStem r.device t.caption.props
    ∃ peak longest maxlen, peaks.get? r.device = some peak ∧
      IsGreatest (seriesLengths s r.device) longest ∧
      maxlen = (if p.maxn = 0 then longest else min longest p.maxn) ∧
      r.charts = ChartFrame.drawAll
        ⟨r.device, p.focus, intensity, peak.bound intensity, maxlen⟩ r.steps ∧
      r.steps.map (·.step) = s.stepNames ∧ s.stepNames.Pairwise (· < ·) ∧
      (∀ stem, stem ∈ r.charts.map (·.stem) ↔ stem ∈ stems) ∧
      (r.charts.map (·.stem)).Nodup ∧
      (r.charts.map (·.stem)).Pairwise (fun a b => stems.idxOf a < stems.idxOf b) ∧
      (∀ c ∈ r.charts, c.summaryLines.length = c.focusLines.length ∧
        c.summaryLines.map (·.label) = (r.stepsOf c).map (fun t =>
          t.caption.runtime ++ ": " ++ t.summaryLabel) ∧
        List.Forall₂ (fun l t => l.Plots maxlen t.selected) c.summaryLines (r.stepsOf c) ∧
        c.focusLines.map (·.label) = (r.stepsOf c).map (fun t =>
          t.caption.runtime ++ ": build=" ++ Numeral.text t.oldest.toNat ++ ".." ++
            Numeral.text t.newest.toNat ++ " " ++ t.focusLabel) ∧
        List.Forall₂ (fun l t => l.Plots maxlen t.focus) c.focusLines (r.stepsOf c)) ∧
      (r.charts.map (·.summaryLines.length)).sum = s.stepNames.length ∧
      (r.charts.map (·.focusLines.length)).sum = s.stepNames.length := by
  intro stems
  obtain ⟨peak, minlen, longest, hpeak, hcharted⟩ := charted_of_mem h
  let f : ChartFrame := ⟨r.device, p.focus, intensity, peak.bound intensity,
    greatestLength p.maxn longest⟩
  have hcharts : r.charts = f.charts r.steps := hcharted.charts
  have hstems : r.charts.map (·.stem) = distinct stems := map_stem_of_mem h
  have hcount : r.steps.length = s.stepNames.length := by
    rw [← hcharted.map_step, List.length_map]
  refine ⟨peak, longest, f.length, hpeak, hcharted.greatest, rfl, ?_, hcharted.map_step,
    s.pairwise_stepNames, ?_, ?_, ?_, ?_, ?_⟩
  · rw [ChartFrame.drawAll_eq_charts]
    exact hcharts
  · intro stem
    rw [hstems, mem_distinct]
  · rw [hstems]
    exact nodup_distinct stems
  · rw [hstems]
    exact pairwise_idxOf_distinct stems
  · intro c hc
    obtain ⟨hsummary, hfocus⟩ := hcharted.plots_of_mem hc
    rw [hcharts] at hc
    obtain ⟨hlabels, hfocusLabels⟩ := ChartFrame.labels_of_mem hc
    exact ⟨hsummary.length_eq.trans hfocus.length_eq.symm, hlabels, hsummary, hfocusLabels, hfocus⟩
  · rw [hcharts, ← hcount]
    exact f.sum_length_lines r.steps

/-- Three steps, of which the first and the last one have the same properties. -/
theorem charts_of_mem_devices_interleaved :
    let series := Series.ofList [⟨⟨1.0, 1⟩, ⟨0.0, 0⟩, ⟨0.0, 0⟩, 1.0, 7⟩]
    let s : Store := ⟨.ofList [
      ("CUDA SMM fp64", .ofList [("P100", series)]),
      ("HIP SMM fp32", .ofList [("P100", series)]),
      ("OpenCL SMM fp64", .ofList [("P100", series)])]⟩
    ∃ r ∈ (Rollup.ofStore {} 1.0 (.ofList [("P100", ⟨1.0, 1.0⟩)]) s ["P100"]).devices,
      r.charts.map (·.stem) = ["buildkite-p100-fp64", "buildkite-p100-fp32"] ∧
        r.charts.map (·.summaryLines.length) = [2, 1] ∧
        (r.charts.map (·.focusLines.length)).sum = 3 := by
  intro series s
  obtain ⟨r, hr, hstems, hlines⟩ : ∃ r ∈ (Rollup.ofStore {} 1.0
      (.ofList [("P100", ⟨1.0, 1.0⟩)]) s ["P100"]).devices,
        r.charts.map (·.stem) = ["buildkite-p100-fp64", "buildkite-p100-fp32"] ∧
          r.charts.map (·.summaryLines.length) = [2, 1] := by
    decide +kernel
  obtain ⟨-, -, -, -, -, -, -, -, -, -, -, -, -, -, hfocus⟩ := charts_of_mem_devices hr
  exact ⟨r, hr, hstems, hlines, hfocus.trans (by decide +kernel)⟩

end DeviceRollup

end BenchTracker
