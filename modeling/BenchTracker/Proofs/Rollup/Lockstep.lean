import BenchTracker.Proofs.Rollup.Window
import BenchTracker.Proofs.Text.Distinct

/-!
# The devices of a rollup

A device is shown if it can be compared over all steps. What is shown of it depends on the names of
the steps and on its own series, so the devices of a rollup do not disturb each other.
-/

namespace BenchTracker

variable {p : Parameters} {intensity : Float} {peaks : PeakTable} {s t : Store} {device : String}

namespace DeviceRollup

/-! ## What a summary reads -/

theorem lengths_eq (s : Store) (device : String) :
    lengths s device = s.stepNames.map fun step => (s.series step device).size := by
  simp only [lengths, Keyed.values, Store.stepNames, Keyed.keys, List.map_map]
  refine List.map_congr_left fun e he => ?_
  exact (size_series (Keyed.mem_entries.1 he) device).symm

/-- The summaries of the steps for which there is a series. -/
theorem filterMap_steps_eq (f : String → Series → StepRollup) (s : Store) (device : String) :
    (s.steps.toList.filterMap fun e => (e.2.get? device).map (f e.1)) =
      s.stepNames.filterMap fun step => (s.series? step device).map (f step) := by
  simp only [Keyed.toList, Store.stepNames, Keyed.keys, List.filterMap_map]
  refine List.filterMap_congr fun e he => ?_
  simp only [Function.comp_apply, Store.get?_of_mem_entries he]

/-- A summary depends on nothing but the names of the steps and the series of the device. -/
theorem of?_congr (hnames : t.stepNames = s.stepNames)
    (hseries : ∀ step, t.series? step device = s.series? step device) :
    of? p intensity peaks t device = of? p intensity peaks s device := by
  have hlengths : lengths t device = lengths s device := by
    simp only [lengths_eq, hnames, Store.series, hseries]
  have hsteps (f : String → Series → StepRollup) :
      (t.steps.toList.filterMap fun e => (e.2.get? device).map (f e.1)) =
        s.steps.toList.filterMap fun e => (e.2.get? device).map (f e.1) := by
    simp only [filterMap_steps_eq, hnames, hseries]
  simp only [of?, hlengths]
  refine bind_congr fun peak => bind_congr fun minlen => bind_congr fun longest => ?_
  rw [hsteps fun step series => .ofSamples p (peak.bound intensity) step (shown
    (shownLength (greatestLength p.maxn longest) minlen p.maxm series.size) series)]

/-- A device that can be compared over all steps: it has peak rates, and a sample in each of the
steps, of which there is at least one. -/
structure Comparable (peaks : PeakTable) (s : Store) (device : String) : Prop where
  peak : (peaks.get? device).isSome = true
  known : ∃ step, s.knows step = true
  sampled : ∀ step, s.knows step = true → (s.series step device).samples ≠ []

theorem isSome_of?_iff :
    (of? p intensity peaks s device).isSome = true ↔ Comparable peaks s device := by
  constructor
  · intro h
    obtain ⟨r, hr⟩ := Option.isSome_iff_exists.1 h
    obtain ⟨rfl, peak, minlen, longest, hpeak, hcharted⟩ := charted_of? hr
    obtain ⟨⟨step, hknows, -⟩, hleast⟩ := hcharted.least
    refine ⟨Option.isSome_of_eq_some hpeak, ⟨step, hknows⟩, fun step hstep hnil => ?_⟩
    have hle : minlen ≤ (s.series step r.device).size := hleast ⟨step, hstep, rfl⟩
    have hpos := hcharted.pos
    rw [Series.size, hnil, List.length_nil] at hle
    omega
  · rintro ⟨hpeak, ⟨step, hknows⟩, hsampled⟩
    obtain ⟨peak, hpeak⟩ := Option.isSome_iff_exists.1 hpeak
    have hne : lengths s device ≠ [] := by
      rw [lengths_eq, Ne, List.map_eq_nil_iff]
      exact List.ne_nil_of_mem (Store.mem_stepNames.2 hknows)
    obtain ⟨minlen, hmin⟩ := Option.ne_none_iff_exists'.1 (mt List.min?_eq_none_iff.1 hne)
    obtain ⟨longest, hmax⟩ := Option.ne_none_iff_exists'.1 (mt List.max?_eq_none_iff.1 hne)
    have hpos : minlen ≠ 0 := by
      obtain ⟨⟨step, hstep, hsize⟩, -⟩ := isLeast_of_min? hmin
      have hsome := hsampled step hstep
      rintro rfl
      exact hsome (List.length_eq_zero_iff.1 hsize)
    simp only [of?, hpeak, hmin, hmax, Option.bind_eq_bind, Option.bind_some, if_neg hpos,
      Option.isSome_some]

/-- Nothing can be missing where all series have samples. -/
theorem Comparable.series?_eq (h : Comparable peaks s device)
    (hknows : ∀ step, t.knows step = s.knows step)
    (hseries : ∀ step, t.series step device = s.series step device) (step : String) :
    t.series? step device = s.series? step device := by
  cases hstep : s.knows step with
  | false =>
    rw [Store.series?_eq_none hstep, Store.series?_eq_none ((hknows step).trans hstep)]
  | true =>
    have hsampled := h.sampled step hstep
    rw [Store.series?_eq_some hsampled, ← hseries step]
    exact Store.series?_eq_some (hseries step ▸ hsampled)

theorem Charted.caption_of_mem {r : DeviceRollup} {peak : Peak} {minlen longest : Nat}
    (h : Charted p intensity s r peak minlen longest) {x : StepRollup} (hx : x ∈ r.steps) :
    x.caption = .ofStep x.step := by
  obtain ⟨step, -, series, -, rfl⟩ := exists_mem_of_forall₂ h.steps hx
  rfl

/-- Each step of a device that is shown has a summary, in the order of their names. -/
theorem Charted.map_step {r : DeviceRollup} {peak : Peak} {minlen longest : Nat}
    (h : Charted p intensity s r peak minlen longest) : r.steps.map (·.step) = s.stepNames := by
  have hsame : List.Forall₂ (· = ·) s.stepNames (r.steps.map (·.step)) := by
    rw [List.forall₂_map_right_iff]
    exact h.shows.imp fun step t ht => ht.1.symm
  exact (List.forall₂_eq_eq_eq ▸ hsame : s.stepNames = _).symm

end DeviceRollup

namespace Rollup

theorem map_device_ofStore (devices : List String) :
    (ofStore p intensity peaks s devices).devices.map (·.device) =
      (distinct devices).filter fun device =>
        (DeviceRollup.of? p intensity peaks s device).isSome := by
  simp only [ofStore]
  induction distinct devices with
  | nil => rfl
  | cons device rest ih =>
    cases hr : DeviceRollup.of? p intensity peaks s device with
    | none => rw [List.filterMap_cons_none hr, List.filter_cons_of_neg (by simp [hr]), ih]
    | some r =>
      rw [List.filterMap_cons_some hr, List.filter_cons_of_pos (by simp [hr]), List.map_cons, ih,
        (DeviceRollup.charted_of? hr).1]

theorem nodup_map_device (devices : List String) :
    ((ofStore p intensity peaks s devices).devices.map (·.device)).Nodup := by
  rw [map_device_ofStore]
  exact (nodup_distinct devices).filter _

theorem mem_map_device_iff {devices : List String} :
    device ∈ (ofStore p intensity peaks s devices).devices.map (·.device) ↔
      device ∈ devices ∧ DeviceRollup.Comparable peaks s device := by
  rw [map_device_ofStore, List.mem_filter, mem_distinct, DeviceRollup.isSome_of?_iff]

theorem of?_of_mem {devices : List String} {r : DeviceRollup}
    (h : r ∈ (ofStore p intensity peaks s devices).devices) :
    DeviceRollup.of? p intensity peaks s r.device = some r := by
  obtain ⟨device, -, hr⟩ := List.mem_filterMap.1 h
  rwa [(DeviceRollup.charted_of? hr).1]

/-- The devices that are shown are those among the listed ones that can be compared over all steps,
each once and in the order of their first occurrences. Each of them has a summary of every known
step, in the order of the names. Other devices have no part in it: from a store with the same steps
and the same series of the device, the same comes out for the device alone. -/
theorem devices_ofStore (p : Parameters) (intensity : Float) (peaks : PeakTable) (s : Store)
    (devices : List String) :
    let shown := (ofStore p intensity peaks s devices).devices
    (shown.map (·.device)).Pairwise (fun a b => devices.idxOf a < devices.idxOf b) ∧
      (∀ device, device ∈ shown.map (·.device) ↔
        device ∈ devices ∧ DeviceRollup.Comparable peaks s device) ∧
      ∀ r ∈ shown,
        r.steps.map (·.step) = s.stepNames ∧ s.stepNames.Pairwise (· < ·) ∧
          (∀ step, step ∈ s.stepNames ↔ s.knows step = true) ∧
          ∀ t : Store, (∀ step, t.knows step = s.knows step) →
            (∀ step, t.series step r.device = s.series step r.device) →
            (ofStore p intensity peaks t [r.device]).devices = [r] := by
  intro shown
  refine ⟨?_, ?_, ?_⟩
  · rw [map_device_ofStore]
    exact (pairwise_idxOf_distinct devices).filter _
  · intro device
    exact mem_map_device_iff
  · intro r hr
    have hself := of?_of_mem hr
    obtain ⟨peak, minlen, longest, -, hcharted⟩ := DeviceRollup.charted_of_mem hr
    refine ⟨hcharted.map_step, s.pairwise_stepNames, fun step => Store.mem_stepNames, ?_⟩
    intro t hknows hseries
    have hcomparable : DeviceRollup.Comparable peaks s r.device :=
      DeviceRollup.isSome_of?_iff.1 (Option.isSome_of_eq_some hself)
    have hsame : DeviceRollup.of? p intensity peaks t r.device =
        DeviceRollup.of? p intensity peaks s r.device :=
      DeviceRollup.of?_congr (Store.stepNames_congr hknows)
        (hcomparable.series?_eq hknows hseries)
    simp only [ofStore, distinct, List.filter_nil, List.filterMap_cons_some (hsame.trans hself),
      List.filterMap_nil]

end Rollup

end BenchTracker
