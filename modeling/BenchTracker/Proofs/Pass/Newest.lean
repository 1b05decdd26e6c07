import BenchTracker.Proofs.Ingest.Incremental
import BenchTracker.Proofs.Pass.Parts
import BenchTracker.Proofs.Roofline.Band
import BenchTracker.Proofs.Rollup.Window
import Mathlib.Data.List.Sort

/-!
# The newest accepted builds

Every pass puts its series in the order of the builds before it leaves implausible samples out, and
what is left keeps that order. So the window of a step shows the newest builds that the band
accepts, in whichever order the provider, the stored series and the configured ones have them.
-/

namespace BenchTracker

/-- The greatest ones of the builds with a property, the newest first. -/
structure Newest (accepted : UInt64 → Prop) (builds : List UInt64) : Prop where
  descending : builds.Pairwise (· > ·)
  mem : ∀ b ∈ builds, accepted b
  older : ∀ b, accepted b → b ∉ builds → ∀ c ∈ builds, b < c

theorem Newest.congr {accepted accepted' : UInt64 → Prop} {builds : List UInt64}
    (h : Newest accepted builds) (hiff : ∀ b, accepted b ↔ accepted' b) :
    Newest accepted' builds where
  descending := h.descending
  mem b hb := (hiff b).1 (h.mem b hb)
  older b hb := h.older b ((hiff b).2 hb)

/-- The order of the builds can be made by inserting one sample after the other. -/
theorem Series.finalize_eq_ofList (s : Series) :
    s.finalize = ofList (s.samples.insertionSort fun a b => a.build ≤ b.build) := by
  have : IsTrans Sample fun a b => a.build ≤ b.build := ⟨fun _ _ _ => UInt64.le_trans⟩
  have : Std.Total fun a b : Sample => a.build ≤ b.build := ⟨fun _ _ => UInt64.le_total _ _⟩
  have hperm := List.perm_insertionSort (fun a b : Sample => a.build ≤ b.build) s.samples
  have hsamples : (ofList (s.samples.insertionSort fun a b => a.build ≤ b.build)).samples =
      s.samples.insertionSort fun a b => a.build ≤ b.build :=
    samples_foldl_append (s := empty) ((hperm.map Sample.build).nodup_iff.2 s.unique)
  refine Series.ext ?_
  rw [hsamples]
  refine List.Perm.eq_of_pairwise (fun a b ha hb hab hba => ?_) s.pairwise_finalize
    (List.pairwise_insertionSort _ _) ((List.mergeSort_perm _ _).trans hperm.symm)
  exact eq_of_build_eq (mem_finalize.1 ha) (hperm.mem_iff.1 hb) (UInt64.le_antisymm hab hba)

/-- A series in ascending order ends with its newest builds. -/
theorem DeviceRollup.newest_latest {series : Series}
    (h : series.samples.Pairwise fun a b => a.build < b.build) (n : Nat) :
    Newest (· ∈ series.samples.map Sample.build) ((latest n series).map Sample.build) := by
  have hsplit := List.take_append_drop (series.size - n) series.samples
  rw [← hsplit] at h
  obtain ⟨-, hback, hcross⟩ := List.pairwise_append.1 h
  refine ⟨?_, fun b hb => ?_, fun b hb hnot c hc => ?_⟩
  · rw [latest, List.map_reverse, List.pairwise_reverse, List.pairwise_map]
    exact hback
  · obtain ⟨x, hx, rfl⟩ := List.mem_map.1 hb
    exact List.mem_map_of_mem (List.mem_of_mem_drop (List.mem_reverse.1 hx))
  · obtain ⟨y, hy, rfl⟩ := List.mem_map.1 hc
    obtain ⟨x, hx, rfl⟩ := List.mem_map.1 hb
    rw [← hsplit, List.mem_append] at hx
    rcases hx with hx | hx
    · exact hcross x hx y (List.mem_reverse.1 hy)
    · exact absurd (List.mem_map_of_mem (List.mem_reverse.2 hx)) hnot

namespace StepRollup

/-- The range of builds that are in descending order is from the oldest to the newest one. -/
theorem range_of_descending {t : StepRollup} (h : t.builds.Pairwise (· > ·)) (hne : t.builds ≠ []) :
    (t.newest ∈ t.builds ∧ ∀ b ∈ t.builds, b ≤ t.newest) ∧
      (t.oldest ∈ t.builds ∧ ∀ b ∈ t.builds, t.oldest ≤ b) := by
  constructor
  · obtain ⟨c, rest, hbuilds⟩ := List.exists_cons_of_ne_nil hne
    have hnewest : t.newest = c := by rw [newest, hbuilds, List.headD_cons]
    rw [hnewest, hbuilds]
    rw [hbuilds, List.pairwise_cons] at h
    refine ⟨List.mem_cons_self, List.forall_mem_cons.2 ⟨UInt64.le_refl c, fun b hb => ?_⟩⟩
    exact UInt64.le_of_lt (h.1 b hb)
  · obtain ⟨front, c, hbuilds⟩ := List.eq_nil_or_concat' t.builds |>.resolve_left hne
    have holdest : t.oldest = c := by simp [oldest, hbuilds]
    rw [holdest, hbuilds]
    rw [hbuilds, List.pairwise_append] at h
    refine ⟨List.mem_append_right _ (List.mem_singleton_self c), fun b hb => ?_⟩
    rcases List.mem_append.1 hb with hb | hb
    · exact UInt64.le_of_lt (h.2.2 b hb c (List.mem_singleton_self c))
    · exact UInt64.le_of_eq (List.mem_singleton.1 hb).symm

end StepRollup

namespace Pass

variable (request : Request) (tables : Tables) (provider : Provider) (d : Directory)

/-- Whether a pass keeps a sample of a device for its charts. -/
def accepts (device : String) (x : Sample) : Bool :=
  (tables.peaks.get? device).any fun peak =>
    request.params.band.accepts (peak.bound request.params.intensity) x

/-- The accepted sample of a build among all that a pass has gathered, in whichever order. -/
def accepted? (step device : String) (build : UInt64) : Option Sample :=
  ((progress request tables provider d).store.sample? step device build).filter
    (accepts request tables device)

variable {request tables provider d}

theorem inBand_eq (s : Store) :
    s.inBand tables.peaks request.params.intensity request.params.band =
      s.filter (accepts request tables) :=
  Store.inBand_eq_filter s

/-- A series that a pass charts is in ascending order and has all accepted samples. -/
theorem charted_series {step device : String} {series : Series}
    (h : ((store request tables provider d).inBand tables.peaks request.params.intensity
      request.params.band).series? step device = some series) :
    series.samples.Pairwise (fun a b => a.build < b.build) ∧
      ∀ build, series.sample? build = accepted? request tables provider d step device build := by
  rw [inBand_eq, Store.filter, Store.series?_mapSeries, store, Ingest.left,
    Store.series?_finalizeAll, Option.map_map, Option.map_eq_some_iff] at h
  obtain ⟨gathered, hgathered, rfl⟩ := h
  have hprogress : (progress request tables provider d).store.series? step device =
      some gathered := hgathered
  refine ⟨?_, fun build => ?_⟩
  · rw [Function.comp_apply, Series.samples_filter]
    exact gathered.pairwise_lt_finalize.filter _
  · rw [Function.comp_apply, Series.sample?_filter, Series.sample?_finalize, accepted?,
      Store.sample?, hprogress, Option.bind_some]

/-- For each step of each device that a pass charts, the builds are the newest ones among all whose
samples the band accepts, at least one, from the newest to the oldest. The values that are shown are
those of these samples, position by position. -/
theorem newest_run {sink : ChartSink} {r : DeviceRollup} {t : StepRollup}
    (hr : r ∈ (run request tables provider sink d).rollup.devices) (ht : t ∈ r.steps) :
    Newest (fun b => (accepted? request tables provider d t.step r.device b).isSome = true)
        t.builds ∧
      1 ≤ t.builds.length ∧
      (t.newest ∈ t.builds ∧ ∀ b ∈ t.builds, b ≤ t.newest) ∧
      (t.oldest ∈ t.builds ∧ ∀ b ∈ t.builds, t.oldest ≤ b) ∧
      t.focus.map some = t.builds.map (fun b =>
        (accepted? request tables provider d t.step r.device b).map Sample.focus) ∧
      t.selected.map some = t.builds.map (fun b =>
        (accepted? request tables provider d t.step r.device b).map
          request.params.selection.value) := by
  obtain ⟨peak, minlen, longest, -, hcharted⟩ := DeviceRollup.charted_of_mem hr
  obtain ⟨step, -, rfl, series, n, hseries, hshows⟩ :=
    DeviceRollup.exists_mem_of_forall₂ hcharted.shows ht
  obtain ⟨hordered, hsample⟩ := charted_series hseries
  have hbuilds := hshows.builds
  have hlength : t.builds.length = n := hshows.lengths.2.2.2
  have hnewest : Newest (fun b => (accepted? request tables provider d t.step r.device b).isSome)
      t.builds := by
    rw [hbuilds]
    refine (DeviceRollup.newest_latest hordered n).congr fun b => ?_
    rw [← hsample, ← Series.contains_eq_isSome, Series.contains_iff]
  -- Each value that is shown is one of a sample of the series, found again by its build.
  have hvalues (value : Sample → Float) :
      ((DeviceRollup.latest n series).map value).map some = t.builds.map fun b =>
        (accepted? request tables provider d t.step r.device b).map value := by
    rw [hbuilds, List.map_map, List.map_map]
    refine List.map_congr_left fun x hx => ?_
    have hmem : x ∈ series.samples := List.mem_of_mem_drop (List.mem_reverse.1 hx)
    have hfound : series.sample? x.build = some x := Series.sample?_eq_some.2 ⟨hmem, rfl⟩
    simp only [Function.comp_apply, ← hsample, hfound, Option.map_some]
  have hpos : 1 ≤ t.builds.length := hlength ▸ hshows.pos
  obtain ⟨hfirst, hlast⟩ :=
    StepRollup.range_of_descending hnewest.descending (List.ne_nil_of_length_pos hpos)
  refine ⟨hnewest, hpos, hfirst, hlast, ?_, ?_⟩
  · rw [hshows.focus, hvalues]
  · rw [hshows.selected, hvalues]

/-- The cached builds are in no order, and the focus throughput of build 8 lies above the roofline.
The builds 12 and 11 come in from the newest to the oldest; both are incomplete, so nothing is
saved. Four builds are shown. -/
theorem newest_run_unsorted :
    let request : Request := { folder := "data", params := { maxn := 4 } }
    let tables : Tables :=
      { devices := [["4090"]], peaks := .ofList [("4090", ⟨1.0, 4.0⟩)]
        steps := Store.empty.register "perf" }
    let incomplete (number : UInt64) : Build :=
      ⟨number, [⟨some "perf", some 0, some "log"⟩, ⟨some "perf", some 1, none⟩]⟩
    let provider := Ingest.ofPages [[incomplete 12, incomplete 11]] fun _ =>
      .ok "hostname: 4090\nacc_bench_smm 1 1 23 23 23 1 1\ndevice: 1 ms 2 GFLOPS/s"
    let d : Directory := ⟨[(["data"], .folder),
      (["buildkite-23x23x23.last", "data"], .file "9\n"),
      (["buildkite-23x23x23.json", "data"],
        .file ("\x7b\"perf\":\x7b\"4090\":[[[0.0,0],[1.5,2],[0.0,0],2.5,9]," ++
          "[[0.0,0],[1.5,2],[0.0,0],20.5,8],[[0.0,0],[1.5,2],[0.0,0],2.5,3]," ++
          "[[0.0,0],[1.5,2],[0.0,0],2.5,7]]\x7d\x7d"))], []⟩
    ∃ r ∈ (run request tables provider .discard d).rollup.devices, ∃ t ∈ r.steps,
      t.builds = [12, 11, 9, 7] ∧ t.newest = 12 ∧ t.oldest = 7 ∧
        Newest (fun b => (accepted? request tables provider d t.step r.device b).isSome = true)
          t.builds := by
  intro request tables incomplete provider d
  obtain ⟨r, hr, t, ht, hbuilds, hnewest, holdest⟩ :
      ∃ r ∈ (run request tables provider .discard d).rollup.devices, ∃ t ∈ r.steps,
        t.builds = [12, 11, 9, 7] ∧ t.newest = 12 ∧ t.oldest = 7 := by
    simp only [rollup_run, store, Ingest.left, Store.finalizeAll, Series.finalize_eq_ofList]
    decide +kernel
  exact ⟨r, hr, t, ht, hbuilds, hnewest, holdest, (newest_run hr ht).1⟩

end Pass

end BenchTracker
