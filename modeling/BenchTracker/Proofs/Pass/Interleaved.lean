import BenchTracker.Proofs.Cache.Foci
import BenchTracker.Proofs.Pass.Repeated

/-!
# Passes for several focus kernels in one folder

Passes with different focus kernels share a folder and nothing else. In any sequence of passes,
those with one focus report the same and leave the same cache as if the others were left out, as
long as making the folder brings no file of the cache to light.
-/

namespace BenchTracker

namespace Pass

open Directory

/-! ## One pass -/

/-- What a pass reports. -/
structure Summary where
  before : Nat
  after : Nat
  report : Ingest.Report
  rollup : Rollup

def Result.summary (r : Result) : Summary := ⟨r.before, r.after, r.report, r.rollup⟩

section Single

variable {request : Request} {tables : Tables} {provider : Provider} {sink : ChartSink}
  {d d' : Directory}

theorem summary_run :
    (run request tables provider sink d).summary =
      ⟨(loaded request tables d).watermark, after request tables provider d,
        (progress request tables provider d).report,
        rollup request tables (store request tables provider d)⟩ := rfl

/-- A pass reports the same on trees with the same cache files. -/
theorem summary_of_sameFiles (h : (cache request).SameFiles d d') :
    (run request tables provider sink d').summary =
      (run request tables provider sink d).summary := by
  obtain ⟨hwatermark, hstore⟩ := loaded_of_sameFiles tables h
  rw [summary_run, summary_run, hwatermark, after_of_loaded hwatermark hstore,
    progress_of_sameFiles h, store_of_sameFiles h]

/-- A pass saves the same on trees that its cache cannot tell apart. -/
theorem alike_saved (h : (cache request).Alike d d') :
    (cache request).Alike (saved request tables provider d)
      (saved request tables provider d') := by
  obtain ⟨hwatermark, hstore⟩ := loaded_of_sameFiles tables h.toSameFiles
  have hprogress : progress request tables provider d' = progress request tables provider d :=
    progress_of_sameFiles h.toSameFiles
  by_cases hlatest : (progress request tables provider d).report.latest = 0
  · rwa [saved_of_latest_eq_zero hlatest, saved_of_latest_eq_zero (by rw [hprogress, hlatest])]
  · rw [saved_of_latest_ne_zero hlatest, saved_of_latest_ne_zero (by rwa [hprogress]),
      store_of_sameFiles h.toSameFiles, after_of_loaded hwatermark hstore]
    exact h.save _ _

variable {c : Cache}

/-- To the cache of another focus, a pass saves nothing. -/
theorem alike_saved_of_ne (hfolder : request.folder = c.folder)
    (hfocus : c.focus ≠ request.params.focus) (hsettled : c.Settled d) :
    c.Alike d (saved request tables provider d) := by
  by_cases hlatest : (progress request tables provider d).report.latest = 0
  · rw [saved_of_latest_eq_zero hlatest]
    exact .refl c d
  · rw [saved_of_latest_ne_zero hlatest]
    exact Cache.alike_save hfolder hfocus hsettled _ _

theorem settled_saved (hfolder : request.folder = c.folder) (hsettled : c.Settled d) :
    c.Settled (saved request tables provider d) := by
  by_cases hlatest : (progress request tables provider d).report.latest = 0
  · rwa [saved_of_latest_eq_zero hlatest]
  · rw [saved_of_latest_ne_zero hlatest]
    exact Cache.settled_save hfolder d _ _

end Single

/-! ## Charts in another folder -/

section Charts

variable {name folder : String} {charts : List Chart}

theorem spares_foldl_handOver (hfolder : name ∉ Path.names folder)
    (hname : ∀ chart ∈ charts, Path.IsName (chart.stem ++ ".json"))
    (hne : ∀ chart ∈ charts, name ≠ chart.stem ++ ".json") (h : Handover) :
    Spares name h.directory (charts.foldl (handOver (.toFolder folder)) h).directory := by
  have hmake : name ∉ Path.names (ChartSink.folderToMake folder) := fun hmem =>
    hfolder ((ChartSink.names_folderToMake folder).subset hmem)
  exact kept_foldl_handOver (.refl name) .trans folder (fun _ => spares_makeFoldersFrom hmake)
    (fun chart hchart _ _ _ => spares_write (hname chart hchart) (hne chart hchart)) h

/-- Charts that are written into a folder change nothing for a cache in the folder of the pass,
unless they need a folder with the name of one of its files. A slash in a device would lead them to
other folders. -/
theorem alike_run_toFolder {request : Request} {tables : Tables} {provider : Provider}
    {d : Directory} {c : Cache} {q : Place} (hcache : request.folder = c.folder)
    (hq : d.IsFolder request.folder q) (hfolder : ∀ name ∈ c.names, name ∉ Path.names folder)
    (hslash : ∀ r ∈ (rollup request tables (store request tables provider d)).devices,
      ∀ chart ∈ r.charts, '/' ∉ chart.stem.toList) :
    c.Alike (saved request tables provider d)
      (run request tables provider (.toFolder folder) d).directory := by
  refine Cache.alike_of_spares (hcache ▸ keepsFolders_saved.isFolder hq) fun name hname => ?_
  obtain ⟨ending, hending, rfl⟩ := List.mem_map.1 hname
  have hdash : '-' ∉ ending.toList := by
    have hall : ∀ ending ∈ [".json", ".json.tmp", ".last", ".last.tmp"], '-' ∉ ending.toList := by
      decide
    exact hall ending hending
  rw [directory_run]
  refine spares_foldl_handOver (hfolder _ hname) (fun chart hchart => ?_)
    (fun chart hchart => ?_) { directory := saved request tables provider d }
  · obtain ⟨device, props, hstem⟩ := exists_stem_of_mem_ofStore hchart
    obtain ⟨r, hr, hmem⟩ := List.mem_flatMap.1 hchart
    exact isName_chart hstem (hslash r hr chart hmem)
  · obtain ⟨device, props, hstem⟩ := exists_stem_of_mem_ofStore hchart
    rw [hstem]
    exact fileName_ne_chart c device props hdash

end Charts

/-! ## Passes one after another -/

/-- A pass among others in the same folder. -/
structure Turn where
  params : Parameters
  tables : Tables
  provider : Provider
  sink : ChartSink
  /-- Whether a dot is printed for every build. -/
  progress : Bool := false

namespace Turn

variable (folder : String) (t : Turn) (d : Directory)

def request : Request := { folder, params := t.params, progress := t.progress }

def run : Result := Pass.run (t.request folder) t.tables t.provider t.sink d

/-- The directory with the cache, before any chart is handed over. -/
def saved : Directory := Pass.saved (t.request folder) t.tables t.provider d

end Turn

/-- The passes with their results. -/
def history (folder : String) : List Turn → Directory → List (Turn × Result)
  | [], _ => []
  | t :: rest, d => (t, t.run folder d) :: history folder rest (t.run folder d).directory

/-- The directory after some passes. -/
def final (folder : String) (turns : List Turn) (d : Directory) : Directory :=
  turns.foldl (fun d t => (t.run folder d).directory) d

/-- Whether a pass has the focus of a cache. -/
def Turn.isOf (c : Cache) (t : Turn) : Bool := t.params.focus = c.focus

/-- What the passes with the focus of a cache report. -/
def summaries (c : Cache) (turns : List Turn) (d : Directory) : List Summary :=
  ((history c.folder turns d).filter (·.1.isOf c)).map (·.2.summary)

variable {c : Cache} {t : Turn} {turns rest : List Turn} {d d' : Directory}

theorem summaries_cons (h : t.isOf c = true) :
    summaries c (t :: rest) d =
      (t.run c.folder d).summary :: summaries c rest (t.run c.folder d).directory := by
  simp only [summaries, history, List.filter_cons, h, if_true, List.map_cons]

theorem summaries_cons_of_not (h : ¬ t.isOf c = true) :
    summaries c (t :: rest) d = summaries c rest (t.run c.folder d).directory := by
  simp only [summaries, history, List.filter_cons, if_neg h]

theorem summaries_of_forall (h : ∀ t ∈ turns, t.isOf c = true) :
    summaries c turns d = (history c.folder turns d).map (·.2.summary) := by
  induction turns generalizing d with
  | nil => rfl
  | cons t rest ih =>
    obtain ⟨ht, hrest⟩ := List.forall_mem_cons.1 h
    rw [summaries_cons ht, ih hrest, history, List.map_cons]

/-- The charts of no pass change anything for a cache. -/
def ChartsApart (c : Cache) : List Turn → Directory → Prop
  | [], _ => True
  | t :: rest, d => c.Alike (t.saved c.folder d) (t.run c.folder d).directory ∧
    ChartsApart c rest (t.run c.folder d).directory

theorem chartsApart_of_discard (h : ∀ t ∈ turns, t.sink = .discard) : ChartsApart c turns d := by
  induction turns generalizing d with
  | nil => trivial
  | cons t rest ih =>
    obtain ⟨ht, hrest⟩ := List.forall_mem_cons.1 h
    refine ⟨?_, ih hrest⟩
    rw [Turn.run, ht, directory_run, directory_foldl_discard]
    exact .refl c _

/-- Without the passes of other focuses the ones of a cache leave the same to it, and report the
same. -/
theorem alike_final (hsettled : c.Settled d) (halike : c.Alike d d')
    (hcharts : ChartsApart c turns d) (hcharts' : ChartsApart c (turns.filter (·.isOf c)) d') :
    c.Alike (final c.folder turns d) (final c.folder (turns.filter (·.isOf c)) d') ∧
      summaries c turns d = summaries c (turns.filter (·.isOf c)) d' := by
  induction turns generalizing d d' with
  | nil => exact ⟨halike, rfl⟩
  | cons t rest ih =>
    obtain ⟨hchart, hcharts⟩ := hcharts
    have hsettled' : c.Settled (t.run c.folder d).directory :=
      hchart.settled (settled_saved rfl hsettled)
    by_cases hof : t.isOf c = true
    · have hcache : cache (t.request c.folder) = c :=
        congrArg (Cache.mk c.folder) (of_decide_eq_true hof)
      rw [List.filter_cons_of_pos hof] at hcharts' ⊢
      obtain ⟨hchart', hcharts'⟩ := hcharts'
      have hsaved : c.Alike (t.saved c.folder d) (t.saved c.folder d') := by
        have h : (cache (t.request c.folder)).Alike (t.saved c.folder d) (t.saved c.folder d') :=
          alike_saved (hcache ▸ halike)
        rwa [hcache] at h
      have hsummary : (t.run c.folder d').summary = (t.run c.folder d).summary :=
        summary_of_sameFiles (hcache ▸ halike.toSameFiles)
      obtain ⟨hfinal, hsummaries⟩ :=
        ih hsettled' (hchart.symm.trans (hsaved.trans hchart')) hcharts hcharts'
      refine ⟨hfinal, ?_⟩
      rw [summaries_cons hof, summaries_cons hof, hsummary, hsummaries]
    · have hfocus : c.focus ≠ t.params.focus := fun heq => hof (decide_eq_true heq.symm)
      rw [List.filter_cons_of_neg hof] at hcharts' ⊢
      have hother : c.Alike d (t.run c.folder d).directory :=
        (alike_saved_of_ne rfl hfocus hsettled).trans hchart
      obtain ⟨hfinal, hsummaries⟩ :=
        ih hsettled' (hother.symm.trans halike) hcharts hcharts'
      exact ⟨hfinal, (summaries_cons_of_not hof).trans hsummaries⟩

/-- Passes with other focuses can be left out: the passes with the focus of a cache report the same,
and its two files are the same in the end. Making the folder brings no file of the cache to light,
as in `Cache.settled_of_isFolder` and `Cache.settled_of_rooted`, and the charts leave the cache
alone, as in `chartsApart_of_discard` and `alike_run_toFolder`. -/
theorem summaries_filter (hsettled : c.Settled d) (hcharts : ChartsApart c turns d)
    (hcharts' : ChartsApart c (turns.filter (·.isOf c)) d) :
    let own := turns.filter (·.isOf c)
    c.SameFiles (final c.folder own d) (final c.folder turns d) ∧
      summaries c turns d = (history c.folder own d).map (·.2.summary) := by
  intro own
  obtain ⟨hfinal, hsummaries⟩ := alike_final hsettled (.refl c d) hcharts hcharts'
  have hall : ∀ t ∈ own, t.isOf c = true := fun t ht => (List.mem_filter.1 ht).2
  exact ⟨hfinal.toSameFiles.symm, hsummaries.trans (summaries_of_forall hall)⟩

/-- Between two passes for kernels of 23 comes one for kernels of 4, with later builds. -/
theorem summaries_filter_of_three :
    let c : Cache := ⟨"data", ⟨23, 23, 23⟩⟩
    let turn (size build : UInt64) : Turn :=
      { params := { focus := ⟨size, size, size⟩ }
        tables := { Tables.empty with steps := Store.empty.register "perf" }
        provider := Ingest.ofPages [[⟨build, []⟩]] fun _ => .error .unreachable
        sink := .discard }
    let d : Directory := ⟨[(["data"], .folder), (["buildkite-23x23x23.last", "data"], .file "7\n"),
      (["buildkite-23x23x23.json", "data"], .file "\x7b\x7d")], []⟩
    let turns := [turn 23 8, turn 4 30, turn 23 9]
    (summaries c turns d).map (·.before) = [7, 8] ∧
      c.SameFiles (final c.folder [turn 23 8, turn 23 9] d) (final c.folder turns d) ∧
      summaries c turns d =
        (history c.folder [turn 23 8, turn 23 9] d).map (·.2.summary) := by
  intro c turn d turns
  have hfolder : d.IsFolder c.folder ["data"] := ⟨by decide, by decide⟩
  have hdiscard : ∀ t ∈ turns, t.sink = .discard := by
    simp [turns, turn]
  have hown : turns.filter (·.isOf c) = [turn 23 8, turn 23 9] := rfl
  have hfilter := summaries_filter (Cache.settled_of_isFolder hfolder)
    (chartsApart_of_discard hdiscard)
    (chartsApart_of_discard fun t ht => hdiscard t (List.mem_filter.1 ht).1)
  rw [hown] at hfilter
  exact ⟨by decide +kernel, hfilter⟩

/-- The path of the cache goes up again from a folder that is missing. The pass for kernels of 4
makes it, and with it the watermark 20 can be read, so that the pass for kernels of 23 finds nothing
new. By itself that pass starts from 0 and saves the watermark 9. -/
theorem summaries_filter_uncovered :
    let c : Cache := ⟨"a/../data", ⟨23, 23, 23⟩⟩
    let turn (size build : UInt64) : Turn :=
      { params := { focus := ⟨size, size, size⟩ }
        tables := Tables.empty
        provider := Ingest.ofPages [[⟨build, []⟩]] fun _ => .error .unreachable
        sink := .discard }
    let d : Directory := ⟨[(["data"], .folder), (["buildkite-23x23x23.last", "data"], .file "20\n"),
      (["buildkite-23x23x23.json", "data"], .file "\x7b\x7d")], []⟩
    let turns := [turn 4 30, turn 23 9]
    let own := turns.filter (·.isOf c)
    (summaries c turns d).map (·.before) = [20] ∧
      (history c.folder own d).map (·.2.summary.before) = [0] ∧
      (final c.folder turns d).text? c.watermarkPath = some "20\n" ∧
      (final c.folder own d).text? c.watermarkPath = some "9\n" := by
  decide +kernel

end Pass

end BenchTracker
