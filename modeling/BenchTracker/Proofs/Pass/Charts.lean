import BenchTracker.Proofs.Directory.Steps
import BenchTracker.Proofs.Pass.Parts
import BenchTracker.Proofs.Rollup.Window

/-!
# Charts beside the cache

Charts that are discarded or written into a folder leave the cache alone, even if it is in the same
folder: the stem of a chart has a dash behind the device, where the name of a cache file has none.
-/

namespace BenchTracker

/-! ## Names of chart files -/

theorem exists_stem_of_mem_charts {f : ChartFrame} {steps : List StepRollup} {c : Chart}
    (h : c ∈ f.charts steps) : ∃ device props, c.stem = chartStem device props := by
  obtain ⟨stem, hstem, rfl⟩ := List.mem_map.1 h
  obtain ⟨r, -, rfl⟩ := List.mem_map.1 (mem_distinct.1 hstem)
  exact ⟨f.device, r.caption.props, rfl⟩

theorem exists_stem_of_mem_ofStore {p : Parameters} {intensity : Float} {peaks : PeakTable}
    {s : Store} {devices : List String} {c : Chart}
    (h : c ∈ (Rollup.ofStore p intensity peaks s devices).devices.flatMap (·.charts)) :
    ∃ device props, c.stem = chartStem device props := by
  obtain ⟨r, hr, hc⟩ := List.mem_flatMap.1 h
  obtain ⟨peak, minlen, longest, -, hcharted⟩ := DeviceRollup.charted_of_mem hr
  rw [hcharted.charts] at hc
  exact exists_stem_of_mem_charts hc

theorem isName_chart {stem device props : String} (hstem : stem = chartStem device props)
    (hslash : '/' ∉ stem.toList) : Path.IsName (stem ++ ".json") := by
  have hfront : Path.IsName "buildkite-" := ⟨by decide, by decide, by decide, by decide⟩
  subst stem
  simp only [chartStem, String.append_assoc] at hslash ⊢
  refine hfront.append ?_
  simp only [String.toList_append, List.mem_append, not_or] at hslash ⊢
  exact ⟨hslash.2.1, hslash.2.2.1, hslash.2.2.2, by decide⟩

/-- No ending makes a cache file of a chart. -/
theorem fileName_ne_chart (c : Cache) (device props : String) {ending : String}
    (h : '-' ∉ ending.toList) : c.fileName ending ≠ chartStem device props ++ ".json" := by
  intro heq
  simp only [Cache.fileName, chartStem, String.append_assoc] at heq
  have hrest := (String.append_right_inj _).1 heq
  have hmem : '-' ∈ (c.focus.text ++ ending).toList := by
    rw [hrest]
    simp
  rw [String.toList_append, List.mem_append] at hmem
  exact hmem.elim (Cache.not_mem_text rfl (by decide) c.focus) h

/-! ## The folder of charts -/

namespace ChartSink

/-- A path that ends in a dot has its own folder left out, and no other path. -/
theorem names_folderToMake (folder : String) :
    Path.names (folderToMake folder) <+: Path.names folder := by
  rw [folderToMake]
  split
  · rw [Path.names_parent]
    exact List.dropLast_prefix _
  · exact List.prefix_refl _

example : ["x/.", "/a/b/./", "a/b"].map folderToMake = ["", "/a", "a/b"] := by decide +kernel

theorem isAbsolute_folderToMake (folder : String) :
    Path.isAbsolute (folderToMake folder) = Path.isAbsolute folder := by
  rw [folderToMake]
  split
  · exact Path.isAbsolute_parent folder
  · rfl

theorem makeFolders_folderToMake {d : Directory} {folder : String} {q : Place}
    (hq : d.IsFolder folder q) : d.makeFolders (folderToMake folder) = (d, none) :=
  hq.makeFolders_front (names_folderToMake folder) (isAbsolute_folderToMake folder)

end ChartSink

/-! ## Handing charts over -/

namespace Pass

open Directory

variable {name : String} {charts : List Chart}

theorem directory_handOver {sink : ChartSink} (h : Handover) {c : Chart} {steps : List Step}
    (hsteps : sink c = some steps) :
    (handOver sink h c).directory = (h.directory.performAll steps).1 := by
  simp only [handOver, hsteps]
  cases h.directory.performAll steps with
  | mk d fault => cases fault <;> rfl

/-- What making the folder and writing each chart into it keeps, handing the charts over keeps. -/
theorem kept_foldl_handOver {R : Directory → Directory → Prop} (hrefl : ∀ d, R d d)
    (htrans : ∀ {d d' d''}, R d d' → R d' d'' → R d d'') (folder : String)
    (hfolder : ∀ d, R d (d.makeFolders (ChartSink.folderToMake folder)).1)
    (hwrite : ∀ c ∈ charts, ∀ d d' text,
      d.write (ChartSink.chartPath folder c) text = .ok d' → R d d') (h : Handover) :
    R h.directory (charts.foldl (handOver (.toFolder folder)) h).directory := by
  induction charts generalizing h with
  | nil => exact hrefl h.directory
  | cons c rest ih =>
    obtain ⟨hfirst, hrest⟩ := List.forall_mem_cons.1 hwrite
    refine htrans ?_ (ih hrest _)
    rw [directory_handOver h (rfl : ChartSink.toFolder folder c = some _)]
    refine kept_performAll hrefl htrans (fun step hstep d => ?_) h.directory
    rcases List.mem_pair.1 hstep with rfl | rfl
    · exact hfolder d
    · exact kept_perform_write hrefl fun d' => hfirst d d' _

theorem frames_foldl_handOver (folder : String)
    (hname : ∀ c ∈ charts, Path.IsName (c.stem ++ ".json"))
    (hne : ∀ c ∈ charts, name ≠ c.stem ++ ".json") (h : Handover) :
    Frames name h.directory (charts.foldl (handOver (.toFolder folder)) h).directory :=
  kept_foldl_handOver (.refl name) .trans folder (fun d => frames_makeFolders name d _)
    (fun c hc _ _ _ => frames_write (hname c hc) (hne c hc)) h

variable {request : Request} {tables : Tables} {provider : Provider} {d : Directory}

theorem directory_foldl_discard (h : Handover) :
    (charts.foldl (handOver .discard) h).directory = h.directory := by
  induction charts generalizing h with
  | nil => rfl
  | cons c rest ih => exact ih _

/-- A pass whose charts are discarded ends with the cache as it was saved. -/
theorem sameFiles_run_discard :
    (cache request).SameFiles (saved request tables provider d)
      (run request tables provider .discard d).directory := by
  rw [directory_run, directory_foldl_discard]
  exact .refl _ _

theorem keepsFolders_saved : KeepsFolders d (saved request tables provider d) := by
  by_cases h : (progress request tables provider d).report.latest = 0
  · rw [saved_of_latest_eq_zero h]
    exact .refl d
  · rw [saved_of_latest_ne_zero h]
    exact Cache.keepsFolders_save rfl

/-- The same for charts that are written into a folder. A slash in a device would lead its charts to
other folders. -/
theorem sameFiles_run_toFolder (folder : String) {q : Place}
    (hfolder : d.IsFolder request.folder q)
    (hslash : ∀ r ∈ (rollup request tables (store request tables provider d)).devices,
      ∀ c ∈ r.charts, '/' ∉ c.stem.toList) :
    (cache request).SameFiles (saved request tables provider d)
      (run request tables provider (.toFolder folder) d).directory := by
  have hcharts {c : Chart} (hc : c ∈ (rollup request tables
      (store request tables provider d)).devices.flatMap (·.charts)) :
      Path.IsName (c.stem ++ ".json") ∧ ∀ ending : String, '-' ∉ ending.toList →
        (cache request).fileName ending ≠ c.stem ++ ".json" := by
    obtain ⟨device, props, hstem⟩ := exists_stem_of_mem_ofStore hc
    obtain ⟨r, hr, hcr⟩ := List.mem_flatMap.1 hc
    refine ⟨isName_chart hstem (hslash r hr c hcr), fun ending hending => ?_⟩
    rw [hstem]
    exact fileName_ne_chart _ device props hending
  have hframes {ending : String} (hending : '-' ∉ ending.toList) :
      Frames ((cache request).fileName ending) (saved request tables provider d)
        (run request tables provider (.toFolder folder) d).directory := by
    rw [directory_run]
    exact frames_foldl_handOver folder (fun c hc => (hcharts hc).1)
      (fun c hc => (hcharts hc).2 ending hending)
      { directory := saved request tables provider d }
  have hsaved : (saved request tables provider d).IsFolder request.folder q :=
    keepsFolders_saved.isFolder hfolder
  exact ⟨(hframes (by decide)).text?_eq (Cache.isName_series _) hsaved,
    (hframes (by decide)).text?_eq (Cache.isName_watermark _) hsaved⟩

end Pass

end BenchTracker
