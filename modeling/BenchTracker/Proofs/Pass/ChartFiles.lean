import BenchTracker.Proofs.Pass.Charts
import BenchTracker.Proofs.Rollup.Stems

/-!
# The files of charts

Charts that are written into an empty folder one after the other leave one file for each stem, in
which the last chart with this stem is. So there are as many files as charts if and only if no two
charts have the same stem.
-/

namespace BenchTracker

variable {folder : String} {q : Place} {d d' : Directory} {c : Chart} {charts : List Chart}

/-- The places of a tree below one of them where something stands. -/
def Directory.below (d : Directory) (q : Place) : Set Place :=
  {place | q <:+ place ∧ place ≠ q ∧ d.at? place ≠ none}

theorem Directory.below_folder (hq : q ≠ []) (current : Place) :
    (⟨[(q, .folder)], current⟩ : Directory).below q = ∅ := by
  refine Set.eq_empty_of_forall_notMem fun place => ?_
  rintro ⟨hsuffix, hne, hsome⟩
  have hnil : place ≠ [] := by
    rintro rfl
    exact hq (List.suffix_nil.1 hsuffix)
  apply hsome
  rw [Directory.at?, if_neg hnil, Directory.lookup_cons, if_neg hne, List.lookup_nil]

namespace Chart

/-- The name of the chart's file. -/
def fileName (c : Chart) : String := c.stem ++ ".json"

/-- The chart's file. -/
def entry (c : Chart) : Entry := .file (c.toJson.pretty ++ "\n")

theorem fileName_eq_iff {c c' : Chart} : c.fileName = c'.fileName ↔ c.stem = c'.stem :=
  String.append_left_inj _

end Chart

/-! ## Stems with slashes -/

/-- A slash in a stem parts a name from what follows. -/
theorem exists_of_slash_mem {device props : String}
    (h : '/' ∈ (chartStem device props).toList) : ∃ first rest,
      Path.IsName first ∧ chartStem device props = first ++ "/" ++ rest := by
  have hfront : Path.IsName "buildkite-" := ⟨by decide, by decide, by decide, by decide⟩
  rw [toList_chartStem, List.mem_append] at h
  obtain ⟨a, b, hab, ha⟩ := List.eq_append_cons_of_mem (h.resolve_left (by decide))
  refine ⟨"buildkite-" ++ String.ofList a, String.ofList b, hfront.append (by simpa using ha), ?_⟩
  rw [← String.toList_inj, toList_chartStem, hab]
  simp

/-- Nothing is written behind a slash, for want of a folder. -/
theorem slash_not_mem_of_write {device props text : String}
    (hstem : c.stem = chartStem device props) (hq : d.IsFolder folder q)
    (hfile : ∀ name, d.at? (name :: q) ≠ some .folder)
    (h : d.write (ChartSink.chartPath folder c) text = .ok d') : '/' ∉ c.stem.toList := by
  intro hslash
  rw [hstem] at hslash
  obtain ⟨first, rest, hfirst, hsplit⟩ := exists_of_slash_mem hslash
  have hrest : Path.names (rest ++ ".json") ≠ [] :=
    Path.names_ne_nil (c := 'j') (by simp) (by decide) (by decide)
  rw [ChartSink.chartPath, hstem, hsplit, String.append_assoc] at h
  cases hplace : d.locate (Path.join folder (first ++ "/" ++ (rest ++ ".json"))) with
  | error fault => simp [Directory.write, hplace, bind, Except.bind] at h
  | ok place => exact hfile first (Directory.at?_of_locate_slash hfirst hrest hq hplace)

/-! ## Writing charts -/

/-- What stands in a folder once charts have been written into it: under each name the last chart
that has it, and nothing else. -/
structure Filed (folder : String) (q : Place) (charts : List Chart) (d : Directory) : Prop where
  folder : d.IsFolder folder q
  file : ∀ name,
    d.at? (name :: q) = (charts.filter fun c => c.fileName = name).getLast?.map Chart.entry
  deeper : ∀ name place, q <:+ place → place ≠ q → d.at? (name :: place) = none

namespace Filed

theorem nil (hfolder : d.IsFolder folder q) (hempty : d.below q = ∅) : Filed folder q [] d := by
  have hnone {name : String} {place : Place} (hplace : q <:+ place) :
      d.at? (name :: place) = none := by
    by_contra hsome
    have hmem : name :: place ∈ d.below q := by
      refine ⟨hplace.trans (List.suffix_cons name place), ?_, hsome⟩
      rintro rfl
      have hlength := hplace.length_le
      simp at hlength
    rw [hempty] at hmem
    exact hmem
  exact ⟨hfolder, fun name => hnone (List.suffix_refl q), fun name place hplace _ => hnone hplace⟩

theorem at?_ne_folder (h : Filed folder q charts d) (name : String) :
    d.at? (name :: q) ≠ some .folder := by
  rw [h.file]
  cases (charts.filter fun c => c.fileName = name).getLast? <;> simp [Chart.entry]

theorem write (h : Filed folder q charts d) {device props : String}
    (hstem : c.stem = chartStem device props)
    (hwrite : d.write (ChartSink.chartPath folder c) (c.toJson.pretty ++ "\n") = .ok d') :
    Filed folder q (charts ++ [c]) d' := by
  have hname : Path.IsName c.fileName :=
    isName_chart hstem (slash_not_mem_of_write hstem h.folder h.at?_ne_folder hwrite)
  obtain ⟨q', hq', -, hfile, rfl⟩ := Directory.write_join hname hwrite
  obtain rfl := h.folder.unique hq'
  refine ⟨(Directory.keepsFolders_set hfile _).isFolder h.folder, ?_, ?_⟩
  · intro name
    rw [Directory.at?_set, if_neg (List.cons_ne_nil _ _), List.filter_append, h.file]
    by_cases hsame : c.fileName = name
    · subst name
      simp [Chart.entry]
    · have hplace : name :: q ≠ c.fileName :: q := fun heq => hsame (List.cons.inj heq).1.symm
      rw [if_neg hplace, List.filter_cons_of_neg (by simpa using hsame), List.filter_nil,
        List.append_nil]
  · intro name place hsuffix hne
    have hplace : name :: place ≠ c.fileName :: q := fun heq => hne (List.cons.inj heq).2
    rw [Directory.at?_set_of_ne hplace]
    exact h.deeper name place hsuffix hne

/-! ## What is found there -/

theorem mem_below (h : Filed folder q charts d) {place : Place} :
    place ∈ d.below q ↔ ∃ c ∈ charts, place = c.fileName :: q := by
  constructor
  · rintro ⟨hsuffix, hne, hsome⟩
    cases place with
    | nil => exact absurd (List.suffix_nil.1 hsuffix).symm hne
    | cons name place =>
      have hsuffix := (List.suffix_cons_iff.1 hsuffix).resolve_left hne.symm
      obtain rfl : place = q := by
        by_contra hother
        exact hsome (h.deeper name place hsuffix hother)
      rw [h.file, Ne, Option.map_eq_none_iff, List.getLast?_eq_none_iff] at hsome
      obtain ⟨c, hc⟩ := List.exists_mem_of_ne_nil _ hsome
      obtain ⟨hmem, hname⟩ := List.mem_filter.1 hc
      exact ⟨c, hmem, by rw [of_decide_eq_true hname]⟩
  · rintro ⟨c, hc, rfl⟩
    refine ⟨List.suffix_cons _ _, fun heq => ?_, ?_⟩
    · have hlength := congrArg List.length heq
      simp at hlength
    · rw [h.file, Ne, Option.map_eq_none_iff, List.getLast?_eq_none_iff]
      exact List.ne_nil_of_mem (List.mem_filter.2 ⟨hc, by simp⟩)

/-- There are as many files as there are different stems. -/
theorem encard_below (h : Filed folder q charts d) :
    (d.below q).encard = (distinct (charts.map (·.stem))).length := by
  have himage : d.below q =
      (fun stem => (stem ++ ".json") :: q) '' {stem | stem ∈ charts.map (·.stem)} := by
    ext place
    rw [h.mem_below]
    constructor
    · rintro ⟨c, hc, rfl⟩
      exact ⟨c.stem, List.mem_map_of_mem hc, rfl⟩
    · rintro ⟨stem, hstem, rfl⟩
      obtain ⟨c, hc, rfl⟩ := List.mem_map.1 hstem
      exact ⟨c, hc, rfl⟩
  have hinj : Function.Injective fun stem : String => (stem ++ ".json") :: q := by
    intro stem stem' heq
    exact (String.append_left_inj _).1 (List.cons.inj heq).1
  rw [himage, hinj.encard_image, encard_setOf_mem]

/-- A chart is in its file unless another one with the same stem is written later. -/
theorem at?_fileName {front back : List Chart} (h : Filed folder q (front ++ c :: back) d)
    (hlast : c.stem ∉ back.map (·.stem)) : d.at? (c.fileName :: q) = some c.entry := by
  have hback : back.filter (fun c' => c'.fileName = c.fileName) = [] := by
    refine List.filter_eq_nil_iff.2 fun c' hc' hname => hlast ?_
    rw [← Chart.fileName_eq_iff.1 (of_decide_eq_true hname)]
    exact List.mem_map_of_mem hc'
  rw [h.file, List.filter_append, List.filter_cons_of_pos (by simp), hback]
  simp

theorem at?_of_nodup (h : Filed folder q charts d) (hnodup : (charts.map (·.stem)).Nodup)
    (hc : c ∈ charts) : d.at? (c.fileName :: q) = some c.entry := by
  obtain ⟨front, back, rfl⟩ := List.append_of_mem hc
  rw [List.map_append, List.map_cons] at hnodup
  have hlast : c.stem ∉ back.map (·.stem) := (List.nodup_cons.1 hnodup.of_append_right).1
  exact h.at?_fileName hlast

end Filed

/-! ## Handing charts over -/

namespace Pass

/-- A chart that is handed over is taken if all that is to be done with it succeeds. -/
theorem handOver_cases (sink : ChartSink) (h : Handover) (c : Chart) :
    (handOver sink h c).taken = h.taken ∨
      (handOver sink h c).taken = h.taken ++ [c] ∧ ∃ steps, sink c = some steps ∧
        h.directory.performAll steps = ((handOver sink h c).directory, none) := by
  unfold handOver
  split
  · exact .inl rfl
  · split
    · exact .inr ⟨rfl, _, ‹_›, ‹_›⟩
    · exact .inl rfl

theorem taken_sublist (sink : ChartSink) (charts : List Chart) (d : Directory) :
    (charts.foldl (handOver sink) { directory := d }).taken.Sublist charts := by
  induction charts using List.reverseRecOn with
  | nil => exact List.Sublist.refl []
  | append_singleton charts c ih =>
    rw [List.foldl_append, List.foldl_cons, List.foldl_nil]
    rcases handOver_cases sink (charts.foldl (handOver sink) { directory := d }) c with
      hsame | ⟨hmore, -⟩
    · rw [hsame]
      exact ih.trans (List.sublist_append_left charts [c])
    · rw [hmore]
      exact ih.append (List.Sublist.refl [c])

/-- In a folder that is there, no folder need be made for a chart. -/
theorem performAll_of_isFolder (hfolder : d.IsFolder folder q) (path text : String) :
    d.performAll [.makeFolders (ChartSink.folderToMake folder), .write path text] =
      d.perform (.write path text) := by
  have hmake : d.perform (.makeFolders (ChartSink.folderToMake folder)) = (d, none) :=
    ChartSink.makeFolders_folderToMake hfolder
  simp only [Directory.performAll, hmake]
  rcases d.perform (.write path text) with ⟨e, _ | fault⟩ <;> rfl

theorem taken_handOver_of_write {h : Handover} (hfolder : h.directory.IsFolder folder q)
    (hwrite : (h.directory.perform
      (.write (ChartSink.chartPath folder c) (c.toJson.pretty ++ "\n"))).2 = none) :
    (handOver (.toFolder folder) h c).taken = h.taken ++ [c] := by
  simp only [handOver, ChartSink.toFolder, performAll_of_isFolder hfolder]
  split
  · rfl
  · rename_i hfault
    rw [hfault] at hwrite
    cases hwrite

/-- Charts that are all taken are filed. -/
theorem filed_foldl_handOver (hfolder : d.IsFolder folder q) (hempty : d.below q = ∅)
    (hstems : ∀ c ∈ charts, ∃ device props, c.stem = chartStem device props)
    (htaken : (charts.foldl (handOver (.toFolder folder)) { directory := d }).taken = charts) :
    Filed folder q charts
      (charts.foldl (handOver (.toFolder folder)) { directory := d }).directory := by
  induction charts using List.reverseRecOn with
  | nil => exact .nil hfolder hempty
  | append_singleton charts c ih =>
    have hsublist := taken_sublist (.toFolder folder) charts d
    rw [List.foldl_append, List.foldl_cons, List.foldl_nil] at htaken ⊢
    rcases handOver_cases (.toFolder folder)
      (charts.foldl (handOver (.toFolder folder)) { directory := d }) c with
      hsame | ⟨hmore, steps, hsteps, hperform⟩
    · -- Too few charts would have been taken.
      have hlength := hsublist.length_le
      rw [← hsame, htaken, List.length_append, List.length_singleton] at hlength
      omega
    · rw [hmore, List.append_left_inj] at htaken
      have hfiled := ih (fun c' hc' => hstems c' (List.mem_append_left _ hc')) htaken
      obtain ⟨device, props, hstem⟩ := hstems c (List.mem_append_right _ List.mem_cons_self)
      obtain rfl := Option.some.inj hsteps
      rw [performAll_of_isFolder hfiled.folder] at hperform
      exact hfiled.write hstem (Directory.settle_eq_none.1 hperform)

/-- All charts are taken if their names can stand in a folder. -/
theorem taken_foldl_handOver (hfolder : d.IsFolder folder q) (hempty : d.below q = ∅)
    (hstems : ∀ c ∈ charts, ∃ device props, c.stem = chartStem device props)
    (hnames : ∀ c ∈ charts, '/' ∉ c.stem.toList ∧
      c.fileName.utf8ByteSize ≤ Directory.nameLimit) :
    (charts.foldl (handOver (.toFolder folder)) { directory := d }).taken = charts := by
  induction charts using List.reverseRecOn with
  | nil => rfl
  | append_singleton charts c ih =>
    simp only [List.forall_mem_append, List.forall_mem_singleton] at hstems hnames
    obtain ⟨hstems, device, props, hstem⟩ := hstems
    obtain ⟨hnames, hslash, hshort⟩ := hnames
    have htaken := ih hstems hnames
    have hfiled := filed_foldl_handOver hfolder hempty hstems htaken
    have hplace := (Directory.locate_join (isName_chart hstem hslash)).2
      ⟨q, hfiled.folder, hshort, rfl⟩
    have hperform := (Directory.perform_write_eq_none _ _ (c.toJson.pretty ++ "\n")).2
      ⟨_, Directory.look_of_locate hplace, hfiled.at?_ne_folder c.fileName⟩
    rw [List.foldl_append, List.foldl_cons, List.foldl_nil]
    rw [taken_handOver_of_write hfiled.folder hperform, htaken]

/-- So such charts are all filed. -/
theorem filed_of_names {h : Handover}
    (hrun : h = charts.foldl (handOver (.toFolder folder)) { directory := d })
    (hfolder : d.IsFolder folder q) (hempty : d.below q = ∅)
    (hstems : ∀ c ∈ charts, ∃ device props, c.stem = chartStem device props)
    (hnames : ∀ c ∈ charts, '/' ∉ c.stem.toList ∧
      c.fileName.utf8ByteSize ≤ Directory.nameLimit) :
    h.taken = charts ∧ Filed folder q charts h.directory := by
  subst h
  have htaken := taken_foldl_handOver hfolder hempty hstems hnames
  exact ⟨htaken, filed_foldl_handOver hfolder hempty hstems htaken⟩

/-- A chart has the lines of the steps of its device that have its stem. Each chart has a stem of
its own, and lines of steps with the same properties, if and only if no stem is shared among the
devices and steps at hand. Charts that are all written into an empty folder leave a file for each
stem there, with the last chart of this stem in it, and nothing else. These are as many files as
charts if no two charts have the same stem; otherwise they are fewer. So where no stem is shared,
each chart is in a file of its own. -/
theorem chartFiles_ofStore (p : Parameters) (intensity : Float) (peaks : PeakTable) (s : Store)
    (devices : List String) :
    let rollup := Rollup.ofStore p intensity peaks s devices
    let charts := rollup.devices.flatMap (·.charts)
    (∀ r ∈ rollup.devices, ∃ f : ChartFrame, f.device = r.device ∧ ∀ c ∈ r.charts,
      c.device = r.device ∧ c.summaryLines = (r.stepsOf c).map f.summaryLine ∧
        c.focusLines = (r.stepsOf c).map f.focusLine) ∧
      (rollup.OwnCharts ↔ Rollup.ToldApart peaks s devices) ∧
      ∀ (d : Directory) (folder : String) (q : Place), d.IsFolder folder q → d.below q = ∅ →
        let h := charts.foldl (handOver (.toFolder folder)) { directory := d }
        h.taken = charts →
          (∀ place, place ∈ h.directory.below q ↔ ∃ c ∈ charts, place = c.fileName :: q) ∧
          (∀ front c back, charts = front ++ c :: back → c.stem ∉ back.map (·.stem) →
            h.directory.at? (c.fileName :: q) = some c.entry) ∧
          (h.directory.below q).encard ≤ charts.length ∧
          ((h.directory.below q).encard = charts.length ↔ (charts.map (·.stem)).Nodup) ∧
          (Rollup.ToldApart peaks s devices →
            (h.directory.below q).encard = charts.length ∧
              ∀ c ∈ charts, h.directory.at? (c.fileName :: q) = some c.entry) := by
  intro rollup charts
  refine ⟨fun r hr => DeviceRollup.exists_frame_of_mem hr,
    ⟨Rollup.OwnCharts.toldApart, Rollup.ToldApart.ownCharts⟩, ?_⟩
  intro d folder q hfolder hempty h htaken
  have hfiled : Filed folder q charts h.directory :=
    filed_foldl_handOver hfolder hempty (fun c hc => exists_stem_of_mem_ofStore hc) htaken
  have hcount : (h.directory.below q).encard = charts.length ↔ (charts.map (·.stem)).Nodup := by
    rw [hfiled.encard_below, ← length_distinct_eq_iff, List.length_map, Nat.cast_inj]
  refine ⟨fun place => hfiled.mem_below, ?_, ?_, hcount, ?_⟩
  · intro front c back hcharts hlast
    exact (hcharts ▸ hfiled).at?_fileName hlast
  · rw [hfiled.encard_below, Nat.cast_le, ← List.length_map (f := fun c : Chart => c.stem)]
    exact length_distinct_le _
  · intro htold
    have hnodup : (charts.map (·.stem)).Nodup := htold.ownCharts.stem
    exact ⟨hcount.2 hnodup, fun c hc => hfiled.at?_of_nodup hnodup hc⟩

/-- Two devices and two steps whose names differ in more than the size of their letters. -/
theorem chartFiles_ofStore_plain :
    let series := Series.ofList [⟨⟨1.0, 1⟩, ⟨0.0, 0⟩, ⟨0.0, 0⟩, 1.0, 1⟩]
    let s : Store := ⟨.ofList [
      ("HIP SMM fp32", .ofList [("GPU1", series), ("GPU2", series)]),
      ("HIP SMM fp64", .ofList [("GPU1", series), ("GPU2", series)])]⟩
    let peaks : PeakTable := .ofList [("GPU1", ⟨1.0, 1.0⟩), ("GPU2", ⟨1.0, 1.0⟩)]
    let charts := (Rollup.ofStore {} 1.0 peaks s ["GPU1", "GPU2"]).devices.flatMap (·.charts)
    let d : Directory := ⟨[(["charts"], .folder)], []⟩
    let h := charts.foldl (handOver (.toFolder "charts")) { directory := d }
    charts.length = 4 ∧ h.taken = charts ∧
      (h.directory.below ["charts"]).encard = charts.length := by
  intro series s peaks charts d h
  have hlength : charts.length = 4 := by decide +kernel
  have hfolder : d.IsFolder "charts" ["charts"] := ⟨by rfl, by rfl⟩
  have hempty : d.below ["charts"] = ∅ := Directory.below_folder (by decide) []
  obtain ⟨htaken, -⟩ := filed_of_names (rfl : h = _) hfolder hempty
    (fun c hc => exists_stem_of_mem_ofStore hc) (by decide +kernel)
  obtain ⟨-, -, hfiles⟩ := chartFiles_ofStore {} 1.0 peaks s ["GPU1", "GPU2"]
  obtain ⟨-, -, -, hcount, -⟩ := hfiles d "charts" ["charts"] hfolder hempty htaken
  exact ⟨hlength, htaken, hcount.2 (by decide +kernel)⟩

/-- Two devices and two steps whose names differ in the size of their letters only. The charts of
the devices have the same stem, each of them has lines of steps with different properties, and the
second one is written over the first one. -/
theorem chartFiles_overwritten :
    let series := Series.ofList [⟨⟨1.0, 1⟩, ⟨0.0, 0⟩, ⟨0.0, 0⟩, 1.0, 1⟩]
    let s : Store := ⟨.ofList [
      ("OpenCL SMM FP64", .ofList [("GPU1", series), ("gpu1", series)]),
      ("OpenCL SMM fp64", .ofList [("GPU1", series), ("gpu1", series)])]⟩
    let peaks : PeakTable := .ofList [("GPU1", ⟨1.0, 1.0⟩), ("gpu1", ⟨1.0, 1.0⟩)]
    let r := Rollup.ofStore {} 1.0 peaks s ["GPU1", "gpu1"]
    let charts := r.devices.flatMap (·.charts)
    let d : Directory := ⟨[(["charts"], .folder)], []⟩
    let h := charts.foldl (handOver (.toFolder "charts")) { directory := d }
    charts.map (·.device) = ["GPU1", "gpu1"] ∧
      charts.map (·.stem) = ["buildkite-gpu1-fp64", "buildkite-gpu1-fp64"] ∧
      (∀ d ∈ r.devices, ∀ c ∈ d.charts,
        c.summaryLines.length = 2 ∧ (d.stepsOf c).map (·.caption.props) = ["FP64", "fp64"]) ∧
      h.taken = charts ∧ (h.directory.below ["charts"]).encard = 1 := by
  intro series s peaks r charts d h
  have hdevices : charts.map (·.device) = ["GPU1", "gpu1"] := by decide +kernel
  have hstems : charts.map (·.stem) = ["buildkite-gpu1-fp64", "buildkite-gpu1-fp64"] := by
    decide +kernel
  have hfolder : d.IsFolder "charts" ["charts"] := ⟨by rfl, by rfl⟩
  have hempty : d.below ["charts"] = ∅ := Directory.below_folder (by decide) []
  obtain ⟨htaken, hfiled⟩ := filed_of_names (rfl : h = _) hfolder hempty
    (fun c hc => exists_stem_of_mem_ofStore hc) (by decide +kernel)
  refine ⟨hdevices, hstems, by decide +kernel, htaken, ?_⟩
  rw [hfiled.encard_below, hstems]
  rfl

end Pass

end BenchTracker
