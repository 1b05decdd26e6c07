import BenchTracker.Proofs.Ingest.Incremental
import BenchTracker.Proofs.Pass.Charts

/-!
# The same pass once more

A second pass with the same provider starts from what the first one saved, or from the same as the
first one if nothing was saved. Either way it ends with the same store. It saves again only if an
explicit watermark lies below the latest build, and then it saves the same, unless builds that are
listed out of order hide the latest one.
-/

namespace BenchTracker

namespace Pass

variable {request : Request} {tables : Tables} {provider : Provider} {d d' : Directory}

/-! ## After a pass that saved nothing -/

theorem loaded_of_sameFiles (tables : Tables) (h : (cache request).SameFiles d d') :
    (loaded request tables d').watermark = (loaded request tables d).watermark ∧
      (loaded request tables d').store = (loaded request tables d).store :=
  h.load_eq _ _

theorem progress_of_sameFiles (h : (cache request).SameFiles d d') :
    progress request tables provider d' = progress request tables provider d :=
  progress_of_loaded (loaded_of_sameFiles tables h).1 (loaded_of_sameFiles tables h).2

theorem store_of_sameFiles (h : (cache request).SameFiles d d') :
    store request tables provider d' = store request tables provider d :=
  store_of_loaded (loaded_of_sameFiles tables h).1 (loaded_of_sameFiles tables h).2

/-! ## After a pass that saved -/

theorem after_lt (h : request.params.watermark = 0) :
    after request tables provider d < Numeral.limit64 := by
  have hlatest : (progress request tables provider d).report.latest.toNat < Numeral.limit64 :=
    UInt64.toNat_lt _
  have hstart : (loaded request tables d).watermark < Numeral.limit64 := by
    rcases Cache.load_cases (cache request) d request.params.watermark tables.steps with
      ⟨hzero, -⟩ | ⟨s, -, -, hread, -⟩
    · rw [loaded, hzero]
      decide
    · exact Cache.readWatermark_lt (hread h)
  exact Nat.max_lt.2 ⟨hstart, hlatest⟩

/-- The pass after one that saved starts from the store that was saved. -/
theorem loaded_of_holds (hlatest : (progress request tables provider d).report.latest ≠ 0)
    (hkeeps : ∀ y ∈ (store request tables provider d).numbers, Keeps y)
    (hholds : (cache request).Holds d' (store request tables provider d)
      (after request tables provider d)) :
    (loaded request tables d').watermark =
        (if request.params.watermark = 0 then after request tables provider d
          else request.params.watermark) ∧
      (loaded request tables d').store = store request tables provider d := by
  have hpos : 0 < after request tables provider d := by
    have hne : (progress request tables provider d).report.latest.toNat ≠ 0 := fun h =>
      hlatest (UInt64.toNat_inj.1 h)
    simp only [after, Ingest.Report.nextWatermark]
    omega
  have hload := Cache.load_of_readSeries (Cache.readSeries_of_read hholds.series hkeeps) hpos
    (fun hzero => Cache.readWatermark_of_read hholds.watermark (after_lt hzero)) tables.steps
  rwa [merge_store] at hload

theorem loaded_le_of_holds (hlatest : (progress request tables provider d).report.latest ≠ 0)
    (hkeeps : ∀ y ∈ (store request tables provider d).numbers, Keeps y)
    (hholds : (cache request).Holds d' (store request tables provider d)
      (after request tables provider d)) :
    (loaded request tables d).watermark ≤ (loaded request tables d').watermark := by
  rw [(loaded_of_holds hlatest hkeeps hholds).1]
  rcases Cache.load_cases (cache request) d request.params.watermark tables.steps with
    ⟨hzero, -⟩ | ⟨s, -, -, -, hexplicit⟩
  · rw [loaded, hzero]
    exact Nat.zero_le _
  · split
    · exact Nat.le_max_left _ _
    · exact Nat.le_of_eq (hexplicit ‹_›)

theorem store_of_holds (hlatest : (progress request tables provider d).report.latest ≠ 0)
    (hkeeps : ∀ y ∈ (store request tables provider d).numbers, Keeps y)
    (hholds : (cache request).Holds d' (store request tables provider d)
      (after request tables provider d)) :
    store request tables provider d' = store request tables provider d := by
  have hle := loaded_le_of_holds hlatest hkeeps hholds
  rw [store, (loaded_of_holds hlatest hkeeps hholds).2]
  exact Ingest.left_left hle

/-- The latest builds are listed first where a pass depends on it: with an explicit watermark and
series that cannot be read. -/
def OrderedIfNeeded (request : Request) (provider : Provider) (d : Directory) : Prop :=
  request.params.watermark = 0 ∨ (∃ s, (cache request).readSeries d = .ok s) ∨
    (Ingest.listing provider).Pairwise fun a b => b.number ≤ a.number

/-- If the second pass saves, then the same watermark. -/
theorem after_of_holds (hlatest : (progress request tables provider d).report.latest ≠ 0)
    (hkeeps : ∀ y ∈ (store request tables provider d).numbers, Keeps y)
    (hholds : (cache request).Holds d' (store request tables provider d)
      (after request tables provider d))
    (hordered : OrderedIfNeeded request provider d)
    (hlatest' : (progress request tables provider d').report.latest ≠ 0) :
    after request tables provider d' = after request tables provider d := by
  have hle := loaded_le_of_holds hlatest hkeeps hholds
  obtain ⟨hwatermark, hstore⟩ := loaded_of_holds hlatest hkeeps hholds
  have hstart : (loaded request tables d).watermark = (loaded request tables d').watermark ∨
      (progress request tables provider d).report.latest.toNat ≤
        (loaded request tables d').watermark ∨
      (Ingest.listing provider).Pairwise fun a b => b.number ≤ a.number := by
    by_cases hexplicit : request.params.watermark = 0
    · rw [hwatermark, if_pos hexplicit]
      exact .inr (.inl (Nat.le_max_right _ _))
    · rcases hordered with hzero | ⟨s, hs⟩ | hlisting
      · exact absurd hzero hexplicit
      · have hload := Cache.load_of_readSeries hs Nat.one_pos
          (fun hzero => absurd hzero hexplicit) tables.steps
        rw [if_neg hexplicit] at hload
        rw [hwatermark, if_neg hexplicit]
        exact .inl hload.1
      · exact .inr (.inr hlisting)
  rw [progress, hstore] at hlatest'
  simp only [after, progress, hstore]
  exact Ingest.nextWatermark_left hle hstart hlatest'

theorem sameFiles_saved_of_holds
    (hlatest : (progress request tables provider d).report.latest ≠ 0)
    (hkeeps : ∀ y ∈ (store request tables provider d).numbers, Keeps y)
    (hholds : (cache request).Holds d' (store request tables provider d)
      (after request tables provider d)) :
    (saved request tables provider d').text? (cache request).seriesPath =
        d'.text? (cache request).seriesPath ∧
      (OrderedIfNeeded request provider d →
        (saved request tables provider d').text? (cache request).watermarkPath =
          d'.text? (cache request).watermarkPath) := by
  by_cases hlatest' : (progress request tables provider d').report.latest = 0
  · rw [saved_of_latest_eq_zero hlatest']
    exact ⟨rfl, fun _ => rfl⟩
  · have hstore := store_of_holds hlatest hkeeps hholds
    rw [saved_of_latest_ne_zero hlatest', hstore]
    refine ⟨?_, fun hordered => ?_⟩
    · rw [Directory.text?_eq_some.2 hholds.series, Directory.text?_eq_some]
      exact Cache.read_series_of_save rfl (.inr hholds.series)
    · rw [after_of_holds hlatest hkeeps hholds hordered hlatest',
        Directory.text?_eq_some.2 hholds.watermark, Directory.text?_eq_some]
      exact Cache.read_watermark_of_save rfl (.inr hholds.watermark)

/-! ## Any pass -/

/-- A second pass ends with the same store and rollup, and with the same series file. The watermark
file is the same too, unless builds that are listed out of order hide the latest one from a pass
that has to go by an explicit watermark. The first pass must have saved its store if it was to save
one, and what comes of the charts must leave the two files alone, as in `sameFiles_run_toFolder`. -/
theorem run_run {sink : ChartSink} {first second : Result}
    (hfirst : first = run request tables provider sink d)
    (hsecond : second = run request tables provider sink first.directory)
    (hsave : (progress request tables provider d).report.latest = 0 ∨
      ((cache request).save d (store request tables provider d)
        (after request tables provider d)).2 = none)
    (hfinite : ∀ y ∈ (store request tables provider d).numbers, Double.isFinite y = true)
    (hreads : ∀ y ∈ (store request tables provider d).numbers,
      Double.isFinite y = true → Json.ReadsBack y)
    (hcharts : (cache request).SameFiles (saved request tables provider d) first.directory)
    (hcharts' : (cache request).SameFiles (saved request tables provider first.directory)
      second.directory) :
    store request tables provider first.directory = store request tables provider d ∧
      second.rollup = first.rollup ∧
      second.directory.text? (cache request).seriesPath =
        first.directory.text? (cache request).seriesPath ∧
      (OrderedIfNeeded request provider d →
        second.directory.text? (cache request).watermarkPath =
          first.directory.text? (cache request).watermarkPath) := by
  have hkeeps := keeps_of_isFinite hfinite hreads
  have hparts : store request tables provider first.directory = store request tables provider d ∧
      (saved request tables provider first.directory).text? (cache request).seriesPath =
        first.directory.text? (cache request).seriesPath ∧
      (OrderedIfNeeded request provider d →
        (saved request tables provider first.directory).text? (cache request).watermarkPath =
          first.directory.text? (cache request).watermarkPath) := by
    by_cases hlatest : (progress request tables provider d).report.latest = 0
    · rw [saved_of_latest_eq_zero hlatest] at hcharts
      have hlatest' : (progress request tables provider first.directory).report.latest = 0 := by
        rw [progress_of_sameFiles hcharts, hlatest]
      rw [saved_of_latest_eq_zero hlatest']
      exact ⟨store_of_sameFiles hcharts, rfl, fun _ => rfl⟩
    · have hholds := Cache.holds_of_save (hsave.resolve_left hlatest)
      rw [← saved_of_latest_ne_zero hlatest] at hholds
      have hholds' := hcharts.holds hholds
      exact ⟨store_of_holds hlatest hkeeps hholds',
        sameFiles_saved_of_holds hlatest hkeeps hholds'⟩
  obtain ⟨hstore, hseries, hwatermark⟩ := hparts
  refine ⟨hstore, ?_, hcharts'.series.trans hseries, fun hordered => ?_⟩
  · rw [hsecond, rollup_run, hstore, hfirst, rollup_run]
  · exact hcharts'.watermark.trans (hwatermark hordered)

/-- What was stored up to build 7 is loaded, and saved together with the watermark 9. The job of
build 8 failed and gives nothing. -/
theorem run_run_stored :
    let request : Request := { folder := "data", params := {} }
    let tables : Tables := { Tables.empty with steps := Store.empty.register "perf" }
    let provider := Ingest.ofPages [[⟨9, []⟩], [⟨8, [⟨some "perf", some 1, none⟩]⟩]]
      fun _ => .error .unreachable
    let d : Directory := ⟨[(["data"], .folder),
      (["buildkite-23x23x23.last", "data"], .file "7\n"),
      (["buildkite-23x23x23.json", "data"],
        .file "\x7b\"perf\":\x7b\"P100\":[[[1.5,2],[0.0,0],[0.0,0],2.5,7]]\x7d\x7d")], []⟩
    let first := run request tables provider .discard d
    let second := run request tables provider .discard first.directory
    store request tables provider first.directory = store request tables provider d ∧
      second.rollup = first.rollup ∧
      second.directory.text? (cache request).seriesPath =
        first.directory.text? (cache request).seriesPath ∧
      second.directory.text? (cache request).watermarkPath =
        first.directory.text? (cache request).watermarkPath := by
  intro request tables provider d first second
  have hsave : ((cache request).save d (store request tables provider d)
      (after request tables provider d)).2 = none := by decide +kernel
  have hnumbers : (store request tables provider d).numbers = [1.5, 0.0, 0.0, 2.5] := by
    decide +kernel
  have hordered : OrderedIfNeeded request provider d := .inl rfl
  obtain ⟨hstore, hrollup, hseries, hwatermark⟩ := run_run (rfl : first = _) (rfl : second = _)
    (.inr hsave) (by rw [hnumbers]; decide +kernel) (by rw [hnumbers]; decide +kernel)
    sameFiles_run_discard sameFiles_run_discard
  exact ⟨hstore, hrollup, hseries, hwatermark hordered⟩

/-- The listing puts build 9 behind build 3. The first pass cannot read any series, looks at all
builds and saves the watermark 9. The second one starts from 4, stops at build 3 and saves 5. -/
theorem run_run_out_of_order :
    let request : Request := { folder := "", params := { watermark := 4 } }
    let provider := Ingest.ofPages [[⟨5, []⟩, ⟨3, []⟩, ⟨9, []⟩]] fun _ => .error .unreachable
    let first := run request .empty provider .discard .empty
    let second := run request .empty provider .discard first.directory
    ((cache request).save .empty (store request .empty provider .empty)
      (after request .empty provider .empty)).2 = none ∧
    (store request .empty provider .empty).numbers = [] ∧
    first.directory.text? (cache request).watermarkPath = some "9\n" ∧
    second.directory.text? (cache request).watermarkPath = some "5\n" := by
  decide +kernel

end Pass

end BenchTracker
