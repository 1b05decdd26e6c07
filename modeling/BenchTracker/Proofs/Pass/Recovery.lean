import BenchTracker.Proofs.Cache.Stopping
import BenchTracker.Proofs.Pass.Repeated

/-!
# The pass after a save that stopped

Wherever the save of a pass stops, the next pass makes up for it. Either it starts from what the
first one started from, or the series that it loads are new already and the watermark is not. Then
it takes the same builds in once more, which adds nothing, and finds the same latest build.

This rests on two conditions. The doubles of the store must read back as they are, or the series
that are loaded differ from those that were gathered. And making the folder of the cache must bring
no file to light, or the next pass starts from a watermark that the first one could not see.
-/

namespace BenchTracker

namespace Pass

open Directory

variable {request : Request} {tables : Tables} {provider : Provider} {d d₁ d₂ : Directory}

/-- As long as the watermark is not replaced, the next pass ends with the same store and finds the
same latest build above the same watermark. -/
theorem ends_alike_of_leaves (hexplicit : request.params.watermark = 0)
    (hstart : (cache request).Startable d) (hsettled : (cache request).Settled d)
    (hkeeps : ∀ y ∈ (store request tables provider d).numbers, Keeps y)
    (hleaves : (cache request).LeavesWatermark d d₁)
    (hseries : Frames ((cache request).fileName ".json") d d₁ ∨
      d₁.read (cache request).seriesPath = .ok (store request tables provider d).toJson.pretty)
    (hleft : (cache request).SameFiles d₁ d₂) :
    store request tables provider d₂ = store request tables provider d ∧
      after request tables provider d₂ = after request tables provider d ∧
      (progress request tables provider d₂).report.latest =
        (progress request tables provider d).report.latest := by
  have hload := Cache.load_of_stops hstart hsettled hleaves
    (hseries.imp_right fun hread => Cache.readSeries_of_read hread hkeeps) tables.steps
  rw [← hexplicit] at hload
  obtain ⟨hwatermark, hstore⟩ := loaded_of_sameFiles tables hleft
  have hwatermark₂ : (loaded request tables d₂).watermark =
      (loaded request tables d).watermark := hwatermark.trans hload.1
  rcases hload.2 with hsame | hnew
  · have hstore₂ := hstore.trans hsame
    exact ⟨store_of_loaded hwatermark₂ hstore₂, after_of_loaded hwatermark₂ hstore₂,
      congrArg (·.report.latest) (progress_of_loaded hwatermark₂ hstore₂)⟩
  · have hstore₂ : (loaded request tables d₂).store = store request tables provider d :=
      (hstore.trans hnew).trans merge_store
    have hlatest : (progress request tables provider d₂).report.latest =
        (progress request tables provider d).report.latest := by
      rw [progress, hwatermark₂, hstore₂]
      exact Ingest.latest_run_left
    refine ⟨?_, ?_, hlatest⟩
    · rw [store, hwatermark₂, hstore₂]
      exact Ingest.left_left (Nat.le_refl _)
    · rw [after, after, Ingest.Report.nextWatermark, hlatest, hwatermark₂]
      rfl

/-- Wherever the save of a pass stops, the next pass ends with the two files as they would have been
without the stop, if nothing stops its own save. The first pass starts from a cache that loads or
has no watermark, and making its folder brings no file to light, as in `Cache.settled_of_isFolder`
and `Cache.settled_of_rooted`. All doubles of its store are finite and read back as they are. What
both passes do with charts must leave the files alone, as in `sameFiles_run_toFolder`. -/
theorem run_after_stop {sink : ChartSink} {first second : Result}
    (hfirst : first = run request tables provider sink d)
    (hexplicit : request.params.watermark = 0) (hstart : (cache request).Startable d)
    (hsettled : (cache request).Settled d)
    (hlatest : first.report.latest ≠ 0)
    (hsave : ((cache request).save d (store request tables provider d)
      (after request tables provider d)).2 = none)
    (hfinite : ∀ y ∈ (store request tables provider d).numbers, Double.isFinite y = true)
    (hreads : ∀ y ∈ (store request tables provider d).numbers,
      Double.isFinite y = true → Json.ReadsBack y)
    (hstops : Stops d ((cache request).saveSteps (store request tables provider d)
      (after request tables provider d)) d₁)
    (hleft : (cache request).SameFiles d₁ d₂)
    (hsecond : second = run request tables provider sink d₂)
    (hsave' : second.report.latest = 0 ∨
      ((cache request).save d₂ (store request tables provider d₂)
        (after request tables provider d₂)).2 = none)
    (hcharts : (cache request).SameFiles (saved request tables provider d) first.directory)
    (hcharts' : (cache request).SameFiles (saved request tables provider d₂) second.directory) :
    second.directory.text? (cache request).seriesPath =
        first.directory.text? (cache request).seriesPath ∧
      second.directory.text? (cache request).watermarkPath =
        first.directory.text? (cache request).watermarkPath := by
  subst hfirst hsecond
  have hkeeps := keeps_of_isFinite hfinite hreads
  have hlatest : (progress request tables provider d).report.latest ≠ 0 := hlatest
  have hsave' : (progress request tables provider d₂).report.latest = 0 ∨ _ := hsave'
  have hholds := Cache.holds_of_save hsave
  rw [← saved_of_latest_ne_zero hlatest] at hholds
  have hsaved : (cache request).SameFiles (saved request tables provider d)
      (saved request tables provider d₂) := by
    rcases Cache.stops_save_cases hstops with ⟨hleaves, hseries⟩ | hdone
    · obtain ⟨hstore, hafter, hlatest₂⟩ :=
        ends_alike_of_leaves hexplicit hstart hsettled hkeeps hleaves hseries hleft
      have hne : (progress request tables provider d₂).report.latest ≠ 0 := hlatest₂ ▸ hlatest
      have hholds₂ := Cache.holds_of_save (hsave'.resolve_left hne)
      rw [← saved_of_latest_ne_zero hne, hstore, hafter] at hholds₂
      exact hholds.sameFiles hholds₂
    · have hdone₂ := hleft.holds hdone
      obtain ⟨hseries, hwatermark⟩ := sameFiles_saved_of_holds hlatest hkeeps hdone₂
      exact (hholds.sameFiles hdone₂).trans ⟨hseries, hwatermark (.inl hexplicit)⟩
  have hend := hcharts.symm.trans (hsaved.trans hcharts')
  exact ⟨hend.series, hend.watermark⟩

/-- The series are new and the watermark is still 7. The second pass starts from 7 again. -/
theorem run_after_stop_between :
    let request : Request := { folder := "data", params := {} }
    let tables : Tables := { Tables.empty with steps := Store.empty.register "perf" }
    let provider := Ingest.ofPages [[⟨9, []⟩], [⟨8, [⟨some "perf", some 1, none⟩]⟩]]
      fun _ => .error .unreachable
    let d : Directory := ⟨[(["data"], .folder),
      (["buildkite-23x23x23.last", "data"], .file "7\n"),
      (["buildkite-23x23x23.json", "data"],
        .file "\x7b\"perf\":\x7b\"P100\":[[[1.5,2],[0.0,0],[0.0,0],2.5,7]]\x7d\x7d")], []⟩
    let steps := (cache request).saveSteps (store request tables provider d)
      (after request tables provider d)
    let stopped := (d.performAll (steps.take 3)).1
    let first := run request tables provider .discard d
    let second := run request tables provider .discard stopped
    second.directory.text? (cache request).seriesPath =
        first.directory.text? (cache request).seriesPath ∧
      second.directory.text? (cache request).watermarkPath =
        first.directory.text? (cache request).watermarkPath := by
  intro request tables provider d steps stopped first second
  have hstart : (cache request).Startable d := Cache.startable_of_isOk (by decide +kernel)
  have hfolder : d.IsFolder "data" ["data"] := ⟨by decide, by decide⟩
  have hlatest : first.report.latest ≠ 0 := by decide +kernel
  have hsave : ((cache request).save d (store request tables provider d)
      (after request tables provider d)).2 = none := by decide +kernel
  have hnumbers : (store request tables provider d).numbers = [1.5, 0.0, 0.0, 2.5] := by
    decide +kernel
  have hsave' : ((cache request).save stopped (store request tables provider stopped)
      (after request tables provider stopped)).2 = none := by decide +kernel
  have hsettled : (cache request).Settled d := Cache.settled_of_isFolder hfolder
  exact run_after_stop (rfl : first = _) rfl hstart hsettled hlatest hsave
    (by rw [hnumbers]; decide +kernel) (by rw [hnumbers]; decide +kernel) (stops_take d steps 3)
    (.refl _ _) (rfl : second = _) (.inr hsave') sameFiles_run_discard sameFiles_run_discard

/-- The tables bring a sample with 90.28571428571429 for the focus kernel, which is read back one
unit lower. The save stops behind its third step, where the series are new and the watermark is not.
So the next pass takes the sample from the file, and saves it lower than a pass without the stop. -/
theorem run_after_stop_inexact :
    let request : Request := { folder := "data", params := {} }
    let x : Sample := ⟨.none, ⟨1.0, 1⟩, .none, 90.28571428571429, 3⟩
    let tables : Tables := { Tables.empty with steps := Store.empty.append "perf" "P100" x }
    let provider := Ingest.ofPages [[⟨9, []⟩]] fun _ => .error .unreachable
    let d : Directory := ⟨[(["data"], .folder),
      (["buildkite-23x23x23.last", "data"], .file "7\n"),
      (["buildkite-23x23x23.json", "data"], .file "\x7b\x7d")], []⟩
    let steps := (cache request).saveSteps (store request tables provider d)
      (after request tables provider d)
    let stopped := (d.performAll (steps.take 3)).1
    let first := run request tables provider .discard d
    let second := run request tables provider .discard stopped
    ((cache request).stored d 0).isOk = true ∧ (d.performAll steps).2 = none ∧
      (store request tables provider d).numbers = [0.0, 1.0, 0.0, 90.28571428571429] ∧
      second.directory.text? (cache request).seriesPath ≠
        first.directory.text? (cache request).seriesPath := by
  decide +kernel

/-- The path of the cache goes up again from a folder that is missing, so that no watermark can be
read, and the first pass would save the watermark 9. Its save stops once that folder is made. The
next pass finds the watermark 20 and nothing new. -/
theorem run_after_stop_uncovered :
    let request : Request := { folder := "a/../data", params := {} }
    let provider := Ingest.ofPages [[⟨9, []⟩]] fun _ => .error .unreachable
    let d : Directory := ⟨[(["data"], .folder),
      (["buildkite-23x23x23.last", "data"], .file "20\n"),
      (["buildkite-23x23x23.json", "data"], .file "\x7b\x7d")], []⟩
    let steps := (cache request).saveSteps (store request .empty provider d)
      (after request .empty provider d)
    let stopped := (d.performAll (steps.take 1)).1
    let first := run request .empty provider .discard d
    let second := run request .empty provider .discard stopped
    d.read (cache request).watermarkPath = .error .notFound ∧
      (d.performAll steps).2 = none ∧
      first.directory.text? (cache request).watermarkPath = some "9\n" ∧
      second.directory.text? (cache request).watermarkPath = some "20\n" := by
  decide +kernel

end Pass

end BenchTracker
