import BenchTracker.Proofs.Cache.Stopping
import BenchTracker.Proofs.Ingest.Incremental
import BenchTracker.Proofs.Pass.Charts

/-!
# The watermark that a pass leaves

A pass that saves stores its latest build, which lies above the watermark that the pass started
from. So a watermark that can be read never gets lower, unless the pass was told to start from a
lower one.
-/

namespace BenchTracker

namespace Pass

variable {request : Request} {tables : Tables} {provider : Provider} {d : Directory}
  {p : Nat} {s : Store}

/-- Where the cache can be read, a pass starts from the explicit watermark, or else from the stored
one. -/
theorem watermark_loaded (tables : Tables) (hwatermark : (cache request).readWatermark d = .ok p)
    (hseries : (cache request).readSeries d = .ok s) :
    (loaded request tables d).watermark =
      if request.params.watermark = 0 then p else request.params.watermark := by
  by_cases hexplicit : request.params.watermark = 0
  · rw [loaded, hexplicit, if_pos rfl]
    rcases Nat.eq_zero_or_pos p with rfl | hpos
    · refine (Cache.load_eq_seed (fun w hw => ?_) tables.steps).1
      exact Except.ok.inj (hw.symm.trans hwatermark)
    · exact (Cache.load_of_readSeries hseries hpos (fun _ => hwatermark) tables.steps).1
  · rw [if_neg hexplicit]
    have hload := Cache.load_of_readSeries hseries Nat.one_pos
      (fun hzero => absurd hzero hexplicit) tables.steps
    rw [if_neg hexplicit] at hload
    exact hload.1

/-- What can be read afterwards is the old watermark or the latest build. -/
theorem readWatermark_saved (tables : Tables) (provider : Provider)
    (hwatermark : (cache request).readWatermark d = .ok p) :
    ∃ q, (cache request).readWatermark (saved request tables provider d) = .ok q ∧
      (q = p ∨ (loaded request tables d).watermark < q ∧
        q = (progress request tables provider d).report.latest.toNat) := by
  by_cases hlatest : (progress request tables provider d).report.latest = 0
  · rw [saved_of_latest_eq_zero hlatest]
    exact ⟨p, hwatermark, .inl rfl⟩
  · rw [saved_of_latest_ne_zero hlatest, after_of_latest_ne_zero hlatest]
    rcases Cache.readWatermark_of_save hwatermark _ _ with hold | hholds
    · exact ⟨p, hold, .inl rfl⟩
    · exact ⟨_, Cache.readWatermark_of_read hholds.watermark (UInt64.toNat_lt _),
        .inr ⟨lt_latest hlatest, rfl⟩⟩

/-- After a pass that could read its cache, the watermark can still be read, and it is not lower
than before if the pass started from it or from a higher one. Otherwise it may be the latest build
above the lower watermark that the pass was told. It does not matter whether the save came to its
end. The charts must leave the watermark file alone, as in `sameFiles_run_toFolder`. -/
theorem readWatermark_run {sink : ChartSink} {result : Result}
    (hresult : result = run request tables provider sink d)
    (hwatermark : (cache request).readWatermark d = .ok p)
    (hseries : (cache request).readSeries d = .ok s)
    (hcharts : result.directory.text? (cache request).watermarkPath =
      (saved request tables provider d).text? (cache request).watermarkPath) :
    ∃ q, (cache request).readWatermark result.directory = .ok q ∧
      (request.params.watermark = 0 ∨ p ≤ request.params.watermark → p ≤ q) ∧
      (q = p ∨ request.params.watermark < q ∧ q = result.report.latest.toNat) := by
  subst hresult
  obtain ⟨q, hq, hcases⟩ := readWatermark_saved tables provider hwatermark
  rw [watermark_loaded tables hwatermark hseries] at hcases
  refine ⟨q, Cache.readWatermark_of_text?_eq hcharts hq, fun hstart => ?_, ?_⟩
  · rcases hcases with rfl | ⟨hlt, -⟩
    · exact Nat.le_refl _
    · split at hlt
      · exact Nat.le_of_lt hlt
      · rename_i hexplicit
        exact Nat.le_of_lt (Nat.lt_of_le_of_lt (hstart.resolve_left hexplicit) hlt)
  · refine hcases.imp_right fun ⟨hlt, hlatest⟩ => ⟨?_, hlatest⟩
    split at hlt <;> omega

/-- The cache has the watermark 7 and the pass is told to start from 8, so it finds build 9. -/
theorem readWatermark_run_higher :
    let request : Request := { folder := "data", params := { watermark := 8 } }
    let provider := Ingest.ofPages [[⟨9, []⟩, ⟨8, []⟩]] fun _ => .error .unreachable
    let d : Directory := ⟨[(["data"], .folder), (["buildkite-23x23x23.last", "data"], .file "7\n"),
      (["buildkite-23x23x23.json", "data"], .file "\x7b\x7d")], []⟩
    let result := run request .empty provider .discard d
    ∃ q, (cache request).readWatermark result.directory = .ok q ∧ 7 ≤ q := by
  intro request provider d result
  have hwatermark : (cache request).readWatermark d = .ok 7 :=
    Cache.readWatermark_of_read (by decide +kernel) (by decide)
  have hseries : (cache request).readSeries d = .ok .empty :=
    Cache.readSeries_of_read (by decide +kernel) nofun
  obtain ⟨q, hq, hle, -⟩ := readWatermark_run (rfl : result = _) hwatermark hseries
    sameFiles_run_discard.watermark
  exact ⟨q, hq, hle (.inr (by decide))⟩

/-- The cache has the watermark 9 and the pass is told to start from 4. The job of build 9 failed
this time, so that build 5 is the latest one, and 5 takes the place of 9. -/
theorem readWatermark_run_lower :
    let request : Request := { folder := "data", params := { watermark := 4 } }
    let tables : Tables := { Tables.empty with steps := Store.empty.register "perf" }
    let provider := Ingest.ofPages [[⟨9, [⟨some "perf", some 1, none⟩]⟩, ⟨5, []⟩]]
      fun _ => .error .unreachable
    let d : Directory := ⟨[(["data"], .folder), (["buildkite-23x23x23.last", "data"], .file "9\n"),
      (["buildkite-23x23x23.json", "data"], .file "\x7b\x7d")], []⟩
    let result := run request tables provider .discard d
    (cache request).readWatermark d = .ok 9 ∧
      (cache request).readSeries d = .ok .empty ∧
      (cache request).readWatermark result.directory = .ok 5 := by
  refine ⟨?_, ?_, ?_⟩
  · exact Cache.readWatermark_of_read (by decide +kernel) (by decide)
  · exact Cache.readSeries_of_read (by decide +kernel) nofun
  · exact Cache.readWatermark_of_read (by decide +kernel) (by decide)

end Pass

end BenchTracker
