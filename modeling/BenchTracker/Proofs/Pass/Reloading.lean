import BenchTracker.Proofs.Ingest.Incremental
import BenchTracker.Proofs.Pass.Charts
import BenchTracker.Proofs.Store.RoundTrip

/-!
# Loading what a pass has saved

A pass that saves its cache can be followed by one that loads it. What is loaded are the series with
what is read for their doubles. That need not be the same doubles; and if nothing is read for one of
them, then the cache is written but cannot be read, and all builds are asked for again. So it is if
a log has an infinite throughput, or values so high that rounding their mean overflows.
-/

namespace BenchTracker

namespace Cache

variable {c : Cache} {d : Directory} {s t : Store} {watermark : Nat}

/-- The watermark of a cache is loaded, and the series as they are read. -/
theorem load_of_reread (h : c.Holds d s watermark) (hpos : 0 < watermark)
    (hlimit : watermark < Numeral.limit64) (hreread : s.reread = some t) (seed : Store) :
    (c.load d 0 seed).watermark = watermark ∧ (c.load d 0 seed).store = seed.merge t := by
  have hseries : c.readSeries d = .ok t :=
    toOption_eq_some.1 ((toOption_readSeries_of_read h.series).trans hreread)
  exact load_of_readSeries hseries hpos (fun _ => readWatermark_of_read h.watermark hlimit) seed

/-- If the series cannot be read, nothing is loaded. -/
theorem load_of_reread_eq_none (h : c.Holds d s watermark) (hreread : s.reread = none)
    (seed : Store) : (c.load d 0 seed).watermark = 0 ∧ (c.load d 0 seed).store = seed := by
  rcases load_cases c d 0 seed with hnone | ⟨t, ht, -⟩
  · exact hnone
  · have hread := toOption_readSeries_of_read h.series
    rw [ht, hreread] at hread
    cases hread

end Cache

namespace Pass

variable {request : Request} {tables : Tables} {provider : Provider} {d : Directory}

/-- What a pass has saved is loaded again, with the watermark that was saved and the series of all
steps, exactly if each double of its store reads back as itself. Nothing is loaded exactly if
nothing is read for one of them, as for one that is not finite. The charts must leave the two files
alone, as in `sameFiles_run_toFolder`. -/
theorem load_run {sink : ChartSink} {result : Result}
    (hresult : result = run request tables provider sink d) (hlatest : result.report.latest ≠ 0)
    (hsave : ((cache request).save d (store request tables provider d)
      (after request tables provider d)).2 = none)
    (hcharts : (cache request).SameFiles (saved request tables provider d) result.directory)
    (seed : Store) :
    let loaded := (cache request).load result.directory 0 seed
    let stored := store request tables provider d
    0 < result.after ∧
      ((loaded.watermark = result.after ∧ ∀ step, stored.knows step = true →
          loaded.store.steps.get? step = stored.steps.get? step) ↔
        ∀ y ∈ stored.numbers, Json.ReadsBack y) ∧
      ((loaded.watermark = 0 ∧ loaded.store = seed) ↔
        ∃ y ∈ stored.numbers, Json.reread y = none) ∧
      ((∃ y ∈ stored.numbers, Double.isFinite y = false) →
        loaded.watermark = 0 ∧ loaded.store = seed) := by
  intro loaded stored
  have hlatest : (progress request tables provider d).report.latest ≠ 0 := by
    subst hresult
    exact hlatest
  have hafter : result.after = after request tables provider d := by
    subst hresult
    rfl
  have hholds := Cache.holds_of_save hsave
  rw [← saved_of_latest_ne_zero hlatest] at hholds
  have hholds : (cache request).Holds result.directory stored (after request tables provider d) :=
    hcharts.holds hholds
  have hpos : 0 < after request tables provider d := by
    rw [after_of_latest_ne_zero hlatest]
    exact Nat.zero_lt_of_lt (lt_latest hlatest)
  have hlimit : after request tables provider d < Numeral.limit64 := by
    rw [after_of_latest_ne_zero hlatest]
    exact UInt64.toNat_lt _
  have hnothing (hnone : stored.reread = none) : loaded.watermark = 0 ∧ loaded.store = seed :=
    Cache.load_of_reread_eq_none hholds hnone seed
  have hsomething {t : Store} (ht : stored.reread = some t) :
      loaded.watermark = result.after ∧ loaded.store = seed.merge t := by
    rw [hafter]
    exact Cache.load_of_reread hholds hpos hlimit ht seed
  refine ⟨hafter ▸ hpos, ?_, ?_, fun ⟨y, hy, hinfinite⟩ => hnothing ?_⟩
  · simp only [Json.readsBack_iff, ← Store.reread_eq_self]
    constructor
    · rintro ⟨hwatermark, hsteps⟩
      obtain ⟨t, ht⟩ : ∃ t, stored.reread = some t := by
        refine Option.ne_none_iff_exists'.1 fun hnone => ?_
        rw [(hnothing hnone).1, hafter] at hwatermark
        exact Nat.ne_of_lt hpos hwatermark
      rw [(hsomething ht).2] at hsteps
      rw [ht, Store.eq_of_merge (Store.knows_of_reread ht) hsteps]
    · intro hself
      refine ⟨(hsomething hself).1, fun step hknows => ?_⟩
      rw [(hsomething hself).2, Store.get?_merge_of_knows hknows]
  · rw [← Store.reread_eq_none]
    refine ⟨fun ⟨hzero, _⟩ => ?_, hnothing⟩
    by_contra hsome
    obtain ⟨t, ht⟩ := Option.ne_none_iff_exists'.1 hsome
    rw [(hsomething ht).1, hafter] at hzero
    exact Nat.ne_of_gt hpos hzero
  · exact Store.reread_eq_none.2 ⟨y, hy, Json.reread_eq_none hinfinite⟩

/-- What was stored up to build 7 is saved together with the watermark 9, and loaded again. -/
theorem load_run_finite :
    let request : Request := { folder := "data", params := {} }
    let tables : Tables := { Tables.empty with steps := Store.empty.register "perf" }
    let provider := Ingest.ofPages [[⟨9, []⟩]] fun _ => .error .unreachable
    let d : Directory := ⟨[(["data"], .folder),
      (["buildkite-23x23x23.last", "data"], .file "7\n"),
      (["buildkite-23x23x23.json", "data"],
        .file "\x7b\"perf\":\x7b\"P100\":[[[1.5,2],[0.0,0],[0.0,0],2.5,7]]\x7d\x7d")], []⟩
    let result := run request tables provider .discard d
    let loaded := (cache request).load result.directory 0 .empty
    loaded.watermark = result.after ∧
      ∀ step, (store request tables provider d).knows step = true →
        loaded.store.steps.get? step = (store request tables provider d).steps.get? step := by
  intro request tables provider d result
  have hlatest : result.report.latest ≠ 0 := by decide +kernel
  have hsave : ((cache request).save d (store request tables provider d)
      (after request tables provider d)).2 = none := by decide +kernel
  have hnumbers : (store request tables provider d).numbers = [1.5, 0.0, 0.0, 2.5] := by
    decide +kernel
  have hreads : ∀ y ∈ (store request tables provider d).numbers, Json.ReadsBack y := by
    rw [hnumbers]
    decide +kernel
  exact (load_run (rfl : result = _) hlatest hsave sameFiles_run_discard .empty).2.1.2 hreads

/-- The log of build 5 has an infinite throughput. The cache is saved with the watermark 5, and the
next pass starts from 0. -/
theorem load_run_infinite :
    let request : Request := { folder := "", params := { focus := ⟨4, 4, 4⟩ } }
    let tables : Tables :=
      { Tables.empty with devices := [["4090"]], steps := Store.empty.register "perf" }
    let provider := Ingest.ofPages [[⟨5, [⟨some "perf", some 0, some "log"⟩]⟩]] fun _ =>
      .ok "hostname: 4090\nacc_bench_smm 1 1 4 4 4 1 1\ndevice: 1 ms inf GFLOPS/s"
    let result := run request tables provider .discard .empty
    ((cache request).save .empty (store request tables provider .empty)
        (after request tables provider .empty)).2 = none ∧
      result.after = 5 ∧
      ((cache request).load result.directory 0 tables.steps).watermark = 0 := by
  decide +kernel

/-- The tables bring a sample with 90.28571428571429 for the focus kernel, which is read back one
unit lower. The cache is saved with the watermark 9, and loaded with it, but not with this
double. -/
theorem load_run_inexact :
    let request : Request := { folder := "", params := {} }
    let x : Sample := ⟨.none, ⟨1.0, 1⟩, .none, 90.28571428571429, 3⟩
    let tables : Tables := { Tables.empty with steps := Store.empty.append "perf" "P100" x }
    let provider := Ingest.ofPages [[⟨9, []⟩]] fun _ => .error .unreachable
    let result := run request tables provider .discard .empty
    let loaded := (cache request).load result.directory 0 tables.steps
    ((cache request).save .empty (store request tables provider .empty)
        (after request tables provider .empty)).2 = none ∧
      result.after = 9 ∧ loaded.watermark = 9 ∧
      ((store request tables provider .empty).sample? "perf" "P100" 3).map Sample.focus =
        some 90.28571428571429 ∧
      (loaded.store.sample? "perf" "P100" 3).map Sample.focus = some 90.28571428571428 := by
  decide +kernel

end Pass

end BenchTracker
