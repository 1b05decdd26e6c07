import BenchTracker.Pass
import BenchTracker.Proofs.Cache.Loading
import BenchTracker.Proofs.Ingest.Repeated

/-!
# The parts of a pass

What a pass loads, takes in, saves and hands over, each by itself.
-/

namespace BenchTracker

namespace Pass

variable (request : Request) (tables : Tables) (provider : Provider) (sink : ChartSink)
  (d : Directory)

def cache : Cache := ⟨request.folder, request.params.focus⟩

def settings : Ingest.Settings :=
  { aliases := AliasTable.ofTexts tables.devices, focus := request.params.focus }

def loaded : Cache.Loaded := (cache request).load d request.params.watermark tables.steps

/-- The builds taken in. -/
def progress : Ingest.Progress :=
  Ingest.run (settings request tables) provider (loaded request tables d).watermark
    (loaded request tables d).store

/-- The store that a pass ends with. -/
def store : Store :=
  Ingest.left (settings request tables) provider (loaded request tables d).watermark
    (loaded request tables d).store

/-- The watermark that a pass ends with. -/
def after : Nat :=
  (progress request tables provider d).report.nextWatermark (loaded request tables d).watermark

/-- The directory with the cache, before any chart is handed over. -/
def saved : Directory :=
  (persist (cache request) d (store request tables provider d)
    (progress request tables provider d).report (after request tables provider d)).1

/-- The charts of a store. -/
def rollup (s : Store) : Rollup :=
  .ofStore request.params request.params.intensity tables.peaks
    (s.inBand tables.peaks request.params.intensity request.params.band)
    (AliasTable.ofTexts tables.devices).canonicalNames

theorem rollup_run :
    (run request tables provider sink d).rollup =
      rollup request tables (store request tables provider d) := rfl

theorem directory_run :
    (run request tables provider sink d).directory =
      (((rollup request tables (store request tables provider d)).devices.flatMap
        (·.charts)).foldl (handOver sink)
          { directory := saved request tables provider d }).directory := rfl

variable {request tables provider d} {d' : Directory}

theorem saved_of_latest_eq_zero (h : (progress request tables provider d).report.latest = 0) :
    saved request tables provider d = d := by
  rw [saved, persist, if_pos h]

theorem saved_of_latest_ne_zero (h : (progress request tables provider d).report.latest ≠ 0) :
    saved request tables provider d =
      ((cache request).save d (store request tables provider d)
        (after request tables provider d)).1 := by
  rw [saved, persist, if_neg h]
  split <;> simp_all

/-- What is loaded decides what is taken in. -/
theorem progress_of_loaded
    (hwatermark : (loaded request tables d').watermark = (loaded request tables d).watermark)
    (hstore : (loaded request tables d').store = (loaded request tables d).store) :
    progress request tables provider d' = progress request tables provider d := by
  rw [progress, progress, hwatermark, hstore]

theorem store_of_loaded
    (hwatermark : (loaded request tables d').watermark = (loaded request tables d).watermark)
    (hstore : (loaded request tables d').store = (loaded request tables d).store) :
    store request tables provider d' = store request tables provider d := by
  rw [store, store, hwatermark, hstore]

theorem after_of_loaded
    (hwatermark : (loaded request tables d').watermark = (loaded request tables d).watermark)
    (hstore : (loaded request tables d').store = (loaded request tables d).store) :
    after request tables provider d' = after request tables provider d := by
  rw [after, after, progress_of_loaded hwatermark hstore, hwatermark]

/-- A latest build lies above the watermark that a pass starts from. -/
theorem lt_latest (h : (progress request tables provider d).report.latest ≠ 0) :
    (loaded request tables d).watermark <
      (progress request tables provider d).report.latest.toNat := by
  obtain ⟨b, hb, -, hlatest⟩ := (Ingest.latest_run_cases _).resolve_left h
  rw [progress, hlatest]
  exact Ingest.lt_of_mem_examined hb

theorem after_of_latest_ne_zero (h : (progress request tables provider d).report.latest ≠ 0) :
    after request tables provider d =
      (progress request tables provider d).report.latest.toNat :=
  Nat.max_eq_right (Nat.le_of_lt (lt_latest h))

theorem knows_store {step : String} (h : tables.steps.knows step = true) :
    (store request tables provider d).knows step = true := by
  rw [store, Ingest.knows_left]
  exact Cache.knows_load _ _ _ h

/-- The store of a pass hides the steps that were there before. -/
theorem merge_store : tables.steps.merge (store request tables provider d) =
    store request tables provider d :=
  Store.merge_eq_right fun _ => knows_store

end Pass

end BenchTracker
