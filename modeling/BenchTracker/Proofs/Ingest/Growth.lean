import BenchTracker.Proofs.Classification
import BenchTracker.Proofs.Ingest.Watermark

/-!
# What a pass adds

A pass only adds to a store. No step becomes known, and each series keeps its samples in front of
those that come in. What comes in was measured by a job of an examined build, on a device of the
alias table and with the focus kernel, and its series had nothing of this build before.
-/

namespace BenchTracker

/-- Only canonical names are resolved to. -/
theorem AliasTable.mem_canonicalNames_of_resolve? {aliases : AliasTable} {raw : List Char}
    {device : String} (h : aliases.resolve? raw = some device) :
    device ∈ aliases.canonicalNames := by
  obtain ⟨group, hfind, rfl⟩ := Option.map_eq_some_iff.1 h
  have hgroup : group ∈ aliases.groups := List.mem_reverse.1 (List.mem_of_find?_eq_some hfind)
  exact List.mem_map_of_mem hgroup

theorem Log.mem_canonicalNames_of_read {aliases : AliasTable} {chain : List DeviceLine}
    {log : List Char} {device : String} {xs : List Measurement}
    (h : Log.read aliases chain log = .measured device xs) : device ∈ aliases.canonicalNames := by
  unfold Log.read at h
  split at h
  · cases h
  · rename_i name hname
    obtain ⟨raw, -, hraw⟩ := Option.bind_eq_some_iff.1 hname
    have hdevice : name = device := by
      unfold Log.measure at h
      grind
    exact hdevice ▸ AliasTable.mem_canonicalNames_of_resolve? hraw

namespace Ingest

variable {settings : Settings} {provider : Provider} {watermark : Nat} {s : Store}
  {step device : String} {x : Sample}

/-- A job of an examined build measured the sample. Its log has the focus kernel, so at least one
kernel is counted, and only kernels with a positive value are. -/
structure Measured (settings : Settings) (provider : Provider) (watermark : Nat)
    (step device : String) (x : Sample) : Prop where
  source : ∃ b job url text xs, Examined provider watermark b ∧ b.number = x.build ∧
    job ∈ b.jobs ∧ job.name = some step ∧ job.exitStatus = some 0 ∧ job.logUrl = some url ∧
    provider.log url = .ok text ∧
    Log.read settings.aliases settings.chain (Log.unescape text.toList) = .measured device xs ∧
    (xs.length < UInt32.size →
      x.total = (positive xs).length ∧ ∃ bucket ∈ x.buckets, bucket.count ≠ 0)
  canonical : device ∈ settings.aliases.canonicalNames
  above : watermark < x.build.toNat
  zero_lt_focus : 0.0 < x.focus

theorem measured_of_mem_additions {b : Build} (hb : b ∈ examined provider watermark)
    (h : (⟨step, device, x⟩ : Addition) ∈ additions settings provider s b) :
    Measured settings provider watermark step device x := by
  obtain ⟨job, htargeted, hsucc, hresult⟩ := mem_additions.1 h
  obtain ⟨hjob, hname, -⟩ := mem_targeted.1 htargeted
  obtain ⟨url, text, xs, hurl, hlog, hread, hx⟩ := jobResult_eq_produced.1 hresult
  have hbuild : x.build = b.number := build_of_mem_additions h
  have hexit : job.exitStatus = some 0 := by simpa [Job.succeeded] using hsucc
  exact {
    source := ⟨b, job, url, text, xs, mem_examined_iff.1 hb, hbuild.symm, hjob, hname, hexit,
      hurl, hlog, hread, fun hlength =>
        ⟨total_of_aggregate hx hlength, exists_count_of_aggregate hx hlength⟩⟩
    canonical := Log.mem_canonicalNames_of_read hread
    above := hbuild ▸ lt_of_mem_examined hb
    zero_lt_focus := zero_lt_focus_of_aggregate hx }

/-- What comes into a series during a pass is put behind the samples that it has. -/
theorem samples_series_run (settings : Settings) (provider : Provider) (watermark : Nat)
    (s : Store) (step device : String) :
    ∃ added : List Sample,
      ((run settings provider watermark s).store.series step device).samples =
        (s.series step device).samples ++ added ∧
      ∀ x ∈ added, s.knows step = true ∧ s.contains step device x.build = false ∧
        Measured settings provider watermark step device x := by
  rw [store_run, Store.series_addAll]
  obtain ⟨added, hsamples, hadded⟩ := Series.samples_foldl_append_eq (s.series step device)
    (samplesFor ((examined provider watermark).flatMap (additions settings provider s))
      step device)
  refine ⟨added, hsamples, fun x hx => ?_⟩
  obtain ⟨hmem, habsent⟩ := hadded x hx
  obtain ⟨b, hb, hab⟩ := List.mem_flatMap.1 (mem_samplesFor.1 hmem)
  exact ⟨knows_of_mem_additions hab, Store.contains_series s step device x.build ▸ habsent,
    measured_of_mem_additions hb hab⟩

/-- No series is lost. -/
theorem series?_run {series : Series} (h : s.series? step device = some series) :
    (run settings provider watermark s).store.series? step device =
      some ((run settings provider watermark s).store.series step device) := by
  have hsome : ((run settings provider watermark s).store.series? step device).isSome := by
    rw [store_run, Store.isSome_series?_addAll]
    exact .inl (Option.isSome_of_eq_some h)
  obtain ⟨series', hseries'⟩ := Option.isSome_iff_exists.1 hsome
  rw [hseries', Store.series_eq_of_series? hseries']

/-- After a pass the same steps are known, each series starts with the samples that it had before,
and all others are new in their series, belong to a known step and were measured by a job of an
examined build. -/
theorem store_run_append_only (settings : Settings) (provider : Provider) (watermark : Nat)
    (s : Store) :
    let t := (run settings provider watermark s).store
    t.stepNames = s.stepNames ∧
    (∀ step device series, s.series? step device = some series →
      ∃ series', t.series? step device = some series' ∧ series.samples <+: series'.samples) ∧
    ∀ step device, ∃ added : List Sample,
      (t.series step device).samples = (s.series step device).samples ++ added ∧
      ∀ x ∈ added, s.knows step = true ∧ s.contains step device x.build = false ∧
        Measured settings provider watermark step device x := by
  intro t
  refine ⟨Store.stepNames_congr (knows_run settings provider watermark s),
    fun step device series hseries => ?_,
    samples_series_run settings provider watermark s⟩
  obtain ⟨added, hsamples, -⟩ := samples_series_run settings provider watermark s step device
  refine ⟨t.series step device, series?_run hseries, added, ?_⟩
  rw [hsamples, Store.series_eq_of_series? hseries]

end Ingest

end BenchTracker
