import BenchTracker.Proofs.Ingest.Paging

/-!
# The latest build of a pass

The latest build that a pass reports is a complete one among those it examined, and no complete one
is higher. A job that failed, has no log, has a log that cannot be fetched or read, or has no
measurement of the focus kernel keeps its build from being complete.
-/

namespace BenchTracker

namespace Ingest

variable {settings : Settings} {provider : Provider} {watermark : Nat}

/-- The job succeeded, and its log has measurements of the device, with the focus kernel among
them. -/
def Yields (settings : Settings) (provider : Provider) (build : UInt64) (job : Job)
    (device : String) : Prop :=
  job.exitStatus = some 0 ∧ ∃ url text xs x, job.logUrl = some url ∧
    provider.log url = .ok text ∧
    Log.read settings.aliases settings.chain (Log.unescape text.toList) = .measured device xs ∧
    aggregate settings.focus build xs = some x

theorem yields_iff {build : UInt64} {device : String} {job : Job} (step : String) :
    Yields settings provider build job device ↔
      job.succeeded = true ∧
        ∃ x, jobResult settings provider build step job = .produced device x := by
  simp only [Yields, Job.succeeded, decide_eq_true_eq, jobResult_eq_produced]
  refine and_congr_right fun _ => ?_
  constructor
  · rintro ⟨url, text, xs, x, h⟩
    exact ⟨x, url, text, xs, h⟩
  · rintro ⟨x, url, text, xs, h⟩
    exact ⟨url, text, xs, x, h⟩

/-- A build is complete if each of its jobs of a known step yields a sample of some device. -/
theorem complete_iff_yields {s : Store} {b : Build} :
    Complete settings provider s b ↔
      ∀ job ∈ b.jobs, ∀ step, job.name = some step → s.knows step = true →
        ∃ device, Yields settings provider b.number job device := by
  constructor
  · intro h job hjob step hname hknows
    obtain ⟨hsucc, hproduced⟩ := h (step, job) (mem_targeted.2 ⟨hjob, hname, hknows⟩)
    obtain ⟨device, x, hx⟩ := JobResult.isProduced_iff.1 hproduced
    exact ⟨device, (yields_iff step).2 ⟨hsucc, x, hx⟩⟩
  · rintro h ⟨step, job⟩ ht
    obtain ⟨hjob, hname, hknows⟩ := mem_targeted.1 ht
    obtain ⟨device, hyields⟩ := h job hjob step hname hknows
    obtain ⟨hsucc, x, hx⟩ := (yields_iff step).1 hyields
    exact ⟨hsucc, JobResult.isProduced_iff.2 ⟨device, x, hx⟩⟩

/-- What a job of an examined build yields is in the store after the pass. -/
theorem contains_run {s : Store} {b : Build} (hb : b ∈ examined provider watermark)
    {job : Job} {step device : String} (hjob : job ∈ b.jobs) (hname : job.name = some step)
    (hknows : s.knows step = true) (hyields : Yields settings provider b.number job device) :
    (run settings provider watermark s).store.contains step device b.number = true := by
  obtain ⟨hsucc, x, hx⟩ := (yields_iff step).1 hyields
  have hmem : (⟨step, device, x⟩ : Addition) ∈ additions settings provider s b :=
    mem_additions.2 ⟨job, mem_targeted.2 ⟨hjob, hname, hknows⟩, hsucc, hx⟩
  have hbuild : x.build = b.number := build_of_mem_additions hmem
  rw [store_run, ← hbuild]
  exact Store.contains_addAll (List.mem_flatMap.2 ⟨b, hb, hmem⟩)

/-- If there is a latest build, then it is an examined one, each of its jobs of a known step yields
a sample, and all these samples are in the store. No examined build of this kind is higher, where
it does not matter what is in the store. -/
theorem latest_run_sound_maximal (settings : Settings) (provider : Provider) (watermark : Nat)
    (s : Store) :
    let p := run settings provider watermark s
    (0 < p.report.latest → watermark < p.report.latest.toNat ∧
      ∃ b, Examined provider watermark b ∧ b.number = p.report.latest ∧
        ∀ job ∈ b.jobs, ∀ step, job.name = some step → s.knows step = true →
          ∃ device, Yields settings provider b.number job device ∧
            p.store.contains step device b.number = true) ∧
    ∀ b, Examined provider watermark b →
      (∀ job ∈ b.jobs, ∀ step, job.name = some step → s.knows step = true →
        ∃ device, Yields settings provider b.number job device) →
      b.number ≤ p.report.latest := by
  intro p
  constructor
  · intro hpos
    have hcases : p.report.latest = 0 ∨ ∃ b ∈ examined provider watermark,
        Complete settings provider s b ∧ p.report.latest = b.number := latest_run_cases s
    rcases hcases with h | h
    · exact absurd h (UInt64.ne_of_lt hpos).symm
    · obtain ⟨b, hb, hcomplete, hlatest⟩ := h
      refine ⟨hlatest ▸ lt_of_mem_examined hb, b, mem_examined_iff.1 hb, hlatest.symm, ?_⟩
      intro job hjob step hname hknows
      obtain ⟨device, hyields⟩ := complete_iff_yields.1 hcomplete job hjob step hname hknows
      exact ⟨device, hyields, contains_run hb hjob hname hknows hyields⟩
  · intro b hb hyields
    have hle := (latest_run_le_iff s p.report.latest.toNat).1 (Nat.le_refl _) b
      (mem_examined_iff.2 hb) (complete_iff_yields.2 hyields)
    exact UInt64.le_iff_toNat_le.2 hle

end Ingest

end BenchTracker
