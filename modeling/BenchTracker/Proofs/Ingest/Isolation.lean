import BenchTracker.Proofs.Ingest.Accounting
import BenchTracker.Proofs.Ingest.Incremental

/-!
# One log at fault

Two providers with the same pages, whose logs differ at one address only, lead to passes that ask
for the same. Whatever the two logs are, they decide at most about samples of the builds and steps
that have a job with this log. All other samples are the same, in the same order.
-/

namespace BenchTracker

namespace Ingest

variable {settings : Settings} {watermark : Nat} {s : Store} {p q : Provider} {url : String}

/-- The pages are the same, and so are the logs at all other addresses. -/
structure AgreeExcept (url : String) (p q : Provider) : Prop where
  page : p.page = q.page
  log : ∀ other, other ≠ url → p.log other = q.log other

/-! ## What the pages decide -/

theorem listingFrom_of_page (h : p.page = q.page) (fuel number : Nat) :
    listingFrom p fuel number = listingFrom q fuel number := by
  induction fuel generalizing number with
  | zero => rfl
  | succ fuel ih => simp only [listingFrom, h, ih]

theorem examined_of_page (h : p.page = q.page) (watermark : Nat) :
    examined p watermark = examined q watermark := by
  rw [examined, examined, listing, listing, listingFrom_of_page h]

theorem asked_of_page (h : p.page = q.page) (fuel number : Nat) :
    asked p watermark fuel number = asked q watermark fuel number := by
  induction fuel generalizing number with
  | zero => rfl
  | succ fuel ih =>
    have hgoes : GoesOn p watermark number ↔ GoesOn q watermark number := by
      rw [GoesOn, GoesOn, h]
    simp only [asked, hgoes, ih]

theorem Account.ofPages_of_page (h : p.page = q.page) (numbers : List Nat) :
    ofPages p watermark s numbers = ofPages q watermark s numbers := by
  have hpage : ofPage p watermark s = ofPage q watermark s := by
    funext number
    rw [ofPage, ofPage, taken, taken, failure?, failure?, h]
  rw [ofPages, ofPages, hpage]

/-! ## What a log decides -/

theorem jobResult_of_agreeExcept (h : AgreeExcept url p q) {job : Job}
    (hurl : job.logUrl ≠ some url) (build : UInt64) (step : String) :
    jobResult settings p build step job = jobResult settings q build step job := by
  unfold jobResult
  cases hlog : job.logUrl with
  | none => rfl
  | some other =>
    have hother : other ≠ url := fun heq => hurl (heq ▸ hlog)
    simp only [h.log other hother]

/-- The log at the address belongs to a successful job of this step in an examined build of this
number. -/
def Touched (provider : Provider) (watermark : Nat) (s : Store) (url step : String)
    (build : UInt64) : Prop :=
  ∃ b, Examined provider watermark b ∧ b.number = build ∧ ∃ job ∈ b.jobs,
    job.name = some step ∧ s.knows step = true ∧ job.exitStatus = some 0 ∧ job.logUrl = some url

instance (provider : Provider) (watermark : Nat) (s : Store) (url step : String)
    (build : UInt64) : Decidable (Touched provider watermark s url step build) :=
  decidable_of_iff
    (∃ b ∈ examined provider watermark, b.number = build ∧ ∃ job ∈ b.jobs,
      job.name = some step ∧ s.knows step = true ∧ job.exitStatus = some 0 ∧
        job.logUrl = some url)
    (exists_congr fun _ => and_congr_left fun _ => mem_examined_iff)

/-- The samples of a step that the log does not touch. -/
def untouched (provider : Provider) (watermark : Nat) (s : Store) (url step : String)
    (xs : List Sample) : List Sample :=
  xs.filter fun x => ¬ Touched provider watermark s url step x.build

theorem sampleFor?_addition?_of_ne {step step' : String} (hne : step' ≠ step) (r : JobResult)
    (device : String) : (r.addition? step').bind (·.sampleFor? step device) = none := by
  cases r <;> simp [JobResult.addition?, Addition.sampleFor?, hne]

/-- A build without a job of the step that has the log adds the same to the series of the step. -/
theorem samplesFor_additions_congr (h : AgreeExcept url p q) {b : Build}
    (hb : b ∈ examined p watermark) {step : String}
    (huntouched : ¬ Touched p watermark s url step b.number) (device : String) :
    samplesFor (additions settings p s b) step device =
      samplesFor (additions settings q s b) step device := by
  simp only [samplesFor, additions, results, List.filterMap_map, List.filterMap_filterMap]
  refine List.filterMap_congr fun t ht => ?_
  obtain ⟨step', job⟩ := t
  obtain ⟨htargeted, hsucc⟩ := List.mem_filter.1 ht
  obtain ⟨hjob, hname, hknows⟩ := mem_targeted.1 htargeted
  by_cases hstep : step' = step
  · subst hstep
    have hurl : job.logUrl ≠ some url := by
      intro hurl
      have hexit : job.exitStatus = some 0 := by simpa [Job.succeeded] using hsucc
      exact huntouched
        ⟨b, mem_examined_iff.1 hb, rfl, job, hjob, hname, hknows, hexit, hurl⟩
    simp only [Function.comp_apply, jobResult_of_agreeExcept h hurl]
  · simp only [Function.comp_apply, sampleFor?_addition?_of_ne hstep]

/-- What the log does not touch is the same for each build. -/
theorem untouched_samplesFor_additions (h : AgreeExcept url p q) {b : Build}
    (hb : b ∈ examined p watermark) (step device : String) :
    untouched p watermark s url step (samplesFor (additions settings p s b) step device) =
      untouched p watermark s url step (samplesFor (additions settings q s b) step device) := by
  by_cases htouched : Touched p watermark s url step b.number
  · have hnone (r : Provider) : untouched p watermark s url step
        (samplesFor (additions settings r s b) step device) = [] := by
      refine List.filter_eq_nil_iff.2 fun x hx => ?_
      have hbuild : x.build = b.number := build_of_mem_additions (mem_samplesFor.1 hx)
      simpa [hbuild] using htouched
    rw [hnone p, hnone q]
  · rw [samplesFor_additions_congr h hb htouched device]

/-! ## Two passes -/

/-- Both passes asked for the same and got equally far, and they left the same steps and the same
samples, apart from those that the log at the address touches. -/
structure AgreeOutside (provider : Provider) (watermark : Nat) (s : Store) (url : String)
    (a b : Progress) : Prop where
  requests : a.requests = b.requests
  work : a.report.work = b.report.work
  pages : a.report.pages = b.report.pages
  transportError : a.report.transportError = b.report.transportError
  stepNames : a.store.stepNames = b.store.stepNames
  samples : ∀ step device,
    untouched provider watermark s url step (a.store.series step device).samples =
      untouched provider watermark s url step (b.store.series step device).samples

theorem untouched_series_run (settings : Settings) (watermark : Nat) (s : Store)
    (h : AgreeExcept url p q) (step device : String) :
    untouched p watermark s url step
        ((run settings p watermark s).store.series step device).samples =
      untouched p watermark s url step
        ((run settings q watermark s).store.series step device).samples := by
  let keep (build : UInt64) : Bool := ¬ Touched p watermark s url step build
  have hadded : (samplesFor ((examined p watermark).flatMap (additions settings p s)) step
        device).filter (fun x => keep x.build) =
      (samplesFor ((examined p watermark).flatMap (additions settings q s)) step
        device).filter fun x => keep x.build := by
    simp only [samplesFor, List.filterMap_flatMap, List.filter_flatMap]
    exact List.flatMap_congr fun b hb => untouched_samplesFor_additions h hb step device
  have hseries : ((run settings p watermark s).store.series step device).filter
        (fun x => keep x.build) =
      ((run settings q watermark s).store.series step device).filter fun x => keep x.build := by
    rw [store_run, store_run, Store.series_addAll, Store.series_addAll,
      ← examined_of_page h.page watermark, Series.filter_foldl_append keep, hadded,
      Series.filter_foldl_append keep]
  have hsamples := congrArg Series.samples hseries
  rwa [Series.samples_filter, Series.samples_filter] at hsamples

/-- If the logs of two providers differ at one address only, then both passes ask for the same, get
equally far and leave the same samples, apart from those of builds and steps that have a job with
this log. -/
theorem run_agree_outside (settings : Settings) (watermark : Nat) (s : Store)
    (h : AgreeExcept url p q) :
    AgreeOutside p watermark s url (run settings p watermark s) (run settings q watermark s) := by
  have hp : Account.Moves settings p s _ _ (run settings p watermark s) := Account.moves_run s
  have hq : Account.Moves settings q s _ _ (run settings q watermark s) := Account.moves_run s
  rw [← asked_of_page h.page, ← Account.ofPages_of_page h.page] at hq
  exact {
    requests := hp.requests.trans hq.requests.symm
    work := hp.work.trans hq.work.symm
    pages := hp.pages.trans hq.pages.symm
    transportError := hp.transportError.trans hq.transportError.symm
    stepNames := Store.stepNames_congr fun step => (hp.knows step).trans (hq.knows step).symm
    samples := untouched_series_run settings watermark s h }

/-- One provider fails to hand out the log of build 9 and the other one has it. Build 8 has another
log. -/
theorem run_agree_outside_unreachable :
    let settings : Settings := { aliases := .ofTexts [["4090"]], focus := ⟨4, 4, 4⟩ }
    let builds : List Build :=
      [⟨9, [⟨some "perf", some 0, some "odd"⟩]⟩, ⟨8, [⟨some "perf", some 0, some "log"⟩]⟩]
    let text := "hostname: 4090\nacc_bench_smm 1 1 4 4 4 1 1\ndevice: 1 ms 12.5 GFLOPS/s"
    let p : Provider := ofPages [builds] fun url =>
      if url = "odd" then .error .unreachable else .ok text
    let q : Provider := ofPages [builds] fun _ => .ok text
    let start := Store.empty.register "perf"
    AgreeExcept "odd" p q ∧
      AgreeOutside p 5 start "odd" (run settings p 5 start) (run settings q 5 start) := by
  intro settings builds text p q start
  have hagree : AgreeExcept "odd" p q := ⟨rfl, fun other hother => if_neg hother⟩
  exact ⟨hagree, run_agree_outside settings 5 start hagree⟩

end Ingest

end BenchTracker
