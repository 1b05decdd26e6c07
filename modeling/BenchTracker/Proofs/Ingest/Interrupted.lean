import BenchTracker.Proofs.Ingest.Incremental
import BenchTracker.Proofs.Ingest.Repeated
import BenchTracker.Proofs.Ingest.Watermark

/-!
# Passes that are cut short

A page that fails ends a pass, and the builds on this page and behind it are not looked at. What
the pass has taken in stays, and so does its watermark, the highest complete build. As the pages
list the latest builds first, the next pass starts above all builds that were not looked at, unless
no build was complete.
-/

namespace BenchTracker

namespace Ingest

variable {settings : Settings} {provider failing : Provider} {watermark : Nat} {s : Store}
  {front behind : List Build}

/-! ## Providers that break off -/

/-- The provider lists the builds over pages that are not empty, and the page behind them fails. -/
def Breaks (provider : Provider) (builds : List Build) : Prop :=
  ∃ cut : List (List Build), cut.flatten = builds ∧ cut.length + 1 ≤ pageLimit ∧
    HasPages provider 1 cut ∧ ∃ cause, provider.page (1 + cut.length) = .error cause

/-- A provider with the given pages that fails behind them. -/
def brokenOff (cut : List (List Build)) (log : String → Except Failure String) : Provider where
  page number := if number - 1 < cut.length then .ok (cut.getD (number - 1) [])
    else .error .unreachable
  log := log

theorem breaks_brokenOff {cut : List (List Build)} (hne : ∀ page ∈ cut, page ≠ [])
    (hlength : cut.length + 1 ≤ pageLimit) (log : String → Except Failure String) :
    Breaks (brokenOff cut log) cut.flatten := by
  refine ⟨cut, rfl, hlength, hasPages_iff.2 ⟨hne, fun n hn => ?_⟩, .unreachable, ?_⟩
  · simp [brokenOff, hn]
  · simp [brokenOff]

theorem listing_of_breaks (h : Breaks provider front) : listing provider = front := by
  obtain ⟨cut, rfl, hlimit, hpages, cause, hfails⟩ := h
  refine listing_of_hasPages hpages hlimit fun builds hlast => ?_
  rw [hfails] at hlast
  cases hlast

/-! ## The failure in the report -/

theorem transportError_foldl (p : Progress) (builds : List Build) :
    (builds.foldl (addBuild settings provider) p).report.transportError =
      p.report.transportError := by
  induction builds generalizing p with
  | nil => rfl
  | cons build rest ih => exact ih _

theorem transportError_fromPage {cut : List (List Build)} {fuel number : Nat} {cause : Failure}
    (hpages : HasPages provider number cut)
    (hfails : provider.page (number + cut.length) = .error cause) {p : Progress}
    (hnone : p.report.transportError = none) :
    (fromPage settings provider watermark (cut.length + (fuel + 1)) number
        p).report.transportError ≠ none ↔
      ∀ b ∈ cut.flatten, watermark < b.number.toNat := by
  induction cut generalizing number p with
  | nil =>
    have hfirst : provider.page number = .error cause := hfails
    simp [fromPage, hfirst]
  | cons page rest ih =>
    obtain ⟨hfirst, hne, hrest⟩ := hpages
    rw [List.length_cons, ← Nat.add_assoc, Nat.add_right_comm] at hfails
    rw [List.length_cons, Nat.add_right_comm, fromPage]
    simp only [hfirst, if_neg hne, length_fresh_lt_iff, List.flatten_cons,
      List.forall_mem_append]
    have habove : (∀ b ∈ page, watermark < b.number.toNat) ↔ fresh watermark page = page :=
      fresh_eq_self_iff.symm
    rw [habove]
    by_cases hall : fresh watermark page = page
    · rw [if_neg (not_not.2 hall),
        ih hrest hfails (by rw [transportError_foldl]; exact hnone)]
      exact (and_iff_right hall).symm
    · rw [if_pos hall]
      simp [transportError_foldl, hnone, hall]

/-- A pass reports the failing page if it gets there. -/
theorem transportError_run (h : Breaks provider front) :
    (run settings provider watermark s).report.transportError ≠ none ↔
      ∀ b ∈ front, watermark < b.number.toNat := by
  obtain ⟨cut, rfl, hlimit, hpages, cause, hfails⟩ := h
  obtain ⟨fuel, hfuel⟩ : ∃ fuel, pageLimit = cut.length + (fuel + 1) :=
    ⟨pageLimit - (cut.length + 1), by omega⟩
  rw [run, hfuel]
  exact transportError_fromPage hpages hfails rfl

/-! ## The pass after a failure -/

/-- A job of the build yields a sample that the store does not have. -/
def AddsTo (settings : Settings) (provider : Provider) (s : Store) (b : Build) : Prop :=
  ∃ job ∈ b.jobs, ∃ step device, job.name = some step ∧ s.knows step = true ∧
    Yields settings provider b.number job device ∧ s.contains step device b.number = false

theorem contains_of_not_addsTo {b : Build} (h : ¬ AddsTo settings provider s b) {a : Addition}
    (ha : a ∈ additions settings provider s b) :
    s.contains a.step a.device a.sample.build = true := by
  obtain ⟨job, hmem, hsucc, hproduced⟩ := mem_additions.1 ha
  obtain ⟨hjob, hname, hknows⟩ := mem_targeted.1 hmem
  by_contra hcontains
  rw [build_of_mem_additions ha] at hcontains
  exact h ⟨job, hjob, a.step, a.device, hname, hknows,
    (yields_iff a.step).2 ⟨hsucc, a.sample, hproduced⟩, by simpa using hcontains⟩

section Descending

variable (hdesc : (front ++ behind).Pairwise fun a b => b.number < a.number)
  (hbreaks : Breaks failing front) (hserves : Serves provider (front ++ behind))

include hdesc hbreaks

theorem examined_of_breaks :
    examined failing watermark = front.filter fun b => watermark < b.number.toNat := by
  rw [examined, listing_of_breaks hbreaks, fresh_eq_filter]
  exact (List.pairwise_append.1 hdesc).1.imp fun h => UInt64.le_of_lt h

/-- What a build behind the failure adds is not there after the first pass. -/
theorem contains_of_behind {b : Build} (hb : b ∈ behind) {step device : String}
    (h : (run settings failing watermark s).store.contains step device b.number = true) :
    s.contains step device b.number = true := by
  have hne : ∀ c ∈ examined failing watermark, c.number ≠ b.number := fun c hc => by
    rw [examined_of_breaks hdesc hbreaks] at hc
    have hlt := (List.pairwise_append.1 hdesc).2.2 c (List.mem_filter.1 hc).1 b hb
    exact (UInt64.ne_of_lt hlt).symm
  rw [store_run, Store.contains_eq_isSome, Store.sample?_addAll,
    firstSample?_flatMap_of_ne hne, Option.or_none] at h
  rwa [Store.contains_eq_isSome]

include hserves

/-- A pass that does not break off looks at the builds behind the failure too. -/
theorem examined_eq_append :
    examined provider watermark = examined failing watermark ++
      behind.filter fun b => watermark < b.number.toNat := by
  rw [examined_of_breaks hdesc hbreaks, examined, listing_of_serves hserves, fresh_eq_filter,
    List.filter_append]
  exact hdesc.imp fun h => UInt64.le_of_lt h

/-- Once a build in front of the failure is complete, nothing that the next pass looks at is new. -/
theorem mem_examined_of_latest {b : Build}
    (hlatest : (run settings failing watermark s).report.latest ≠ 0)
    (hb : b ∈ examined provider
      ((run settings failing watermark s).report.nextWatermark watermark)) :
    b ∈ examined failing watermark := by
  obtain ⟨top, htop, -, hnumber⟩ := (latest_run_cases s).resolve_left hlatest
  have habove := lt_of_mem_examined hb
  rw [Report.nextWatermark, hnumber] at habove
  have hmem := (examined_prefix_examined (Nat.le_max_left _ _) provider).subset hb
  rw [examined_eq_append hdesc hbreaks hserves, List.mem_append] at hmem
  refine hmem.resolve_right fun hbehind => ?_
  rw [examined_of_breaks hdesc hbreaks] at htop
  have hlt := (List.pairwise_append.1 hdesc).2.2 top (List.mem_filter.1 htop).1 b
    (List.mem_filter.1 hbehind).1
  rw [UInt64.lt_iff_toNat_lt] at hlt
  omega

/-- Then the next pass adds nothing. -/
theorem store_of_latest (hlog : failing.log = provider.log)
    (hlatest : (run settings failing watermark s).report.latest ≠ 0) :
    let first := run settings failing watermark s
    (run settings provider (first.report.nextWatermark watermark) first.store).store =
      first.store := by
  intro first
  rw [store_run, additions_congr (knows_run settings failing watermark s), ← additions_of_log hlog]
  refine Store.addAll_eq_self fun a ha => ?_
  obtain ⟨b, hb, hab⟩ := List.mem_flatMap.1 ha
  have hexamined := mem_examined_of_latest hdesc hbreaks hserves hlatest hb
  rw [store_run]
  exact Store.contains_addAll (List.mem_flatMap.2 ⟨b, hexamined, hab⟩)

/-- If no build was complete, the next pass looks at all builds again. -/
theorem finalizeAll_of_latest_eq_zero (hlog : failing.log = provider.log)
    (hlatest : (run settings failing watermark s).report.latest = 0) :
    let first := run settings failing watermark s
    (run settings provider (first.report.nextWatermark watermark)
        first.store).store.finalizeAll =
      (run settings provider watermark s).store.finalizeAll := by
  intro first
  have hstart : first.report.nextWatermark watermark = watermark := by
    rw [Report.nextWatermark, hlatest]
    exact Nat.max_eq_left (Nat.zero_le _)
  have hsub : ∀ b ∈ examined failing watermark, b ∈ examined provider watermark := fun b hb => by
    rw [examined_eq_append hdesc hbreaks hserves]
    exact List.mem_append_left _ hb
  have hnodup : ((front ++ behind).map Build.number).Nodup :=
    (List.pairwise_map.2 hdesc).imp fun h => (UInt64.ne_of_lt h).symm
  have hlisted {b : Build} (hb : b ∈ examined provider watermark) : b ∈ front ++ behind := by
    rw [← listing_of_serves hserves]
    exact (List.takeWhile_prefix _).subset hb
  have hadds : additions settings provider first.store = additions settings provider s :=
    additions_congr (knows_run settings failing watermark s)
  rw [hstart, store_run, hadds, store_run, store_run, additions_of_log hlog,
    ← Store.addAll_append, ← List.flatMap_append]
  refine finalizeAll_addAll_flatMap_congr (fun b => ?_) fun b hb c hc heq => ?_
  · rw [List.mem_append, or_iff_right_of_imp (hsub b)]
  · have hmem {b : Build} (hb : b ∈ examined failing watermark ++ examined provider watermark) :
        b ∈ front ++ behind := hlisted ((List.mem_append.1 hb).elim (hsub b) id)
    exact List.inj_on_of_nodup_map hnodup (hmem hb) (hmem hc) heq

/-- The first pass has all that a single one finds exactly if no build behind the failure has
anything to add. -/
theorem finalizeAll_eq_iff (hlog : failing.log = provider.log) :
    (run settings failing watermark s).store.finalizeAll =
        (run settings provider watermark s).store.finalizeAll ↔
      ∀ b ∈ behind, watermark < b.number.toNat → ¬ AddsTo settings provider s b := by
  constructor
  · rintro heq b hb habove ⟨job, hjob, step, device, hname, hknows, hyields, hcontains⟩
    have hexamined : b ∈ examined provider watermark := by
      rw [examined_eq_append hdesc hbreaks hserves]
      exact List.mem_append_right _ (List.mem_filter.2 ⟨hb, by simpa using habove⟩)
    have hsingle := contains_run hexamined hjob hname hknows hyields
    rw [← Store.contains_finalizeAll, ← heq, Store.contains_finalizeAll] at hsingle
    rw [contains_of_behind hdesc hbreaks hb hsingle] at hcontains
    cases hcontains
  · intro hnone
    have hsame : (run settings provider watermark s).store =
        (run settings failing watermark s).store := by
      rw [store_run, store_run, examined_eq_append hdesc hbreaks hserves, List.flatMap_append,
        Store.addAll_append, additions_of_log hlog]
      refine Store.addAll_eq_self fun a ha => ?_
      obtain ⟨b, hb, hab⟩ := List.mem_flatMap.1 ha
      obtain ⟨hbehind, habove⟩ := List.mem_filter.1 hb
      exact Store.contains_addAll_of_contains
        (contains_of_not_addsTo (hnone b hbehind (by simpa using habove)) hab)
    rw [hsame]

end Descending

/-- What the pass after a failure makes good. The first pass breaks off behind the builds in front,
and the second one starts from what it left and gets all builds. Both together come to the same as a
single pass exactly if the first one found no complete build, or if no build behind the failure has
anything to add. -/
theorem resume_after_failure (settings : Settings) (watermark : Nat) (s : Store)
    (hdesc : (front ++ behind).Pairwise fun a b => b.number < a.number)
    (hbreaks : Breaks failing front) (hserves : Serves provider (front ++ behind))
    (hlog : failing.log = provider.log) :
    let first := run settings failing watermark s
    let second := run settings provider (first.report.nextWatermark watermark) first.store
    let single := run settings provider watermark s
    (first.report.transportError ≠ none ↔ ∀ b ∈ front, watermark < b.number.toNat) ∧
    (second.store.finalizeAll = single.store.finalizeAll ↔ first.report.latest = 0 ∨
      ∀ b ∈ behind, watermark < b.number.toNat → ¬ AddsTo settings provider s b) := by
  intro first second single
  refine ⟨transportError_run hbreaks, ?_⟩
  by_cases hlatest : first.report.latest = 0
  · have heq : second.store.finalizeAll = single.store.finalizeAll :=
      finalizeAll_of_latest_eq_zero hdesc hbreaks hserves hlog hlatest
    exact iff_of_true heq (.inl hlatest)
  · have hstore : second.store = first.store := store_of_latest hdesc hbreaks hserves hlog hlatest
    rw [hstore, or_iff_right hlatest]
    exact finalizeAll_eq_iff hdesc hbreaks hserves hlog

/-- The page behind build 9 fails. The job of build 8 failed too, so that nothing is lost. -/
theorem resume_after_failure_failed_job :
    let settings : Settings := { aliases := .ofTexts [["4090"]], focus := ⟨4, 4, 4⟩ }
    let job (status : Int) : Job := ⟨some "perf", some status, some "log"⟩
    let log (_ : String) : Except Failure String :=
      .ok "hostname: 4090\nacc_bench_smm 1 1 4 4 4 1 1\ndevice: 1 ms 12.5 GFLOPS/s"
    let failing := brokenOff [[⟨9, [job 0]⟩]] log
    let provider := ofPages [[⟨9, [job 0]⟩, ⟨8, [job 1]⟩]] log
    let start := Store.empty.register "perf"
    let first := run settings failing 5 start
    let second := run settings provider (first.report.nextWatermark 5) first.store
    let single := run settings provider 5 start
    first.report.transportError ≠ none ∧
      second.store.finalizeAll = single.store.finalizeAll := by
  intro settings job log failing provider start
  have hbreaks : Breaks failing [⟨9, [job 0]⟩] := breaks_brokenOff (by decide) (by decide) log
  have hserves : Serves provider ([⟨9, [job 0]⟩] ++ [⟨8, [job 1]⟩]) :=
    serves_ofPages (by decide) (by decide) log
  have hnothing : ∀ b ∈ [(⟨8, [job 1]⟩ : Build)], 5 < b.number.toNat →
      ¬ AddsTo settings provider start b := by
    simp [AddsTo, Yields, job]
  obtain ⟨herror, hsame⟩ := resume_after_failure settings 5 start (by decide) hbreaks hserves rfl
  exact ⟨herror.2 (by decide), hsame.2 (.inr hnothing)⟩

/-- Build 9 is complete and the page with build 8 fails. The second pass starts from 9, so what
build 8 measured stays away for good. -/
theorem resume_after_failure_complete_build :
    let settings : Settings := { aliases := .ofTexts [["4090"]], focus := ⟨4, 4, 4⟩ }
    let jobs : List Job := [⟨some "perf", some 0, some "log"⟩]
    let log (_ : String) : Except Failure String :=
      .ok "hostname: 4090\nacc_bench_smm 1 1 4 4 4 1 1\ndevice: 1 ms 12.5 GFLOPS/s"
    let failing := brokenOff [[⟨9, jobs⟩]] log
    let provider := ofPages [[⟨9, jobs⟩], [⟨8, jobs⟩]] log
    let start := Store.empty.register "perf"
    let first := run settings failing 0 start
    let second := run settings provider (first.report.nextWatermark 0) first.store
    let single := run settings provider 0 start
    Breaks failing [⟨9, jobs⟩] ∧ Serves provider [⟨9, jobs⟩, ⟨8, jobs⟩] ∧
      first.report.transportError ≠ none ∧ second.report.transportError = none ∧
      second.store.finalizeAll.contains "perf" "4090" 8 = false ∧
      single.store.finalizeAll.contains "perf" "4090" 8 = true := by
  refine ⟨breaks_brokenOff (by decide) (by decide) _, serves_ofPages (by decide) (by decide) _,
    ?_, ?_, ?_, ?_⟩
  · decide +kernel
  · decide +kernel
  · rw [Store.contains_finalizeAll]
    decide +kernel
  · rw [Store.contains_finalizeAll]
    decide +kernel

end Ingest

end BenchTracker
