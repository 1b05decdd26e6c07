import BenchTracker.Proofs.Ingest.Accounting
import BenchTracker.Proofs.Ingest.Incremental
import Mathlib.Data.List.Perm.Basic

/-!
# Builds in another order

Two providers list the same builds in different orders, and cut their pages in their own ways. A
pass that takes in all builds counts the same jobs and errors for both of them and finds the same
latest build. In the order of the builds it leaves the same store.
-/

namespace BenchTracker

namespace Ingest

variable {settings : Settings} {provider p q : Provider} {builds others : List Build}
  {watermark : Nat}

/-! ## Jobs in another order -/

theorem fetched?_of_log (h : p.log = q.log) : fetched? p = fetched? q := by
  funext job
  simp only [fetched?, h]

theorem length_unfetched_perm (h : p.log = q.log) {jobs jobs' : List Job}
    (hperm : jobs.Perm jobs') : (unfetched p jobs).length = (unfetched q jobs').length := by
  simp only [unfetched, fetched?_of_log h]
  exact (hperm.filter _).length_eq

theorem rejections_perm (h : p.log = q.log) {jobs jobs' : List Job} (hperm : jobs.Perm jobs') :
    rejections settings p jobs = rejections settings q jobs' := by
  have herrors : ((jobs.filterMap (fetched? q)).map (logErrors settings)).Perm
      ((jobs'.filterMap (fetched? q)).map (logErrors settings)) := (hperm.filterMap _).map _
  rw [rejections, rejections, fetched?_of_log h]
  exact herrors.foldr_eq 0

/-! ## The report of a pass -/

/-- What a report tells of the builds that a pass has taken in: their number, the latest complete
one, and the errors of their jobs. -/
structure Tallies (settings : Settings) (provider : Provider) (s : Store) (builds : List Build)
    (r : Report) : Prop where
  work : r.work = builds.length
  latest_le_iff : ∀ n, r.latest.toNat ≤ n ↔
    ∀ b ∈ builds, Complete settings provider s b → b.number.toNat ≤ n
  stepErrors : r.stepErrors = (unfetched provider (builds.flatMap (eligible s))).length
  valueErrors : r.valueErrors = rejections settings provider (builds.flatMap (eligible s))

theorem tallies_run (settings : Settings) (provider : Provider) (watermark : Nat) (s : Store) :
    Tallies settings provider s (examined provider watermark)
      (run settings provider watermark s).report := by
  let start : Progress := { store := s }
  have hharvest : (run settings provider watermark s).harvest =
      ((examined provider watermark).foldl (addBuild settings provider) start).harvest :=
    harvest_run s
  have hknows (step : String) : start.store.knows step = s.knows step := rfl
  have hmoves : Account.Moves settings provider s _ start _ :=
    Account.moves_foldl_addBuild hknows (examined provider watermark)
  refine ⟨?_, latest_run_le_iff s, ?_, ?_⟩
  · exact (congrArg Harvest.work hharvest).trans (hmoves.work.trans (Nat.zero_add _))
  · exact (congrArg Harvest.stepErrors hharvest).trans (hmoves.stepErrors.trans (Nat.zero_add _))
  · exact (congrArg Harvest.valueErrors hharvest).trans (hmoves.valueErrors.trans (Nat.zero_add _))

variable {r r' : Report} {s : Store}

/-- A report tells the same of the builds in another order, with the same logs. -/
theorem Tallies.perm (h : Tallies settings p s builds r) (hlog : p.log = q.log)
    (hperm : builds.Perm others) : Tallies settings q s others r := by
  have hjobs : (builds.flatMap (eligible s)).Perm (others.flatMap (eligible s)) :=
    hperm.flatMap_right _
  refine ⟨?_, fun n => ?_, ?_, ?_⟩
  · exact h.work.trans hperm.length_eq
  · rw [h.latest_le_iff]
    simp only [hperm.mem_iff, complete_of_log hlog]
  · exact h.stepErrors.trans (length_unfetched_perm hlog hjobs)
  · exact h.valueErrors.trans (rejections_perm hlog hjobs)

/-- The builds determine what a report tells of them. -/
theorem Tallies.unique (h : Tallies settings provider s builds r)
    (h' : Tallies settings provider s builds r') :
    r.work = r'.work ∧ r.latest = r'.latest ∧ r.stepErrors = r'.stepErrors ∧
      r.valueErrors = r'.valueErrors := by
  refine ⟨h.work.trans h'.work.symm, ?_, h.stepErrors.trans h'.stepErrors.symm,
    h.valueErrors.trans h'.valueErrors.symm⟩
  apply UInt64.toNat_inj.1
  apply eq_of_forall_ge_iff
  intro n
  exact (h.latest_le_iff n).trans (h'.latest_le_iff n).symm

/-! ## Passes over both orders -/

theorem examined_of_serves (h : Serves provider builds)
    (habove : ∀ b ∈ builds, watermark < b.number.toNat) : examined provider watermark = builds := by
  rw [examined, listing_of_serves h]
  exact fresh_eq_self_iff.2 habove

/-- The order in which builds are listed and where the pages are cut do not matter for what a pass
counts, for the latest build that it finds, and for the store that it leaves. -/
theorem run_of_perm (settings : Settings) (watermark : Nat) (s : Store) (hlog : p.log = q.log)
    (hp : Serves p builds) (hq : Serves q others) (hperm : builds.Perm others)
    (hdistinct : builds.Pairwise fun a b => a.number ≠ b.number)
    (habove : ∀ b ∈ builds, watermark < b.number.toNat) :
    let first := run settings p watermark s
    let second := run settings q watermark s
    (first.report.work = second.report.work ∧
      first.report.latest = second.report.latest ∧
      first.report.stepErrors = second.report.stepErrors ∧
      first.report.valueErrors = second.report.valueErrors) ∧
    first.store.finalizeAll = second.store.finalizeAll ∧
    Tallies settings p s builds first.report ∧
    first.store = s.addAll (builds.flatMap (additions settings p s)) := by
  intro first second
  have hexamined : examined p watermark = builds := examined_of_serves hp habove
  have hexamined' : examined q watermark = others :=
    examined_of_serves hq fun b hb => habove b (hperm.mem_iff.2 hb)
  have hfirst : Tallies settings p s builds first.report := by
    rw [← hexamined]
    exact tallies_run settings p watermark s
  have hsecond : Tallies settings q s others second.report := by
    rw [← hexamined']
    exact tallies_run settings q watermark s
  have hstore : first.store = s.addAll (builds.flatMap (additions settings p s)) := by
    rw [← hexamined]
    exact store_run s
  have hstore' : second.store = s.addAll (others.flatMap (additions settings p s)) := by
    rw [← hexamined', additions_of_log hlog]
    exact store_run s
  refine ⟨(hfirst.perm hlog hperm).unique hsecond, ?_, hfirst, hstore⟩
  have hnodup : (builds.map Build.number).Nodup := List.pairwise_map.2 hdistinct
  rw [hstore, hstore']
  apply finalizeAll_addAll_flatMap_congr
  · exact fun b => hperm.mem_iff
  · intro b hb c hc heq
    exact List.inj_on_of_nodup_map hnodup hb hc heq

/-- The log of one job of build 9 cannot be fetched, two jobs of build 8 measure on the same device,
and the store has a sample of build 8 already. One provider lists the builds over two pages, the
other one in reverse on a single page. -/
theorem run_of_perm_reversed :
    let settings : Settings := { aliases := .ofTexts [["4090"]], focus := ⟨4, 4, 4⟩ }
    let log (url : String) : Except Failure String :=
      if url = "good" then
        .ok "hostname: 4090\nacc_bench_smm 1 1 4 4 4 1 1\ndevice: 1 ms 12.5 GFLOPS/s"
      else .error .unreachable
    let job (url : String) : Job := ⟨some "perf", some 0, some url⟩
    let nine : Build := ⟨9, [job "bad", job "good"]⟩
    let eight : Build := ⟨8, [job "good", job "good"]⟩
    let seven : Build := ⟨7, [job "good"]⟩
    let p := ofPages [[nine, eight], [seven]] log
    let q := ofPages [[seven, eight, nine]] log
    let s := (Store.empty.register "perf").append "perf" "4090" ⟨.none, .none, .none, 2.5, 8⟩
    let first := run settings p 5 s
    let second := run settings q 5 s
    (first.report.work = second.report.work ∧
      first.report.latest = second.report.latest ∧
      first.report.stepErrors = second.report.stepErrors ∧
      first.report.valueErrors = second.report.valueErrors) ∧
    first.store.finalizeAll = second.store.finalizeAll ∧
    Tallies settings p s [nine, eight, seven] first.report ∧
    first.store = s.addAll ([nine, eight, seven].flatMap (additions settings p s)) := by
  intro settings log job nine eight seven p q s
  have hp : Serves p [nine, eight, seven] := serves_ofPages (by decide) (by decide) log
  have hq : Serves q [seven, eight, nine] := serves_ofPages (by decide) (by decide) log
  exact run_of_perm settings 5 s rfl hp hq (List.reverse_perm [seven, eight, nine]) (by decide)
    (by decide)

end Ingest

end BenchTracker
