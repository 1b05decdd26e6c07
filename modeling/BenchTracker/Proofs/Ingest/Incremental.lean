import BenchTracker.Proofs.Ingest.Paging
import Mathlib.Data.List.Nodup

/-!
# Passes one after the other

A provider gets new builds from time to time, and each pass starts from the watermark that the pass
before left. Builds above the watermark are looked at again as long as they are not complete, and
builds below it are never looked at again. In the end the store holds the same as after one single
pass over all builds, in the order of the builds.
-/

namespace BenchTracker

namespace Ingest

variable {settings : Settings} {provider : Provider} {builds : List Build}

/-! ## Providers that list builds -/

/-- The provider lists the builds over pages that are not empty, with an empty page behind them,
and none of these pages fails. The number of the empty page has 32 bits too. -/
def Serves (provider : Provider) (builds : List Build) : Prop :=
  ∃ cut : List (List Build), cut.flatten = builds ∧ (∀ page ∈ cut, page ≠ []) ∧
    cut.length + 1 ≤ pageLimit ∧
    ∀ n ≤ cut.length, provider.page (n + 1) = .ok (cut.getD n [])

theorem listing_of_serves (h : Serves provider builds) : listing provider = builds := by
  obtain ⟨cut, rfl, hne, hlimit, hpage⟩ := h
  have hpages : HasPages provider 1 cut := hasPages_iff.2 ⟨hne, fun n hn => by
    rw [Nat.add_comm]
    exact hpage n (Nat.le_of_lt hn)⟩
  refine listing_of_hasPages hpages hlimit fun builds hlast => ?_
  rw [Nat.add_comm, hpage _ (Nat.le_refl _)] at hlast
  simpa using hlast.symm

/-- A provider with the given pages, and empty ones behind them. -/
def ofPages (cut : List (List Build)) (log : String → Except Failure String) : Provider where
  page number := .ok (cut.getD (number - 1) [])
  log := log

theorem serves_ofPages {cut : List (List Build)} (hne : ∀ page ∈ cut, page ≠ [])
    (hlength : cut.length + 1 ≤ pageLimit) (log : String → Except Failure String) :
    Serves (ofPages cut log) cut.flatten :=
  ⟨cut, rfl, hne, hlength, fun _ _ => rfl⟩

/-! ## Checkpoints -/

/-- What is kept from one pass to the next. -/
structure Checkpoint where
  watermark : Nat
  store : Store

/-- One pass that starts from a checkpoint. -/
def Checkpoint.advance (settings : Settings) (c : Checkpoint) (provider : Provider) :
    Checkpoint :=
  let p := run settings provider c.watermark c.store
  ⟨p.report.nextWatermark c.watermark, p.store⟩

/-- The builds that are there at a time, when builds are numbered by time. -/
def upTo (builds : List Build) (time : Nat) : List Build :=
  builds.filter fun b => b.number.toNat ≤ time

/-- The builds of a time above the watermark of the start. -/
def Due (start : Checkpoint) (builds : List Build) (time : Nat) (b : Build) : Prop :=
  b ∈ builds ∧ start.watermark < b.number.toNat ∧ b.number.toNat ≤ time

/-- The checkpoint has taken in all builds of a time above the watermark of the start, in some
order, and its watermark is the highest complete one of them. -/
structure CaughtUp (settings : Settings) (provider : Provider) (builds : List Build)
    (start : Checkpoint) (time : Nat) (c : Checkpoint) : Prop where
  taken : ∃ bs : List Build, (∀ b, b ∈ bs ↔ Due start builds time b) ∧
    c.store = start.store.addAll (bs.flatMap (additions settings provider start.store))
  watermark_le_iff : ∀ n, c.watermark ≤ n ↔ start.watermark ≤ n ∧
    ∀ b, Due start builds time b → Complete settings provider start.store b → b.number.toNat ≤ n

section CaughtUp

variable {start c d : Checkpoint} {time later : Nat}

theorem CaughtUp.start_le (h : CaughtUp settings provider builds start time c) :
    start.watermark ≤ c.watermark :=
  ((h.watermark_le_iff c.watermark).1 (Nat.le_refl _)).1

/-- A build that is still to come lies above the watermark. -/
theorem CaughtUp.watermark_lt (h : CaughtUp settings provider builds start time c) {n : Nat}
    (hstart : start.watermark < n) (htime : time < n) : c.watermark < n := by
  have hle : c.watermark ≤ n - 1 :=
    (h.watermark_le_iff (n - 1)).2 ⟨by omega, fun b hb _ => by
      have hb : b.number.toNat ≤ time := hb.2.2
      omega⟩
  omega

theorem CaughtUp.knows_eq (h : CaughtUp settings provider builds start time c) (step : String) :
    c.store.knows step = start.store.knows step := by
  obtain ⟨bs, -, hstore⟩ := h.taken
  rw [hstore]
  refine Store.knows_addAll (fun a ha => ?_) step
  obtain ⟨b, -, hab⟩ := List.mem_flatMap.1 ha
  exact knows_of_mem_additions hab

theorem caughtUp_start : CaughtUp settings provider builds start 0 start := by
  have hnone (b : Build) : ¬ Due start builds 0 b := by
    rintro ⟨-, hlt, hle⟩
    omega
  refine ⟨⟨[], fun b => ?_, rfl⟩, fun n => ?_⟩
  · simp [hnone]
  · simp [hnone]

/-- The builds that a pass looks at are those that are there and lie above the watermark. -/
theorem mem_examined_of_serves (hdesc : builds.Pairwise fun a b => b.number < a.number)
    {p : Provider} (hp : Serves p (upTo builds later)) {watermark : Nat} {b : Build} :
    b ∈ examined p watermark ↔
      b ∈ builds ∧ watermark < b.number.toNat ∧ b.number.toNat ≤ later := by
  have hle : (upTo builds later).Pairwise fun a b => b.number ≤ a.number :=
    (hdesc.imp fun h => UInt64.le_of_lt h).filter _
  rw [examined, listing_of_serves hp, fresh_eq_filter hle]
  simp only [upTo, List.mem_filter, decide_eq_true_eq]
  tauto

/-- One more pass catches up with a later time. -/
theorem CaughtUp.advance (h : CaughtUp settings provider builds start time c)
    (hdesc : builds.Pairwise fun a b => b.number < a.number) (hlater : time ≤ later)
    {p : Provider} (hlog : p.log = provider.log) (hp : Serves p (upTo builds later)) :
    CaughtUp settings provider builds start later (c.advance settings p) := by
  have hadds : additions settings p c.store = additions settings provider start.store :=
    (additions_of_log hlog _).trans (additions_congr h.knows_eq)
  have hcomplete (b : Build) :
      Complete settings p c.store b ↔ Complete settings provider start.store b :=
    (complete_of_log hlog).trans (complete_congr h.knows_eq)
  have hmem {b : Build} : b ∈ examined p c.watermark ↔
      b ∈ builds ∧ c.watermark < b.number.toNat ∧ b.number.toNat ≤ later :=
    mem_examined_of_serves hdesc hp
  have hstart := h.start_le
  refine ⟨?_, fun n => ?_⟩
  · obtain ⟨bs, hbs, hstore⟩ := h.taken
    refine ⟨bs ++ examined p c.watermark, fun b => ?_, ?_⟩
    · rw [List.mem_append, hbs, hmem, Due, Due]
      constructor
      · rintro (⟨hb, hlt, hle⟩ | ⟨hb, hlt, hle⟩)
        · exact ⟨hb, hlt, by omega⟩
        · exact ⟨hb, by omega, hle⟩
      · rintro ⟨hb, hlt, hle⟩
        rcases Nat.lt_or_ge time b.number.toNat with htime | htime
        · exact .inr ⟨hb, h.watermark_lt hlt htime, hle⟩
        · exact .inl ⟨hb, hlt, htime⟩
    · rw [Checkpoint.advance, store_run, hadds, hstore, List.flatMap_append, Store.addAll_append]
  · rw [Checkpoint.advance, Report.nextWatermark, Nat.max_le, h.watermark_le_iff,
      latest_run_le_iff, and_assoc]
    refine and_congr_right fun _ => ?_
    constructor
    · rintro ⟨hold, hnew⟩ b ⟨hb, hlt, hle⟩ hc
      rcases Nat.lt_or_ge time b.number.toNat with htime | htime
      · exact hnew b (hmem.2 ⟨hb, h.watermark_lt hlt htime, hle⟩) ((hcomplete b).2 hc)
      · exact hold b ⟨hb, hlt, htime⟩ hc
    · intro hall
      refine ⟨fun b hb hc => hall b ⟨hb.1, hb.2.1, hb.2.2.trans hlater⟩ hc, fun b hb hc => ?_⟩
      obtain ⟨hb, hlt, hle⟩ := hmem.1 hb
      exact hall b ⟨hb, by omega, hle⟩ ((hcomplete b).1 hc)

/-- Any number of passes at later and later times catches up with the last one. -/
theorem CaughtUp.foldl_advance (h : CaughtUp settings provider builds start time c)
    (hdesc : builds.Pairwise fun a b => b.number < a.number) {visits : List (Nat × Provider)}
    (hserves : ∀ v ∈ visits, v.2.log = provider.log ∧ Serves v.2 (upTo builds v.1))
    (htimes : (time :: visits.map Prod.fst).Pairwise (· ≤ ·)) :
    CaughtUp settings provider builds start ((visits.map Prod.fst).getLastD time)
      (visits.foldl (fun c v => c.advance settings v.2) c) := by
  induction visits generalizing time c with
  | nil => exact h
  | cons v rest ih =>
    obtain ⟨hfirst, hrest⟩ := List.pairwise_cons.1 htimes
    obtain ⟨hlog, hv⟩ := hserves v List.mem_cons_self
    rw [List.map_cons, List.getLastD_cons, List.foldl_cons]
    exact ih (h.advance hdesc (hfirst v.1 List.mem_cons_self) hlog hv)
      (fun w hw => hserves w (List.mem_cons_of_mem _ hw)) hrest

/-- There is only one way to have caught up, in the order of the builds. -/
theorem CaughtUp.unique (hdesc : builds.Pairwise fun a b => b.number < a.number)
    (hc : CaughtUp settings provider builds start time c)
    (hd : CaughtUp settings provider builds start time d) :
    c.store.finalizeAll = d.store.finalizeAll ∧ c.watermark = d.watermark := by
  have hnodup : (builds.map Build.number).Nodup :=
    (List.pairwise_map.2 hdesc).imp fun h => (UInt64.ne_of_lt h).symm
  obtain ⟨bs, hbs, hcstore⟩ := hc.taken
  obtain ⟨ds, hds, hdstore⟩ := hd.taken
  constructor
  · rw [hcstore, hdstore]
    refine finalizeAll_addAll_flatMap_congr (fun b => (hbs b).trans (hds b).symm) ?_
    intro b hb b' hb' heq
    exact List.inj_on_of_nodup_map hnodup ((hbs b).1 hb).1 ((hbs b').1 hb').1 heq
  · apply eq_of_forall_ge_iff
    intro n
    exact (hc.watermark_le_iff n).trans (hd.watermark_le_iff n).symm

end CaughtUp

/-! ## Several passes and a single one -/

/-- Passes at later and later times come to the same as a single pass at the last of them: the
store in the order of the builds is the same, and so is the watermark. The pages of each pass can
be cut in their own way. -/
theorem foldl_advance_eq_advance (settings : Settings) (log : String → Except Failure String)
    (start : Checkpoint) {builds : List Build}
    (hdesc : builds.Pairwise fun a b => b.number < a.number) {visits : List (Nat × Provider)}
    (hserves : ∀ v ∈ visits, v.2.log = log ∧ Serves v.2 (upTo builds v.1))
    (htimes : (visits.map Prod.fst).Pairwise (· ≤ ·)) {last : Nat}
    (hlast : (visits.map Prod.fst).getLast? = some last) {batch : Provider}
    (hbatch : batch.log = log ∧ Serves batch (upTo builds last)) :
    let passes := visits.foldl (fun c v => c.advance settings v.2) start
    let single := start.advance settings batch
    passes.store.finalizeAll = single.store.finalizeAll ∧ passes.watermark = single.watermark := by
  intro passes single
  obtain ⟨hlog, hbatch⟩ := hbatch
  have htime : (visits.map Prod.fst).getLastD 0 = last := by
    rw [List.getLastD_eq_getLast?, hlast, Option.getD_some]
  have hpasses : CaughtUp settings batch builds start last passes := by
    rw [← htime]
    exact caughtUp_start.foldl_advance hdesc (hlog ▸ hserves)
      (List.pairwise_cons.2 ⟨fun t _ => Nat.zero_le t, htimes⟩)
  have hsingle : CaughtUp settings batch builds start last single :=
    caughtUp_start.advance hdesc (Nat.zero_le last) rfl hbatch
  exact hpasses.unique hdesc hsingle

/-- One log of build 8 cannot be had, so the first visit stores the other sample of build 8 and
leaves the watermark at 7. The second visit looks at build 8 again and at build 9. The single pass
gets its builds over one page. -/
theorem foldl_advance_two_visits :
    let settings : Settings := ⟨.ofTexts [["4090"]], DeviceLine.defaultChain, ⟨4, 4, 4⟩⟩
    let log (url : String) : Except Failure String :=
      if url = "good" then
        .ok "hostname: 4090\nacc_bench_smm 1 1 4 4 4 1 1\ndevice: 1 ms 12.5 GFLOPS/s"
      else .error .unreachable
    let job (url : String) : Job := ⟨some "perf", some 0, some url⟩
    let builds : List Build := [⟨9, [job "good"]⟩, ⟨8, [job "bad", job "good"]⟩, ⟨7, [job "good"]⟩]
    let early := ofPages [[⟨8, [job "bad", job "good"]⟩], [⟨7, [job "good"]⟩]] log
    let late := ofPages [[⟨9, [job "good"]⟩, ⟨8, [job "bad", job "good"]⟩], [⟨7, [job "good"]⟩]] log
    let start : Checkpoint := ⟨5, Store.empty.register "perf"⟩
    let first := start.advance settings early
    let second := first.advance settings late
    let single := start.advance settings (ofPages [builds] log)
    let stored (c : Checkpoint) := (c.store.series? "perf" "4090").map (·.samples.map Sample.build)
    first.watermark = 7 ∧ stored first = some [8, 7] ∧
      (examined late first.watermark).map Build.number = [9, 8] ∧
      second.watermark = 9 ∧ stored second = some [8, 7, 9] ∧
      second.store.finalizeAll = single.store.finalizeAll ∧
      second.watermark = single.watermark := by
  intro settings log job builds early late start first second single stored
  have hdesc : builds.Pairwise fun a b => b.number < a.number := by decide
  have hearly : Serves early (upTo builds 8) := serves_ofPages (by decide) (by decide) log
  have hlate : Serves late (upTo builds 9) := serves_ofPages (by decide) (by decide) log
  have hbatch : Serves (ofPages [builds] log) (upTo builds 9) :=
    serves_ofPages (by decide) (by decide) log
  have hserves : ∀ v ∈ [(8, early), (9, late)], v.2.log = log ∧ Serves v.2 (upTo builds v.1) := by
    intro v hv
    rcases List.mem_pair.1 hv with rfl | rfl
    · exact ⟨rfl, hearly⟩
    · exact ⟨rfl, hlate⟩
  have hequal := foldl_advance_eq_advance settings log start hdesc hserves (by decide) rfl
    ⟨rfl, hbatch⟩
  refine ⟨?_, ?_, ?_, ?_, ?_, hequal⟩
  all_goals decide +kernel

end Ingest

end BenchTracker
