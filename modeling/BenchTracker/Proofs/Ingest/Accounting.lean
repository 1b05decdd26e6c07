import BenchTracker.Proofs.Classification
import BenchTracker.Proofs.Ingest.Paging

/-!
# The accounts of a pass

A pass asks for pages one after the other and, between two of them, for the logs of the jobs on the
page. What it asks for and what it counts follows from the pages that it asks for, as these decide
which builds are taken in. The jobs of these builds decide the numbers of errors.
-/

namespace BenchTracker

namespace Ingest

variable {settings : Settings} {provider : Provider} {watermark : Nat} {s t : Store}

/-! ## Jobs -/

/-- The jobs of a build that belong to known steps and ended with the exit status zero. -/
def eligible (s : Store) (b : Build) : List Job :=
  b.jobs.filter fun job => job.name.any s.knows && job.exitStatus = some 0

/-- The requests for the logs of these jobs. -/
def logRequests (s : Store) (b : Build) : List Request :=
  (eligible s b).filterMap fun job => job.logUrl.map .log

/-- The log of a job, if it has one and it can be fetched. -/
def fetched? (provider : Provider) (job : Job) : Option String :=
  job.logUrl.bind fun url => (provider.log url).toOption

/-- The jobs without such a log. -/
def unfetched (provider : Provider) (jobs : List Job) : List Job :=
  jobs.filter fun job => (fetched? provider job).isNone

/-- The errors of a fetched log: those that reading it counts, or one if the focus kernel has no
positive value. -/
def logErrors (settings : Settings) (text : String) : Nat :=
  match Log.read settings.aliases settings.chain (Log.unescape text.toList) with
  | .noDevice => 0
  | .invalid _ errors => errors
  | .measured _ xs => if ∃ x ∈ xs, x.kernel = settings.focus ∧ 0.0 < x.value then 0 else 1

/-- The errors of all logs that can be fetched. -/
def rejections (settings : Settings) (provider : Provider) (jobs : List Job) : Nat :=
  ((jobs.filterMap (fetched? provider)).map (logErrors settings)).foldr (· + ·) 0

theorem eligible_congr (h : ∀ step, s.knows step = t.knows step) : eligible s = eligible t := by
  funext b
  simp only [eligible, funext h]

theorem logRequests_congr (h : ∀ step, s.knows step = t.knows step) :
    logRequests s = logRequests t := by
  funext b
  rw [logRequests, logRequests, eligible_congr h]

theorem unfetched_append (jobs others : List Job) :
    unfetched provider (jobs ++ others) = unfetched provider jobs ++ unfetched provider others :=
  List.filter_append ..

theorem rejections_append (jobs others : List Job) :
    rejections settings provider (jobs ++ others) =
      rejections settings provider jobs + rejections settings provider others := by
  rw [rejections, List.filterMap_append, List.map_append]
  exact List.sum_append

/-- The jobs whose results are looked at. -/
theorem map_job_results (settings : Settings) (provider : Provider) (s : Store) (b : Build) :
    (results settings provider s b).map (·.2.1) = eligible s b := by
  simp only [results, targeted, eligible, List.map_map]
  induction b.jobs with
  | nil => rfl
  | cons job rest ih =>
    cases hname : job.name with
    | none => simp [hname, ih]
    | some step =>
      by_cases hknows : s.knows step = true
      · by_cases hexit : job.exitStatus = some 0 <;>
          simp [hname, hknows, hexit, Job.succeeded, ← ih]
      · simp [hname, hknows, ← ih]

theorem jobResult_eq (build : UInt64) (step : String) (job : Job) :
    (∃ cause, jobResult settings provider build step job = .failed cause ∧
      fetched? provider job = none) ∨
    ∃ text, jobResult settings provider build step job =
        logResult settings build (Log.unescape text.toList) ∧
      fetched? provider job = some text := by
  unfold jobResult fetched?
  cases job.logUrl with
  | none => exact .inl ⟨_, rfl, rfl⟩
  | some url =>
    cases h : provider.log url with
    | error cause => exact .inl ⟨cause, by simp [h], by simp [h, Except.toOption]⟩
    | ok text => exact .inr ⟨text, by simp [h], by simp [h, Except.toOption]⟩

theorem stepErrors_logResult (build : UInt64) (log : List Char) :
    (logResult settings build log).stepErrors = 0 := by
  unfold logResult
  split
  · rfl
  · rfl
  · split <;> rfl

theorem valueErrors_logResult (build : UInt64) (text : String) :
    (logResult settings build (Log.unescape text.toList)).valueErrors =
      logErrors settings text := by
  unfold logResult logErrors
  cases Log.read settings.aliases settings.chain (Log.unescape text.toList) with
  | noDevice => rfl
  | invalid device errors => rfl
  | measured device xs =>
    cases haggregate : aggregate settings.focus build xs with
    | none =>
      have hmissing : ¬ ∃ x ∈ xs, x.kernel = settings.focus ∧ 0.0 < x.value := by
        rintro ⟨x, hx, hfocus, hpos⟩
        exact aggregate_eq_none.1 haggregate x hx hfocus hpos
      simp only [haggregate, if_neg hmissing]
      rfl
    | some sample =>
      have hfocus : ∃ x ∈ xs, x.kernel = settings.focus ∧ 0.0 < x.value := by
        by_contra hmissing
        have hnone : aggregate settings.focus build xs = none :=
          aggregate_eq_none.2 fun x hx hfocus hpos => hmissing ⟨x, hx, hfocus, hpos⟩
        rw [haggregate] at hnone
        cases hnone
      simp only [haggregate, if_pos hfocus]
      rfl

theorem stepErrors_jobResult (build : UInt64) (step : String) (job : Job) :
    (jobResult settings provider build step job).stepErrors =
      if (fetched? provider job).isNone then 1 else 0 := by
  rcases jobResult_eq build step job with ⟨cause, hresult, hfetched⟩ | ⟨text, hresult, hfetched⟩
  · rw [hresult, hfetched]
    rfl
  · rw [hresult, hfetched, stepErrors_logResult]
    rfl

theorem valueErrors_jobResult (build : UInt64) (step : String) (job : Job) :
    (jobResult settings provider build step job).valueErrors =
      (fetched? provider job).elim 0 (logErrors settings) := by
  rcases jobResult_eq build step job with ⟨cause, hresult, hfetched⟩ | ⟨text, hresult, hfetched⟩
  · rw [hresult, hfetched]
    rfl
  · rw [hresult, hfetched, valueErrors_logResult]
    rfl

/-- What the results say of jobs can be read off the jobs, where steps and build numbers do not
matter. -/
theorem map_results {α : Type} {f : JobResult → α} {g : Job → α}
    (hfg : ∀ build step job, f (jobResult settings provider build step job) = g job) (s : Store)
    (b : Build) :
    (results settings provider s b).map (fun r => f r.2.2) = (eligible s b).map g := by
  rw [← map_job_results settings provider, List.map_map]
  refine List.map_congr_left fun r hr => ?_
  obtain ⟨t, -, rfl⟩ := List.mem_map.1 hr
  exact hfg b.number t.1 t.2

theorem stepErrors_results (s : Store) (b : Build) :
    ((results settings provider s b).map (·.2.2.stepErrors)).foldr (· + ·) 0 =
      (unfetched provider (eligible s b)).length := by
  rw [map_results stepErrors_jobResult, unfetched]
  induction eligible s b with
  | nil => rfl
  | cons job rest ih =>
    rw [List.map_cons, List.foldr_cons, ih, List.filter_cons]
    split <;> simp [Nat.add_comm]

theorem valueErrors_results (s : Store) (b : Build) :
    ((results settings provider s b).map (·.2.2.valueErrors)).foldr (· + ·) 0 =
      rejections settings provider (eligible s b) := by
  rw [map_results valueErrors_jobResult, rejections]
  induction eligible s b with
  | nil => rfl
  | cons job rest ih =>
    rw [List.map_cons, List.foldr_cons, ih, List.filterMap_cons]
    cases fetched? provider job <;> simp

theorem requests_results (s : Store) (b : Build) :
    ((results settings provider s b).filterMap fun r => r.2.1.logUrl.map .log) =
      logRequests s b := by
  rw [logRequests, ← map_job_results settings provider, List.filterMap_map]
  rfl

/-! ## Accounts -/

/-- Why a page cannot be received, if it cannot. -/
def failure? (provider : Provider) (number : Nat) : Option Failure :=
  match provider.page number with
  | .error cause => some cause
  | .ok _ => none

/-- The builds of a page in front of the first one that is not above the watermark. -/
def taken (provider : Provider) (watermark number : Nat) : List Build :=
  match provider.page number with
  | .error _ => []
  | .ok builds => fresh watermark builds

/-- What a part of a pass comes to. -/
structure Account where
  requests : List Request := []
  /-- The builds that are taken in. -/
  builds : List Build := []
  /-- The number of pages that are received. -/
  pages : Nat := 0
  failure : Option Failure := none

namespace Account

/-- One part after the other. -/
def append (a b : Account) : Account where
  requests := a.requests ++ b.requests
  builds := a.builds ++ b.builds
  pages := a.pages + b.pages
  failure := b.failure.or a.failure

/-- Taking a build in. -/
def ofBuild (s : Store) (b : Build) : Account := { requests := logRequests s b, builds := [b] }

/-- Asking for a page, and taking in its builds above the watermark. -/
def ofPage (provider : Provider) (watermark : Nat) (s : Store) (number : Nat) : Account where
  requests := .page number :: (taken provider watermark number).flatMap (logRequests s)
  builds := taken provider watermark number
  pages := if (failure? provider number).isNone then 1 else 0
  failure := failure? provider number

/-- Asking for several pages. -/
def ofPages (provider : Provider) (watermark : Nat) (s : Store) (numbers : List Nat) : Account :=
  numbers.foldr (fun number rest => (ofPage provider watermark s number).append rest) {}

/-- From `p` to `q` a pass has done what the account says, with a store that knows the steps of
`s`. -/
structure Moves (settings : Settings) (provider : Provider) (s : Store) (a : Account)
    (p q : Progress) : Prop where
  knows : ∀ step, q.store.knows step = s.knows step
  requests : q.requests = p.requests ++ a.requests
  work : q.report.work = p.report.work + a.builds.length
  pages : q.report.pages = p.report.pages + a.pages
  transportError : q.report.transportError = a.failure.or p.report.transportError
  stepErrors : q.report.stepErrors =
    p.report.stepErrors + (unfetched provider (a.builds.flatMap (eligible s))).length
  valueErrors : q.report.valueErrors =
    p.report.valueErrors + rejections settings provider (a.builds.flatMap (eligible s))

theorem Moves.refl {p : Progress} (h : ∀ step, p.store.knows step = s.knows step) :
    Moves settings provider s {} p p :=
  ⟨h, by simp, by simp, by simp, by simp, by simp [unfetched], by simp [rejections]⟩

theorem Moves.trans {a b : Account} {p q r : Progress} (hpq : Moves settings provider s a p q)
    (hqr : Moves settings provider s b q r) : Moves settings provider s (a.append b) p r where
  knows := hqr.knows
  requests := by rw [hqr.requests, hpq.requests, append, List.append_assoc]
  work := by rw [hqr.work, hpq.work, append, List.length_append, Nat.add_assoc]
  pages := by rw [hqr.pages, hpq.pages, append, Nat.add_assoc]
  transportError := by rw [hqr.transportError, hpq.transportError, append, Option.or_assoc]
  stepErrors := by
    rw [hqr.stepErrors, hpq.stepErrors, append, List.flatMap_append, unfetched_append,
      List.length_append, Nat.add_assoc]
  valueErrors := by
    rw [hqr.valueErrors, hpq.valueErrors, append, List.flatMap_append, rejections_append,
      Nat.add_assoc]

theorem moves_addBuild {p : Progress} (h : ∀ step, p.store.knows step = s.knows step)
    (b : Build) :
    Moves settings provider s (ofBuild s b) p (addBuild settings provider p b) where
  knows step := (knows_addBuild p b step).trans (h step)
  requests := by
    rw [ofBuild, ← logRequests_congr h]
    exact congrArg (p.requests ++ ·) (requests_results p.store b)
  work := rfl
  pages := rfl
  transportError := rfl
  stepErrors := by
    rw [ofBuild, List.flatMap_singleton, ← eligible_congr h]
    exact congrArg (p.report.stepErrors + ·) (stepErrors_results p.store b)
  valueErrors := by
    rw [ofBuild, List.flatMap_singleton, ← eligible_congr h]
    exact congrArg (p.report.valueErrors + ·) (valueErrors_results p.store b)

theorem moves_foldl_addBuild {p : Progress} (h : ∀ step, p.store.knows step = s.knows step)
    (builds : List Build) :
    Moves settings provider s { requests := builds.flatMap (logRequests s), builds := builds } p
      (builds.foldl (addBuild settings provider) p) := by
  induction builds generalizing p with
  | nil => exact .refl h
  | cons b rest ih =>
    have hfirst : Moves settings provider s (ofBuild s b) p (addBuild settings provider p b) :=
      moves_addBuild h b
    exact hfirst.trans (ih hfirst.knows)

end Account

/-! ## Pages -/

instance (provider : Provider) (watermark number : Nat) :
    Decidable (GoesOn provider watermark number) :=
  match h : provider.page number with
  | .error cause => isFalse (by simp [GoesOn, h])
  | .ok builds =>
    decidable_of_iff (builds ≠ [] ∧ ∀ b ∈ builds, watermark < b.number.toNat) (by simp [GoesOn, h])

/-- The numbers of the pages that a pass asks for, from the given one on. -/
def asked (provider : Provider) (watermark : Nat) : Nat → Nat → List Nat
  | 0, _ => []
  | fuel + 1, number =>
    number :: if GoesOn provider watermark number then asked provider watermark fuel (number + 1)
      else []

/-- Takes a single page in. -/
def turn (settings : Settings) (provider : Provider) (watermark : Nat) (p : Progress)
    (number : Nat) : Progress :=
  fromPage settings provider watermark 1 number p

theorem fromPage_succ (fuel number : Nat) (p : Progress) :
    fromPage settings provider watermark (fuel + 1) number p =
      if GoesOn provider watermark number then
        fromPage settings provider watermark fuel (number + 1)
          (turn settings provider watermark p number)
      else turn settings provider watermark p number := by
  rw [turn, fromPage, fromPage]
  cases hpage : provider.page number with
  | error cause =>
    have hstops : ¬ GoesOn provider watermark number := by simp [GoesOn, hpage]
    rw [if_neg hstops]
  | ok builds =>
    by_cases hgoes : GoesOn provider watermark number
    · obtain ⟨builds', hbuilds, hne, habove⟩ := hgoes
      obtain rfl : builds = builds' := by simpa [hpage] using hbuilds
      have hlength : ¬ (fresh watermark builds).length < builds.length :=
        fun h => length_fresh_lt_iff.1 h (fresh_eq_self_iff.2 habove)
      rw [if_pos ⟨builds, hpage, hne, habove⟩]
      simp only [if_neg hne, if_neg hlength]
      rfl
    · rw [if_neg hgoes]
      by_cases hnil : builds = []
      · simp only [if_pos hnil]
      · have hlength : (fresh watermark builds).length < builds.length :=
          length_fresh_lt_iff.2 fun h => hgoes ⟨builds, hpage, hnil, fresh_eq_self_iff.1 h⟩
        simp only [if_neg hnil, if_pos hlength]

/-- A pass takes the pages in one by one. -/
theorem fromPage_eq_foldl (fuel number : Nat) (p : Progress) :
    fromPage settings provider watermark fuel number p =
      (asked provider watermark fuel number).foldl (turn settings provider watermark) p := by
  induction fuel generalizing number p with
  | zero => rfl
  | succ fuel ih =>
    rw [fromPage_succ, asked, List.foldl_cons]
    split
    · exact ih (number + 1) _
    · rfl

namespace Account

theorem moves_turn {p : Progress} (h : ∀ step, p.store.knows step = s.knows step)
    (number : Nat) :
    Moves settings provider s (ofPage provider watermark s number) p
      (turn settings provider watermark p number) := by
  rw [turn, fromPage, ofPage, taken, failure?]
  cases provider.page number with
  | error cause => exact ⟨h, rfl, rfl, rfl, rfl, by simp [unfetched], by simp [rejections]⟩
  | ok builds =>
    have hreceived : Moves settings provider s { requests := [.page number], pages := 1 } p
        { p with
          requests := p.requests ++ [.page number]
          report := { p.report with pages := p.report.pages + 1 } } :=
      ⟨h, rfl, rfl, rfl, rfl, by simp [unfetched], by simp [rejections]⟩
    have htaken := hreceived.trans (moves_foldl_addBuild hreceived.knows (fresh watermark builds))
    by_cases hnil : builds = []
    · subst hnil
      exact htaken
    · simp only [if_neg hnil]
      -- On the last page something is reported besides, which the account does not see.
      by_cases hlt : (fresh watermark builds).length < builds.length
      · rw [if_pos hlt]
        exact { htaken with }
      · rw [if_neg hlt]
        exact htaken

theorem moves_foldl_turn {p : Progress} (h : ∀ step, p.store.knows step = s.knows step)
    (numbers : List Nat) :
    Moves settings provider s (ofPages provider watermark s numbers) p
      (numbers.foldl (turn settings provider watermark) p) := by
  induction numbers generalizing p with
  | nil => exact .refl h
  | cons number rest ih =>
    have hfirst : Moves settings provider s (ofPage provider watermark s number) p
        (turn settings provider watermark p number) := moves_turn h number
    exact hfirst.trans (ih hfirst.knows)

/-- What a pass does follows from the pages that it asks for. -/
theorem moves_run (s : Store) :
    Moves settings provider s
      (ofPages provider watermark s (asked provider watermark pageLimit 1)) { store := s }
      (run settings provider watermark s) := by
  rw [run, fromPage_eq_foldl]
  exact moves_foldl_turn (s := s) (fun _ => rfl) _

end Account

end Ingest

end BenchTracker
