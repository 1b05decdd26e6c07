import BenchTracker.Ingest
import BenchTracker.Proofs.Store.Additions

/-!
# Taking builds in

What a build adds to a store and when it is complete depends on the steps that the store knows, but
not on its samples. So a run over several builds adds what each of them adds by itself, and its
latest build is the highest complete one.
-/

namespace BenchTracker

namespace Ingest

variable {settings : Settings} {provider : Provider}

/-! ## Jobs -/

theorem build_of_aggregate {focus : Kernel} {build : UInt64} {xs : List Measurement} {x : Sample}
    (h : aggregate focus build xs = some x) : x.build = build := by
  unfold aggregate Classified.sample? at h
  split at h
  · cases h
  · split at h
    · cases h
      rfl
    · cases h

theorem logResult_eq_produced {build : UInt64} {log : List Char} {device : String} {x : Sample} :
    logResult settings build log = .produced device x ↔
      ∃ xs, Log.read settings.aliases settings.chain log = .measured device xs ∧
        aggregate settings.focus build xs = some x := by
  unfold logResult
  cases Log.read settings.aliases settings.chain log with
  | noDevice => simp
  | invalid d errors => simp
  | measured d xs =>
    cases h : aggregate settings.focus build xs with
    | none => simp [h]
    | some y => grind

/-- A job produces a sample if its log can be fetched and read, and has the focus kernel. -/
theorem jobResult_eq_produced {build : UInt64} {step device : String} {job : Job} {x : Sample} :
    jobResult settings provider build step job = .produced device x ↔
      ∃ url text xs, job.logUrl = some url ∧ provider.log url = .ok text ∧
        Log.read settings.aliases settings.chain (Log.unescape text.toList) =
          .measured device xs ∧
        aggregate settings.focus build xs = some x := by
  unfold jobResult
  cases job.logUrl with
  | none => simp
  | some url =>
    cases h : provider.log url with
    | error cause => simp [h]
    | ok text => simp [logResult_eq_produced, h]

theorem JobResult.isProduced_iff {r : JobResult} :
    r.isProduced = true ↔ ∃ device x, r = .produced device x := by
  cases r <;> simp [isProduced]

/-! ## What a build adds -/

/-- The addition of a job that produced a sample. -/
def JobResult.addition? (step : String) : JobResult → Option Addition
  | produced device x => some ⟨step, device, x⟩
  | _ => none

theorem JobResult.addition?_eq_some {step : String} {r : JobResult} {a : Addition} :
    r.addition? step = some a ↔ a.step = step ∧ r = .produced a.device a.sample := by
  obtain ⟨astep, device, x⟩ := a
  cases r <;> simp [addition?, eq_comm]

/-- What a build adds to a store that knows the same steps as `s`. -/
def additions (settings : Settings) (provider : Provider) (s : Store) (build : Build) :
    List Addition :=
  (results settings provider s build).filterMap fun r => r.2.2.addition? r.1

/-- Each job of a known step succeeded and produced a sample. -/
def Complete (settings : Settings) (provider : Provider) (s : Store) (build : Build) : Prop :=
  ∀ t ∈ targeted s build, t.2.succeeded = true ∧
    (jobResult settings provider build.number t.1 t.2).isProduced = true

theorem mem_targeted {s : Store} {build : Build} {step : String} {job : Job} :
    (step, job) ∈ targeted s build ↔
      job ∈ build.jobs ∧ job.name = some step ∧ s.knows step = true := by
  simp only [targeted, List.mem_filterMap]
  constructor
  · rintro ⟨job', hjob, h⟩
    split at h
    · split at h
      · cases h
        exact ⟨hjob, ‹_›, ‹_›⟩
      · cases h
    · cases h
  · rintro ⟨hjob, hname, hknows⟩
    exact ⟨job, hjob, by simp [hname, hknows]⟩

theorem targeted_congr {s t : Store} (h : ∀ step, s.knows step = t.knows step) :
    targeted s = targeted t := by
  funext build
  simp only [targeted, h]

theorem additions_congr {s t : Store} (h : ∀ step, s.knows step = t.knows step) :
    additions settings provider s = additions settings provider t := by
  funext build
  rw [additions, additions, results, results, targeted_congr h]

theorem complete_congr {s t : Store} (h : ∀ step, s.knows step = t.knows step) {build : Build} :
    Complete settings provider s build ↔ Complete settings provider t build := by
  rw [Complete, Complete, targeted_congr h]

theorem jobResult_of_log {p q : Provider} (h : p.log = q.log) :
    jobResult settings p = jobResult settings q := by
  funext build step job
  simp only [jobResult, h]

/-- Of a provider only the logs matter, not the pages. -/
theorem additions_of_log {p q : Provider} (h : p.log = q.log) (s : Store) :
    additions settings p s = additions settings q s := by
  funext build
  rw [additions, additions, results, results, jobResult_of_log h]

theorem complete_of_log {p q : Provider} (h : p.log = q.log) {s : Store} {build : Build} :
    Complete settings p s build ↔ Complete settings q s build := by
  rw [Complete, Complete, jobResult_of_log h]

theorem mem_additions {s : Store} {build : Build} {a : Addition} :
    a ∈ additions settings provider s build ↔
      ∃ job, (a.step, job) ∈ targeted s build ∧ job.succeeded = true ∧
        jobResult settings provider build.number a.step job = .produced a.device a.sample := by
  simp only [additions, results, List.mem_filterMap, List.mem_map, List.mem_filter,
    JobResult.addition?_eq_some]
  constructor
  · rintro ⟨r, ⟨⟨step, job⟩, ⟨hmem, hsucc⟩, rfl⟩, rfl, hr⟩
    exact ⟨job, hmem, hsucc, hr⟩
  · rintro ⟨job, hmem, hsucc, hr⟩
    exact ⟨_, ⟨(a.step, job), ⟨hmem, hsucc⟩, rfl⟩, rfl, hr⟩

theorem knows_of_mem_additions {s : Store} {build : Build} {a : Addition}
    (h : a ∈ additions settings provider s build) : s.knows a.step = true := by
  obtain ⟨job, hmem, -⟩ := mem_additions.1 h
  exact (mem_targeted.1 hmem).2.2

theorem build_of_mem_additions {s : Store} {build : Build} {a : Addition}
    (h : a ∈ additions settings provider s build) : a.sample.build = build.number := by
  obtain ⟨job, -, -, hr⟩ := mem_additions.1 h
  obtain ⟨url, text, xs, -, -, -, hx⟩ := jobResult_eq_produced.1 hr
  exact build_of_aggregate hx

/-! ## Taking one build in -/

theorem foldl_addTo (rs : List (String × Job × JobResult)) (s : Store) :
    rs.foldl (fun s r => r.2.2.addTo s r.1) s =
      s.addAll (rs.filterMap fun r => r.2.2.addition? r.1) := by
  induction rs generalizing s with
  | nil => rfl
  | cons r rest ih =>
    obtain ⟨step, job, result⟩ := r
    rw [List.foldl_cons, ih]
    cases result <;> rfl

theorem store_addBuild (p : Progress) (build : Build) :
    (addBuild settings provider p build).store =
      p.store.addAll (additions settings provider p.store build) :=
  foldl_addTo _ _

/-- The counts tell whether a build is complete. -/
theorem length_produced_eq_iff {s : Store} {build : Build} :
    ((results settings provider s build).filter (·.2.2.isProduced)).length =
      (targeted s build).length ↔ Complete settings provider s build := by
  let ok (t : String × Job) : Bool :=
    t.2.succeeded && (jobResult settings provider build.number t.1 t.2).isProduced
  have hlength : ((results settings provider s build).filter (·.2.2.isProduced)).length =
      ((targeted s build).filter ok).length := by
    rw [results, List.filter_map, List.length_map, List.filter_filter]
    congr 2
    funext t
    simp [ok, Bool.and_comm]
  rw [hlength, List.length_filter_eq_length_iff]
  simp [Complete, ok]

instance (s : Store) (build : Build) : Decidable (Complete settings provider s build) :=
  decidable_of_iff _ length_produced_eq_iff

theorem latest_addBuild_le_iff (p : Progress) (build : Build) (n : Nat) :
    (addBuild settings provider p build).report.latest.toNat ≤ n ↔
      p.report.latest.toNat ≤ n ∧
        (Complete settings provider p.store build → build.number.toNat ≤ n) := by
  simp only [addBuild, length_produced_eq_iff, UInt64.lt_iff_toNat_lt]
  by_cases hc : Complete settings provider p.store build
  · by_cases hlt : p.report.latest.toNat < build.number.toNat
    · rw [if_pos ⟨hc, hlt⟩]
      exact ⟨fun h => ⟨by omega, fun _ => h⟩, fun h => h.2 hc⟩
    · rw [if_neg fun h => hlt h.2]
      exact ⟨fun h => ⟨h, fun _ => by omega⟩, fun h => h.1⟩
  · rw [if_neg fun h => hc h.1]
    simp [hc]

theorem latest_addBuild_cases (p : Progress) (build : Build) :
    (addBuild settings provider p build).report.latest = p.report.latest ∨
      Complete settings provider p.store build ∧
        (addBuild settings provider p build).report.latest = build.number := by
  simp only [addBuild, length_produced_eq_iff]
  split
  · rename_i h
    exact .inr ⟨h.1, rfl⟩
  · exact .inl rfl

theorem knows_addBuild (p : Progress) (build : Build) (step : String) :
    (addBuild settings provider p build).store.knows step = p.store.knows step := by
  rw [store_addBuild]
  exact Store.knows_addAll (fun a ha => knows_of_mem_additions ha) step

/-! ## Taking several builds in -/

theorem store_foldl_addBuild (p : Progress) (builds : List Build) :
    (builds.foldl (addBuild settings provider) p).store =
      p.store.addAll (builds.flatMap (additions settings provider p.store)) := by
  induction builds generalizing p with
  | nil => rfl
  | cons build rest ih =>
    have hadds : additions settings provider (addBuild settings provider p build).store =
        additions settings provider p.store := additions_congr (knows_addBuild p build)
    rw [List.foldl_cons, ih, hadds, store_addBuild, List.flatMap_cons, Store.addAll_append]

/-- The latest build is the least bound of all complete builds. -/
theorem latest_foldl_le_iff (p : Progress) (builds : List Build) (n : Nat) :
    (builds.foldl (addBuild settings provider) p).report.latest.toNat ≤ n ↔
      p.report.latest.toNat ≤ n ∧ ∀ build ∈ builds,
        Complete settings provider p.store build → build.number.toNat ≤ n := by
  induction builds generalizing p with
  | nil => simp
  | cons build rest ih =>
    have hcomplete (b : Build) :
        Complete settings provider (addBuild settings provider p build).store b ↔
          Complete settings provider p.store b := complete_congr (knows_addBuild p build)
    simp only [List.foldl_cons, ih, hcomplete, latest_addBuild_le_iff, List.forall_mem_cons,
      and_assoc]

/-- The latest build is one of the complete ones, unless there was none. -/
theorem latest_foldl_cases (p : Progress) (builds : List Build) :
    (builds.foldl (addBuild settings provider) p).report.latest = p.report.latest ∨
      ∃ build ∈ builds, Complete settings provider p.store build ∧
        (builds.foldl (addBuild settings provider) p).report.latest = build.number := by
  induction builds generalizing p with
  | nil => exact .inl rfl
  | cons build rest ih =>
    rw [List.foldl_cons]
    rcases ih (addBuild settings provider p build) with h | ⟨b, hb, hc, h⟩
    · rcases latest_addBuild_cases p build with h' | ⟨hc, h'⟩
      · exact .inl (h.trans h')
      · exact .inr ⟨build, List.mem_cons_self, hc, h.trans h'⟩
    · exact .inr ⟨b, List.mem_cons_of_mem _ hb,
        (complete_congr (knows_addBuild p build)).1 hc, h⟩

/-! ## The order of taking in -/

theorem firstSample?_flatMap_of_ne {s : Store} {builds : List Build} {build : UInt64}
    (h : ∀ b ∈ builds, b.number ≠ build) (step device : String) :
    firstSample? (builds.flatMap (additions settings provider s)) step device build = none := by
  refine firstSample?_eq_none.2 fun a ha hfor => ?_
  obtain ⟨b, hb, hab⟩ := List.mem_flatMap.1 ha
  exact h b hb ((build_of_mem_additions hab).symm.trans hfor.2.2)

/-- The samples of a build come from that build alone, however often it is taken in. -/
theorem firstSample?_flatMap_of_mem {s : Store} {builds : List Build} {b : Build}
    (hinj : ∀ c ∈ builds, c.number = b.number → c = b) (hb : b ∈ builds) (step device : String) :
    firstSample? (builds.flatMap (additions settings provider s)) step device b.number =
      firstSample? (additions settings provider s b) step device b.number := by
  induction builds with
  | nil => cases hb
  | cons c rest ih =>
    rw [List.flatMap_cons, firstSample?_append]
    have hrest : ∀ d ∈ rest, d.number = b.number → d = b :=
      fun d hd => hinj d (List.mem_cons_of_mem _ hd)
    by_cases hmem : b ∈ rest
    · rw [ih hrest hmem]
      by_cases hc : c.number = b.number
      · rw [hinj c List.mem_cons_self hc, Option.or_self]
      · have hnone : firstSample? (additions settings provider s c) step device b.number = none :=
          firstSample?_eq_none.2 fun a ha hfor =>
            hc ((build_of_mem_additions ha).symm.trans hfor.2.2)
        rw [hnone, Option.none_or]
    · obtain rfl : b = c := (List.mem_cons.1 hb).resolve_right hmem
      have hne : ∀ d ∈ rest, d.number ≠ b.number := fun d hd he => hmem (hrest d hd he ▸ hd)
      rw [firstSample?_flatMap_of_ne hne, Option.or_none]

/-- In the order of the builds it does not matter in which order and how often builds are taken
in. -/
theorem finalizeAll_addAll_flatMap_congr {s : Store} {builds others : List Build}
    (hmem : ∀ b, b ∈ builds ↔ b ∈ others)
    (hinj : ∀ b ∈ builds, ∀ c ∈ builds, b.number = c.number → b = c) :
    (s.addAll (builds.flatMap (additions settings provider s))).finalizeAll =
      (s.addAll (others.flatMap (additions settings provider s))).finalizeAll := by
  have hknows (bs : List Build) (a : Addition)
      (ha : a ∈ bs.flatMap (additions settings provider s)) : s.knows a.step = true := by
    obtain ⟨b, -, hab⟩ := List.mem_flatMap.1 ha
    exact knows_of_mem_additions hab
  refine Store.finalizeAll_addAll_congr (hknows builds) (hknows others)
    (fun step device => ?_) (fun step device build => ?_)
  · simp only [List.mem_flatMap, hmem]
  · by_cases h : ∃ b ∈ builds, b.number = build
    · obtain ⟨b, hb, rfl⟩ := h
      rw [firstSample?_flatMap_of_mem (fun c hc => hinj c hc b hb) hb,
        firstSample?_flatMap_of_mem (fun c hc => hinj c ((hmem c).2 hc) b hb) ((hmem b).1 hb)]
    · have hne : ∀ b ∈ builds, b.number ≠ build := fun b hb he => h ⟨b, hb, he⟩
      rw [firstSample?_flatMap_of_ne hne,
        firstSample?_flatMap_of_ne fun b hb => hne b ((hmem b).2 hb)]

end Ingest

end BenchTracker
