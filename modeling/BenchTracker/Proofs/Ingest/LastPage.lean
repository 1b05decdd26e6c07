import BenchTracker.Proofs.Ingest.Accounting

/-!
# The last page of a pass

A pass ends with the first page that fails, is empty or has a build that is not above the
watermark. It asks for the pages up to this one, each once and in order, and for the logs of the
jobs on them in between, and its report counts what it found there.
-/

namespace BenchTracker

namespace Ingest

variable {settings : Settings} {provider : Provider} {watermark : Nat} {s : Store}

/-! ## The account of several pages -/

namespace Account

theorem requests_ofPages (numbers : List Nat) :
    (ofPages provider watermark s numbers).requests = numbers.flatMap fun number =>
      .page number :: (taken provider watermark number).flatMap (logRequests s) := by
  induction numbers with
  | nil => rfl
  | cons number rest ih => exact congrArg (_ ++ ·) ih

theorem builds_ofPages (numbers : List Nat) :
    (ofPages provider watermark s numbers).builds =
      numbers.flatMap (taken provider watermark) := by
  induction numbers with
  | nil => rfl
  | cons number rest ih => exact congrArg (_ ++ ·) ih

/-- Where only the last page can fail, it decides how many pages are received. -/
theorem ofPages_concat {numbers : List Nat} {last : Nat}
    (h : ∀ number ∈ numbers, failure? provider number = none) :
    (ofPages provider watermark s (numbers ++ [last])).pages =
        numbers.length + (if (failure? provider last).isNone then 1 else 0) ∧
      (ofPages provider watermark s (numbers ++ [last])).failure = failure? provider last := by
  induction numbers with
  | nil => simp [ofPages, append, ofPage]
  | cons number rest ih =>
    obtain ⟨hnumber, hrest⟩ := List.forall_mem_cons.1 h
    obtain ⟨hpages, hfailure⟩ := ih hrest
    have hcons : ofPages provider watermark s (number :: rest ++ [last]) =
        (ofPage provider watermark s number).append
          (ofPages provider watermark s (rest ++ [last])) := rfl
    rw [hcons, append]
    simp only [hpages, hfailure, ofPage, hnumber, List.length_cons]
    simp
    omega

end Account

/-! ## Pages that end a pass -/

/-- The page fails, is empty or has a build that is not above the watermark. -/
def Stops (provider : Provider) (watermark number : Nat) : Prop :=
  (∃ cause, provider.page number = .error cause) ∨ provider.page number = .ok [] ∨
    ∃ builds, provider.page number = .ok builds ∧ ∃ b ∈ builds, b.number.toNat ≤ watermark

theorem stops_iff_not_goesOn {number : Nat} :
    Stops provider watermark number ↔ ¬ GoesOn provider watermark number := by
  rw [Stops, GoesOn]
  cases provider.page number with
  | error cause => simp
  | ok builds =>
    have hbelow : (∃ b ∈ builds, b.number.toNat ≤ watermark) ↔
        ¬ ∀ b ∈ builds, watermark < b.number.toNat := by simp
    simp only [reduceCtorEq, exists_false, false_or, Except.ok.injEq, exists_eq_left', hbelow,
      not_and_or, not_not, ne_eq]

theorem asked_eq_range' {first count fuel : Nat} (hfuel : count < fuel)
    (hstops : Stops provider watermark (first + count))
    (hleast : ∀ n, first ≤ n → n < first + count → ¬ Stops provider watermark n) :
    asked provider watermark fuel first = List.range' first (count + 1) := by
  induction count generalizing first fuel with
  | zero =>
    obtain ⟨fuel, rfl⟩ : ∃ k, fuel = k + 1 := ⟨fuel - 1, by omega⟩
    rw [asked, if_neg (stops_iff_not_goesOn.1 (by simpa using hstops))]
    rfl
  | succ count ih =>
    obtain ⟨fuel, rfl⟩ : ∃ k, fuel = k + 1 := ⟨fuel - 1, by omega⟩
    have hgoes : GoesOn provider watermark first := by
      by_contra h
      exact hleast first (by omega) (by omega) (stops_iff_not_goesOn.2 h)
    have hnext : first + 1 + count = first + (count + 1) := by omega
    have hrest : asked provider watermark fuel (first + 1) = List.range' (first + 1) (count + 1) :=
      ih (by omega) (hnext ▸ hstops) fun n hle hlt => hleast n (by omega) (by omega)
    rw [asked, if_pos hgoes, hrest]
    rfl

/-- The builds that a pass takes in from the pages up to the given one. -/
def takenUpTo (provider : Provider) (watermark last : Nat) : List Build :=
  (List.range' 1 last).flatMap (taken provider watermark)

/-- The accounts of a pass that ends with the page `last`. -/
structure Accounted (settings : Settings) (provider : Provider) (watermark : Nat) (s : Store)
    (last : Nat) (p : Progress) : Prop where
  /-- Each page is asked for once, and in front of the next one the logs of its jobs. -/
  requests : p.requests = (List.range' 1 last).flatMap fun number =>
    .page number :: (taken provider watermark number).flatMap (logRequests s)
  work : p.report.work = (takenUpTo provider watermark last).length
  pages : p.report.pages = if (failure? provider last).isNone then last else last - 1
  transportError : p.report.transportError = failure? provider last
  stepErrors : p.report.stepErrors =
    (unfetched provider ((takenUpTo provider watermark last).flatMap (eligible s))).length
  valueErrors : p.report.valueErrors =
    rejections settings provider ((takenUpTo provider watermark last).flatMap (eligible s))

theorem failure?_of_not_stops {number : Nat} (h : ¬ Stops provider watermark number) :
    failure? provider number = none := by
  rw [failure?]
  cases hpage : provider.page number with
  | error cause => exact absurd (.inl ⟨cause, hpage⟩) h
  | ok builds => rfl

theorem accounted_of_moves {last : Nat} (hpos : 1 ≤ last)
    (hleast : ∀ n, 1 ≤ n → n < last → ¬ Stops provider watermark n) {p : Progress}
    (h : Account.Moves settings provider s
      (.ofPages provider watermark s (List.range' 1 last)) { store := s } p) :
    Accounted settings provider watermark s last p := by
  obtain ⟨count, rfl⟩ : ∃ count, last = 1 + count := ⟨last - 1, by omega⟩
  have hconcat : List.range' 1 (1 + count) = List.range' 1 count ++ [1 + count] := by
    rw [Nat.add_comm 1 count, List.range'_1_concat, Nat.add_comm]
  have hbefore : ∀ n ∈ List.range' 1 count, failure? provider n = none := by
    intro n hn
    rw [List.mem_range'_1] at hn
    exact failure?_of_not_stops (hleast n hn.1 (by omega))
  obtain ⟨hpages, hfailure⟩ : (Account.ofPages provider watermark s
      (List.range' 1 count ++ [1 + count])).pages = _ ∧ _ := Account.ofPages_concat hbefore
  rw [← hconcat] at hpages hfailure
  exact {
    requests := by rw [h.requests, Account.requests_ofPages, List.nil_append]
    work := by rw [h.work, Account.builds_ofPages, Nat.zero_add, takenUpTo]
    pages := by
      rw [h.pages, hpages, List.length_range', Nat.zero_add]
      split
      · exact Nat.add_comm count 1
      · exact (Nat.add_sub_cancel_left 1 count).symm
    transportError := by rw [h.transportError, hfailure, Option.or_none]
    stepErrors := by rw [h.stepErrors, Account.builds_ofPages, Nat.zero_add, takenUpTo]
    valueErrors := by rw [h.valueErrors, Account.builds_ofPages, Nat.zero_add, takenUpTo] }

/-- A pass ends with the first page that fails, is empty or has a build that is not above the
watermark, if the numbers of pages reach this far. The bound on them does not matter then. -/
theorem run_accounted (settings : Settings) (provider : Provider) (watermark : Nat) (s : Store)
    {last : Nat} (hpos : 1 ≤ last) (hlimit : last < UInt32.size)
    (hstops : Stops provider watermark last)
    (hleast : ∀ n, 1 ≤ n → n < last → ¬ Stops provider watermark n) :
    Accounted settings provider watermark s last (run settings provider watermark s) ∧
      ∀ fuel, last ≤ fuel → fromPage settings provider watermark fuel 1 { store := s } =
        run settings provider watermark s := by
  have hasked (fuel : Nat) (hfuel : last ≤ fuel) :
      asked provider watermark fuel 1 = List.range' 1 last := by
    obtain ⟨count, rfl⟩ : ∃ count, last = 1 + count := ⟨last - 1, by omega⟩
    rw [Nat.add_comm]
    exact asked_eq_range' (by omega) hstops hleast
  have hrun : last ≤ pageLimit := by
    have : pageLimit = UInt32.size - 1 := rfl
    omega
  constructor
  · refine accounted_of_moves hpos hleast ?_
    rw [← hasked pageLimit hrun]
    exact Account.moves_run s
  · intro fuel hfuel
    rw [run, fromPage_eq_foldl, fromPage_eq_foldl, hasked fuel hfuel, hasked pageLimit hrun]

/-- The second page has a build that is not above the watermark. -/
theorem run_accounted_two_pages :
    let settings : Settings := { aliases := .ofTexts [["4090"]], focus := ⟨4, 4, 4⟩ }
    let jobs : List Job := [⟨some "perf", some 0, some "log"⟩, ⟨some "perf", some 0, none⟩,
      ⟨some "perf", some 1, some "log"⟩, ⟨some "lint", some 0, some "log"⟩]
    let pages : List (List Build) := [[⟨9, jobs⟩], [⟨8, jobs⟩, ⟨5, jobs⟩]]
    let provider : Provider :=
      ⟨fun number => .ok (pages.getD (number - 1) []), fun _ => .error .unreachable⟩
    let p := run settings provider 5 (Store.empty.register "perf")
    p.requests = [.page 1, .log "log", .page 2, .log "log"] ∧ p.report.work = 2 ∧
      p.report.pages = 2 ∧ p.report.transportError.isNone ∧ p.report.stepErrors = 4 ∧
      p.report.valueErrors = 0 := by
  intro settings jobs pages provider p
  have hstops : Stops provider 5 2 := .inr (.inr ⟨_, rfl, ⟨5, jobs⟩, by simp [pages]⟩)
  have hleast : ∀ n, 1 ≤ n → n < 2 → ¬ Stops provider 5 n := by
    intro n hle hlt
    obtain rfl : n = 1 := by omega
    exact fun h => stops_iff_not_goesOn.1 h (by decide)
  obtain ⟨haccounts, -⟩ := run_accounted settings provider 5 (Store.empty.register "perf")
    (by decide) (by decide) hstops hleast
  refine ⟨haccounts.requests.trans ?_, haccounts.work.trans ?_, haccounts.pages.trans ?_, ?_,
    haccounts.stepErrors.trans ?_, haccounts.valueErrors.trans ?_⟩
  · decide
  · decide
  · decide
  · rw [haccounts.transportError]
    decide
  · decide
  · rfl

end Ingest

end BenchTracker
