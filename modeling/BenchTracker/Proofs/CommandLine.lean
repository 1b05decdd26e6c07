import BenchTracker.CommandLine
import BenchTracker.Proofs.Pass.Parts

/-!
# What makes the program fail

Only missing access, a focus text that names no kernel, and tables that cannot be read make the
program fail, and then nothing is changed. Whatever happens behind these checks is counted, logged
or made up for, so the pass comes to an end with its summary.
-/

namespace BenchTracker

/-! ## Reading the tables -/

namespace Tables

variable {d : Directory} {folder name : String} {α : Type} {read : String → Except Json.Fault α}

/-- A file of the folder cannot be opened or has the wrong contents. -/
inductive Unreadable (d : Directory) (folder name : String)
    (read : String → Except Json.Fault α) : Failure → Prop where
  | closed {fault : FileFault} (h : d.read (Path.join folder name) = .error fault) :
    Unreadable d folder name read (.table (Path.join folder name) fault.message)
  | malformed {text : String} {fault : Json.Fault}
    (hopen : d.read (Path.join folder name) = .ok text) (h : read text = .error fault) :
    Unreadable d folder name read (.table (Path.join folder name) fault.message)

theorem readFile_cases (d : Directory) (folder name : String)
    (read : String → Except Json.Fault α) :
    (∃ e, readFile d folder name read = .error e ∧ Unreadable d folder name read e) ∨
      ∃ x, readFile d folder name read = .ok x ∧ ∀ e, ¬ Unreadable d folder name read e := by
  cases hopen : d.read (Path.join folder name) with
  | error fault => exact .inl ⟨_, by simp only [readFile, hopen], .closed hopen⟩
  | ok text =>
    cases hread : read text with
    | error fault =>
      refine .inl ⟨_, ?_, .malformed hopen hread⟩
      simp only [readFile, hopen, hread, Except.mapError]
    | ok x =>
      refine .inr ⟨x, by simp only [readFile, hopen, hread, Except.mapError], fun e h => ?_⟩
      cases h with
      | closed h => simp [hopen] at h
      | malformed h hfault =>
        cases hopen.symm.trans h
        simp [hread] at hfault

/-- One of the three files is no good. -/
inductive Faulty (d : Directory) (folder : String) (e : Failure) : Prop where
  | devices (h : Unreadable d folder devicesFile readDevices e)
  | peaks (h : Unreadable d folder peaksFile PeakTable.read e)
  | steps (h : Unreadable d folder stepsFile Store.read e)

theorem load_cases (d : Directory) (folder : String) :
    (∃ e, load d folder = .error e ∧ Faulty d folder e) ∨
      ∃ tables, load d folder = .ok tables ∧ ∀ e, ¬ Faulty d folder e := by
  unfold load
  rcases readFile_cases d folder devicesFile readDevices with
    ⟨e, hread, h⟩ | ⟨devices, hread, hdevices⟩
  · exact .inl ⟨e, by rw [hread]; rfl, .devices h⟩
  rw [hread]
  rcases readFile_cases d folder peaksFile PeakTable.read with
    ⟨e, hread, h⟩ | ⟨peaks, hread, hpeaks⟩
  · exact .inl ⟨e, by rw [hread]; rfl, .peaks h⟩
  rw [hread]
  rcases readFile_cases d folder stepsFile Store.read with
    ⟨e, hread, h⟩ | ⟨steps, hread, hsteps⟩
  · exact .inl ⟨e, by rw [hread]; rfl, .steps h⟩
  rw [hread]
  refine .inr ⟨⟨devices, peaks, steps⟩, rfl, fun e h => ?_⟩
  cases h with
  | devices h => exact hdevices e h
  | peaks h => exact hpeaks e h
  | steps h => exact hsteps e h

end Tables

namespace CommandLine

variable {args : List String} {a : Arguments} {env : String → Option String}
  {connect : String → String → Provider} {d : Directory}

/-- What makes the program fail, with the error that it reports. -/
inductive Fatal (a : Arguments) (env : String → Option String) (d : Directory) :
    ProgramError → Prop where
  | url (hargument : a.positionals[0]? = none) (henv : env "ACC_TREND_URL" = none) :
    Fatal a env d .noAccess
  | token (hargument : a.positionals[1]? = none) (henv : env "ACC_TREND_TOKEN" = none) :
    Fatal a env d .noAccess
  | focus (h : Kernel.read? (textAt a 4 "23x23x23") = none) :
    Fatal a env d (.parameters (.invalidFocus (textAt a 4 "23x23x23")))
  | tables {cause : Failure} (h : Tables.Faulty d (a.dir.getD ".") cause) :
    Fatal a env d (.tables cause)

/-- The program fails for one of the reasons and leaves the directory as it was, or there is no
reason and it finishes a pass. -/
theorem exec_cases (env : String → Option String) (connect : String → String → Provider)
    (d : Directory) (hargs : Arguments.read args = .ok a) :
    (∃ e, exec args env connect d = (.failed e, d) ∧ Fatal a env d e) ∨
      (∀ e, ¬ Fatal a env d e) ∧ ∃ url token params tables result,
        (Options.of a env).url = some url ∧ (Options.of a env).token = some token ∧
        Parameters.ofRaw? (rawParameters a) = some params ∧
        Tables.load d (a.dir.getD ".") = .ok tables ∧
        result = Pass.run ((Options.of a env).request params) tables (connect url token)
          (Options.of a env).sink d ∧
        exec args env connect d = (.finished (.of a env) result, result.directory) := by
  have hexec : exec args env connect d = execOptions (.of a env) connect d := by rw [exec, hargs]
  rw [hexec]
  cases hurl : (Options.of a env).url with
  | none =>
    obtain ⟨hargument, henv⟩ := Option.or_eq_none_iff.1 hurl
    exact .inl ⟨_, by simp only [execOptions, hurl], .url hargument henv⟩
  | some url =>
    cases htoken : (Options.of a env).token with
    | none =>
      obtain ⟨hargument, henv⟩ := Option.or_eq_none_iff.1 htoken
      exact .inl ⟨_, by simp only [execOptions, hurl, htoken], .token hargument henv⟩
    | some token =>
      cases hparams : Parameters.ofRaw? (Options.of a env).raw with
      | none =>
        refine .inl ⟨_, by simp only [execOptions, hurl, htoken, hparams]; rfl, .focus ?_⟩
        exact Option.map_eq_none_iff.1 hparams
      | some params =>
        rcases Tables.load_cases d (Options.of a env).folder with
          ⟨cause, hload, hfaulty⟩ | ⟨tables, hload, hreadable⟩
        · refine .inl ⟨_, ?_, .tables hfaulty⟩
          simp only [execOptions, hurl, htoken, hparams, Pass.execInFolder, Options.request, hload]
        · refine .inr ⟨fun e h => ?_, url, token, params, tables, _, rfl, rfl, hparams, hload, rfl,
            ?_⟩
          · cases h with
            | url hargument henv => simp [Options.of, hargument, henv] at hurl
            | token hargument henv => simp [Options.of, hargument, henv] at htoken
            | focus h => cases hparams.symm.trans (Option.map_eq_none_iff.2 h)
            | tables h => exact hreadable _ h
          · simp only [execOptions, hurl, htoken, hparams, Pass.execInFolder, Options.request,
              hload]

/-- The directory that is left can be told from how the run ends. -/
theorem directory_run (args : List String) (env : String → Option String)
    (connect : String → String → Provider) (d : Directory) :
    (run args env connect d).directory d = (exec args env connect d).2 := by
  cases hargs : Arguments.read args with
  | error why => simp only [run, exec, hargs, Outcome.directory]
  | ok a =>
    rcases exec_cases env connect d hargs with
      ⟨e, hexec, -⟩ | ⟨-, -, -, -, -, result, -, -, -, -, -, hexec⟩
    · simp only [run, hexec, Outcome.directory]
    · simp only [run, hexec, Outcome.directory]

/-- The program fails exactly for these reasons, and leaves everything as it was. Otherwise it
finishes a pass, whatever the provider, the cache and the folder of the charts are like, and sums up
the store that the pass has gathered. -/
theorem fails_iff (env : String → Option String) (connect : String → String → Provider)
    (d : Directory) (hargs : Arguments.read args = .ok a) :
    let outcome := run args env connect d
    let left := (exec args env connect d).2
    (outcome.code = 1 ↔ ∃ e, Fatal a env d e) ∧
      (outcome.code = 1 → left = d ∧ ∃ e, outcome = .failed e ∧ Fatal a env d e) ∧
      ((¬ ∃ e, Fatal a env d e) → outcome.code = 0 ∧ ∃ url token params tables result,
        (Options.of a env).url = some url ∧ (Options.of a env).token = some token ∧
        Parameters.ofRaw? (rawParameters a) = some params ∧
        Tables.load d (a.dir.getD ".") = .ok tables ∧
        outcome = .finished (.of a env) result ∧ left = result.directory ∧
        result = Pass.run ((Options.of a env).request params) tables (connect url token)
          (Options.of a env).sink d ∧
        result.rollup = Pass.rollup ((Options.of a env).request params) tables
          (Pass.store ((Options.of a env).request params) tables (connect url token) d)) := by
  intro outcome left
  rcases exec_cases env connect d hargs with ⟨e, hexec, hfatal⟩ |
    ⟨hnone, url, token, params, tables, result, hurl, htoken, hparams, hload, hresult, hexec⟩
  · have houtcome : outcome = .failed e := congrArg Prod.fst hexec
    have hleft : left = d := congrArg Prod.snd hexec
    rw [houtcome]
    exact ⟨iff_of_true rfl ⟨e, hfatal⟩, fun _ => ⟨hleft, e, rfl, hfatal⟩,
      fun hnot => absurd ⟨e, hfatal⟩ hnot⟩
  · have houtcome : outcome = .finished (.of a env) result := congrArg Prod.fst hexec
    have hleft : left = result.directory := congrArg Prod.snd hexec
    have hcode : outcome.code = 0 := by rw [houtcome, Outcome.code]
    refine ⟨iff_of_false (by omega) (fun ⟨e, h⟩ => hnone e h), fun h => by omega, fun _ => ?_⟩
    refine ⟨hcode, url, token, params, tables, result, hurl, htoken, hparams, hload, houtcome,
      hleft, hresult, ?_⟩
    rw [hresult, Pass.rollup_run]

/-- The watermark is no number, the second page cannot be had, and a folder stands where the series
would be written. The pass comes to its end and reports both troubles. -/
theorem fails_iff_troubled :
    let args := ["https://ci", "secret", "--dir", "data", "--chart-dir", "data"]
    let connect : String → String → Provider := fun url _ =>
      ⟨fun number => if number = 1 then .ok [⟨9, []⟩] else .error (.status url 502),
        fun _ => .error .unreachable⟩
    let d : Directory := ⟨[(["data"], .folder),
      (["buildkite-devs.json", "data"], .file "[]"),
      (["buildkite-metric.json", "data"], .file "\x7b\x7d"),
      (["buildkite-steps.json", "data"], .file "\x7b\"perf\":\x7b\x7d\x7d"),
      (["buildkite-23x23x23.last", "data"], .file "nine"),
      (["buildkite-23x23x23.json.tmp", "data"], .folder)], []⟩
    let outcome := run args (fun _ => none) connect d
    outcome.logged.map (·.2) =
        [⟨.warn, .cache⟩, ⟨.warn, .fetch⟩, ⟨.warn, .run⟩] ∧
      outcome.code = 0 ∧ ∃ options result, outcome = .finished options result := by
  intro args connect d outcome
  have hargs : Arguments.read args = .ok
      { positionals := ["https://ci", "secret"], dir := some "data", chartDir := some "data" } := by
    rfl
  have hlogged : outcome.logged.map (·.2) =
      [⟨.warn, .cache⟩, ⟨.warn, .fetch⟩, ⟨.warn, .run⟩] := by
    decide +kernel
  have hcode : outcome.code = 0 := by decide +kernel
  obtain ⟨hiff, -, hfinished⟩ := fails_iff (fun _ => none) connect d hargs
  have hnone : ¬ ∃ e, Fatal _ (fun _ => none) d e := fun h => by
    have hfails : outcome.code = 1 := hiff.2 h
    omega
  obtain ⟨-, -, -, -, -, result, -, -, -, -, hresult, -⟩ := hfinished hnone
  exact ⟨hlogged, hcode, _, result, hresult⟩

end CommandLine

end BenchTracker
