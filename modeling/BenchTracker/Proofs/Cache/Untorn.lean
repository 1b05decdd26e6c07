import BenchTracker.Proofs.Cache.Foci
import BenchTracker.Proofs.Cache.Stopping
import BenchTracker.Proofs.Directory.Changes

/-!
# Saves that leave no file in part

A save that stops at an error or a crash leaves each file of the cache as it was or complete, and
the watermark is new only if the series are. Besides them it touches the two files beside them and
folders that were missing on the way, and nothing else.
-/

namespace BenchTracker

namespace Directory

variable {d d' : Directory} {folder : String} {names : List String} {steps : List Step}

/-- Steps that stop in the second part have done all of the first one. -/
theorem Stops.append {between : Directory} {rest : List Step}
    (h : d.performAll steps = (between, none)) (hrest : Stops between rest d') :
    Stops d (steps ++ rest) d' := by
  induction steps generalizing d with
  | nil =>
    obtain rfl : d = between := congrArg Prod.fst h
    exact hrest
  | cons step steps ih =>
    rw [performAll] at h
    split at h
    · rename_i hperform
      exact .next hperform (ih h)
    · cases h

/-- Wherever steps on some files of a folder stop, nothing else has changed. -/
theorem Stops.changesOnly (hnames : ∀ name ∈ names, Path.IsName name)
    (hsteps : ∀ step ∈ steps, step.On folder names) (h : Stops d steps d') :
    ChangesOnly folder names d d' := by
  induction h with
  | here d steps => exact .refl folder names d
  | @failing d d' step fault rest hperform =>
    have hstep := changesOnly_perform hnames (hsteps step List.mem_cons_self) d
    rwa [hperform] at hstep
  | making =>
    have hstep := hsteps _ List.mem_cons_self
    cases hstep
  | writing text rest hwrite =>
    have hstep := hsteps _ List.mem_cons_self
    cases hstep with
    | write _ hname => exact changesOnly_write (hnames _ hname) hname hwrite
  | @next d _ _ _ _ hperform _ ih =>
    obtain ⟨hfirst, hrest⟩ := List.forall_mem_cons.1 hsteps
    have hstep := changesOnly_perform hnames hfirst d
    rw [hperform] at hstep
    exact hstep.trans (ih hrest)

end Directory

namespace Cache

open Directory

variable {c : Cache} {d d' : Directory} {s : Store} {watermark : Nat} {place : Place}

/-- The places on the way to the folder of a cache. -/
def way (c : Cache) (d : Directory) : List Place :=
  along (d.start c.folder) (Path.names c.folder)

/-- What a save may touch: its two files, those that are renamed to them, and folders that were
missing on the way. -/
inductive Touched (c : Cache) (d d' : Directory) (place : Place) : Prop where
  | file {name : String} (hname : name ∈ c.names)
    (hplace : d'.locate (Path.join c.folder name) = .ok place)
  | parent (h : Made (c.way d) d d' place)

/-- A save first makes the folders that are missing and then changes its files. It may stop before
it has made all of them. -/
theorem exists_made_of_stops (h : Stops d (c.saveSteps s watermark) d') :
    ∃ made, KeepsFolders d made ∧
      (∀ place, made.at? place ≠ d.at? place → Made (c.way d) d made place) ∧
      ChangesOnly c.folder c.names made d' := by
  have hsplit : c.saveSteps s watermark = [.makeFolders c.folder] ++ c.replaceBoth s watermark :=
    rfl
  have hfront {front : List String} (hbegin : front <+: Path.names c.folder) (place : Place)
      (hplace : (d.makeFoldersFrom (d.start c.folder) front).1.at? place ≠ d.at? place) :
      Made (c.way d) d (d.makeFoldersFrom (d.start c.folder) front).1 place := by
    obtain ⟨back, hback⟩ := hbegin
    obtain ⟨hmem, hmissing, hmade⟩ := made_of_makeFoldersFrom hplace
    have hway : along (d.start c.folder) front <+: c.way d := by
      rw [way, ← hback]
      exact along_append _ front back
    exact ⟨hway.subset hmem, hmissing, hmade⟩
  rw [hsplit] at h
  rcases h.append_cases with hstop | ⟨made, hmake, hrest⟩
  -- No file has been touched as long as folders are missing.
  · obtain ⟨front, hbegin, rfl⟩ := hstop.makeFolders_cases
    exact ⟨_, (frames_makeFoldersFrom "" d _ front).toKeepsFolders, hfront hbegin, .refl _ _ _⟩
  · rw [performAll_singleton] at hmake
    obtain rfl : (d.makeFolders c.folder).1 = made := congrArg Prod.fst hmake
    exact ⟨_, keepsFolders_makeFolders d c.folder, hfront (List.prefix_refl _),
      hrest.changesOnly (fun _ => isName_of_mem_names) on_replaceBoth⟩

theorem keepsFolders_of_stops (h : Stops d (c.saveSteps s watermark) d') : KeepsFolders d d' := by
  obtain ⟨made, hkeeps, -, hchanges⟩ := exists_made_of_stops h
  exact hkeeps.trans hchanges.toKeepsFolders

theorem touched_of_stops (h : Stops d (c.saveSteps s watermark) d')
    (hplace : d'.at? place ≠ d.at? place) : c.Touched d d' place := by
  obtain ⟨made, -, hmade, hchanges⟩ := exists_made_of_stops h
  by_cases hsame : made.at? place = d.at? place
  · rw [← hsame] at hplace
    obtain ⟨name, hname, hlocate⟩ := hchanges.changed place hplace
    exact .file hname hlocate
  · obtain ⟨hmem, hmissing, hfolder⟩ := hmade place hsame
    exact .parent ⟨hmem, hmissing, hchanges.folder place hfolder⟩

/-- What a save leaves behind, wherever it stops. Each file stands at the place that its path leads
to then, and paths that led somewhere before still lead there. -/
structure Untorn (c : Cache) (s : Store) (watermark : Nat) (d d' : Directory) : Prop where
  paths : ∀ path place, d.locate path = .ok place → d'.locate path = .ok place
  series : ∀ place, d'.locate c.seriesPath = .ok place →
    d'.textAt? place = d.textAt? place ∨ d'.textAt? place = some s.toJson.pretty
  watermark : ∀ place, d'.locate c.watermarkPath = .ok place →
    d'.textAt? place = d.textAt? place ∨
      d'.textAt? place = some (Numeral.text watermark ++ "\n") ∧
        d'.read c.seriesPath = .ok s.toJson.pretty
  touched : ∀ place, d'.at? place ≠ d.at? place → c.Touched d d' place

theorem untorn_of_stops (h : Stops d (c.saveSteps s watermark) d') :
    c.Untorn s watermark d d' := by
  have hseries {place : Place} (hplace : d'.locate c.seriesPath = .ok place)
      (hframes : Frames (c.fileName ".json") d d') : d'.textAt? place = d.textAt? place := by
    obtain ⟨q, -, -, rfl⟩ := (locate_join (isName_series c)).1 hplace
    exact hframes.textAt?_eq q
  have hwatermark {place : Place} (hplace : d'.locate c.watermarkPath = .ok place)
      (hframes : Frames (c.fileName ".last") d d') : d'.textAt? place = d.textAt? place := by
    obtain ⟨q, -, -, rfl⟩ := (locate_join (isName_watermark c)).1 hplace
    exact hframes.textAt?_eq q
  refine ⟨fun _ _ => (keepsFolders_of_stops h).locate, fun place hplace => ?_,
    fun place hplace => ?_, fun _ => touched_of_stops h⟩
  · rcases stops_save_cases h with ⟨-, hframes | hread⟩ | hholds
    · exact .inl (hseries hplace hframes)
    · exact .inr ((read_eq_ok_iff hplace).1 hread)
    · exact .inr ((read_eq_ok_iff hplace).1 hholds.series)
  · rcases stops_save_cases h with ⟨hleaves, -⟩ | hholds
    · exact .inl (hwatermark hplace hleaves.frames)
    · exact .inr ⟨(read_eq_ok_iff hplace).1 hholds.watermark, hholds.series⟩

/-- Neither a save that fails nor one that is cut off leaves a file of the cache in part, and one
that does not fail has replaced both files. -/
theorem save_untorn (c : Cache) (d : Directory) (s : Store) (watermark : Nat) :
    (∀ d', Stops d (c.saveSteps s watermark) d' → c.Untorn s watermark d d') ∧
    c.Untorn s watermark d (c.save d s watermark).1 ∧
    ((c.save d s watermark).2 = none → c.Holds (c.save d s watermark).1 s watermark) := by
  refine ⟨?_, ?_, holds_of_save⟩
  · intro d' h
    exact untorn_of_stops h
  · exact untorn_of_stops (stops_performAll d _)

/-- The folder is missing, and the program is cut off when it has written one digit of the
watermark. The series are there, and there is no watermark file. -/
theorem save_untorn_cut_off :
    let c : Cache := ⟨"data", ⟨4, 4, 4⟩⟩
    let s := Store.empty.register "perf"
    let d : Directory := ⟨[(["notes"], .file "mine")], []⟩
    let between := (d.performAll ((c.saveSteps s 12).take 3)).1
    let d' := (between.perform (.write (c.watermarkPath ++ ".tmp") "1")).1
    c.Untorn s 12 d d' ∧ d'.read c.seriesPath = .ok s.toJson.pretty ∧
      d'.text? c.watermarkPath = none := by
  intro c s d between d'
  have hsteps : c.saveSteps s 12 = (c.saveSteps s 12).take 3 ++
      [.write (c.watermarkPath ++ ".tmp") "12\n",
        .rename (c.watermarkPath ++ ".tmp") c.watermarkPath] := by decide +kernel
  have hfirst : d.performAll ((c.saveSteps s 12).take 3) = (between, none) := by decide +kernel
  have hwrite : between.write (c.watermarkPath ++ ".tmp") "1" = .ok d' := by decide +kernel
  have hstops : Stops d (c.saveSteps s 12) d' := by
    rw [hsteps]
    exact .append hfirst (.writing _ _ hwrite)
  obtain ⟨huntorn, -, -⟩ := save_untorn c d s 12
  refine ⟨huntorn d' hstops, ?_, ?_⟩
  · decide +kernel
  · decide +kernel

end Cache

end BenchTracker
