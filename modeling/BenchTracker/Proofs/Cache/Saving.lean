import BenchTracker.Cache
import BenchTracker.Proofs.Decimal.Numeral
import BenchTracker.Proofs.Directory.Files
import BenchTracker.Proofs.Store.RoundTrip

/-!
# Caches that are read back

What is saved in a cache is loaded from it again. Saving the same once more changes neither of the
two files, even if it is cut off after any of its steps.
-/

namespace BenchTracker

/-! ## Steps in sequence -/

namespace Directory

theorem performAll_append (d : Directory) (steps rest : List Step) :
    d.performAll (steps ++ rest) =
      match d.performAll steps with
      | (d', none) => d'.performAll rest
      | (d', some fault) => (d', some fault) := by
  induction steps generalizing d with
  | nil => rfl
  | cons step steps ih =>
    simp only [List.cons_append, performAll]
    split
    · exact ih _
    · rfl

theorem performAll_singleton (d : Directory) (step : Step) :
    d.performAll [step] = d.perform step := by
  simp only [performAll]
  split <;> simp_all

/-- Steps in sequence come to a fault of the first part, or to what the second part comes to. -/
theorem performAll_append_cases {d d' : Directory} {fault : Option FileFault}
    {steps rest : List Step} (h : d.performAll (steps ++ rest) = (d', fault)) :
    (d.performAll steps = (d', fault) ∧ fault ≠ none) ∨
      ∃ between, d.performAll steps = (between, none) ∧ between.performAll rest = (d', fault) := by
  rw [performAll_append] at h
  split at h
  · exact .inr ⟨_, ‹_›, h⟩
  · cases h
    exact .inl ⟨‹_›, by simp⟩

end Directory

namespace Cache

open Directory

variable {d d' : Directory} {fault : Option FileFault} {folder name other text old : String}

/-- A file is replaced as a whole, or not at all. -/
theorem replaceSteps_cases (hname : Path.IsName name)
    (h : d.performAll (replaceSteps (Path.join folder name) text) = (d', fault)) :
    (fault ≠ none ∧ (d' = d ∨ d.write (Path.join folder (name ++ ".tmp")) text = .ok d')) ∨
      ∃ between, d.write (Path.join folder (name ++ ".tmp")) text = .ok between ∧
        between.rename (Path.join folder (name ++ ".tmp")) (Path.join folder name) = .ok d' := by
  rw [replaceSteps, Path.join_append folder ".tmp" hname] at h
  simp only [performAll, perform] at h
  cases hwrite : d.write (Path.join folder (name ++ ".tmp")) text with
  | error cause =>
    simp only [hwrite, perform.settle, Prod.mk.injEq] at h
    exact .inl ⟨by simp [← h.2], .inl h.1.symm⟩
  | ok between =>
    simp only [hwrite, perform.settle] at h
    cases hrename : between.rename (Path.join folder (name ++ ".tmp")) (Path.join folder name) with
    | error cause =>
      simp only [hrename, Prod.mk.injEq] at h
      exact .inl ⟨by simp [← h.2], .inr (h.1 ▸ rfl)⟩
    | ok last =>
      simp only [hrename, Prod.mk.injEq] at h
      exact .inr ⟨between, rfl, h.1 ▸ hrename⟩

theorem append_tmp_ne (name : String) : name ++ ".tmp" ≠ name := by
  intro h
  have hlength := congrArg String.length h
  simp at hlength

theorem keepsFolders_replaceSteps (hname : Path.IsName name)
    (h : d.performAll (replaceSteps (Path.join folder name) text) = (d', fault)) :
    KeepsFolders d d' := by
  have htmp : Path.IsName (name ++ ".tmp") := hname.append (by decide)
  rcases replaceSteps_cases hname h with ⟨-, rfl | hwrite⟩ | ⟨between, hwrite, hrename⟩
  · exact .refl d'
  · exact keepsFolders_write htmp hwrite
  · exact (keepsFolders_write htmp hwrite).trans (keepsFolders_rename htmp hname hrename)

/-- Replacing a file leaves those of other names alone. -/
theorem frames_replaceSteps (hname : Path.IsName name) (hne : other ≠ name)
    (hne' : other ≠ name ++ ".tmp")
    (h : d.performAll (replaceSteps (Path.join folder name) text) = (d', fault)) :
    Frames other d d' := by
  have htmp : Path.IsName (name ++ ".tmp") := hname.append (by decide)
  rcases replaceSteps_cases hname h with ⟨-, rfl | hwrite⟩ | ⟨between, hwrite, hrename⟩
  · exact .refl other d'
  · exact frames_write htmp hne' hwrite
  · exact (frames_write htmp hne' hwrite).trans (frames_rename htmp hname hne' hne hrename)

/-- Once a file is replaced, or if it had the text already, it has the text. -/
theorem read_of_replaceSteps (hname : Path.IsName name)
    (h : d.performAll (replaceSteps (Path.join folder name) text) = (d', fault))
    (hdone : fault = none ∨ d.read (Path.join folder name) = .ok text) :
    d'.read (Path.join folder name) = .ok text := by
  have htmp : Path.IsName (name ++ ".tmp") := hname.append (by decide)
  rcases replaceSteps_cases hname h with ⟨hfault, hcases⟩ | ⟨between, hwrite, hrename⟩
  · have hread := hdone.resolve_left hfault
    rcases hcases with rfl | hwrite
    · exact hread
    · exact (frames_write htmp (append_tmp_ne name).symm hwrite).read hname hread
  · exact read_of_rename htmp hname hrename (read_of_write htmp hwrite)

/-! ## The files of a cache -/

variable {c : Cache} {s : Store} {watermark : Nat}

/-- Kernels are written in digits and with an `x`. -/
theorem not_mem_text {char : Char} (hdigit : char.isDigit = false) (hx : char ≠ 'x') (k : Kernel) :
    char ∉ k.text.toList := by
  simp [Kernel.text, Numeral.text, Numeral.not_mem_digits hdigit, hx]

theorem isName_fileName (c : Cache) {ending : String} (h : '/' ∉ ending.toList) :
    Path.IsName (c.fileName ending) := by
  have hfront : Path.IsName "buildkite-" := ⟨by decide, by decide, by decide, by decide⟩
  have hfocus : '/' ∉ c.focus.text.toList := not_mem_text rfl (by decide) c.focus
  exact (hfront.append hfocus).append h

theorem fileName_append (c : Cache) (ending rest : String) :
    c.fileName ending ++ rest = c.fileName (ending ++ rest) := by
  rw [fileName, fileName, String.append_assoc]

theorem fileName_ne (c : Cache) {ending other : String} (h : ending ≠ other) :
    c.fileName ending ≠ c.fileName other := by
  intro heq
  exact h ((String.append_right_inj _).1 heq)

theorem isName_series (c : Cache) : Path.IsName (c.fileName ".json") :=
  isName_fileName c (by decide)

theorem isName_watermark (c : Cache) : Path.IsName (c.fileName ".last") :=
  isName_fileName c (by decide)

theorem series_ne_watermark (c : Cache) : c.fileName ".json" ≠ c.fileName ".last" :=
  fileName_ne c (by decide)

theorem series_ne_watermark_tmp (c : Cache) :
    c.fileName ".json" ≠ c.fileName ".last" ++ ".tmp" := by
  rw [fileName_append]
  exact fileName_ne c (by decide)

theorem watermark_ne_series_tmp (c : Cache) :
    c.fileName ".last" ≠ c.fileName ".json" ++ ".tmp" := by
  rw [fileName_append]
  exact fileName_ne c (by decide)

/-! ## Saving -/

/-- A save stops at the folder, at the series or at the watermark, or comes to its end. -/
theorem save_cases {failure : Option Failure} (h : c.save d s watermark = (d', failure)) :
    (failure ≠ none ∧ d' = (d.makeFolders c.folder).1) ∨
      (∃ fault, failure ≠ none ∧ fault ≠ none ∧ (d.makeFolders c.folder).1.performAll
        (replaceSteps c.seriesPath s.toJson.pretty) = (d', fault)) ∨
      ∃ between fault, failure = fault.map Failure.file ∧
        (d.makeFolders c.folder).1.performAll
          (replaceSteps c.seriesPath s.toJson.pretty) = (between, none) ∧
        between.performAll
          (replaceSteps c.watermarkPath (Numeral.text watermark ++ "\n")) = (d', fault) := by
  have hsplit : c.saveSteps s watermark =
      [.makeFolders c.folder] ++ (replaceSteps c.seriesPath s.toJson.pretty ++
        replaceSteps c.watermarkPath (Numeral.text watermark ++ "\n")) := rfl
  have hfolder : d.performAll [.makeFolders c.folder] = d.makeFolders c.folder :=
    performAll_singleton d _
  cases hsteps : d.performAll (c.saveSteps s watermark) with
  | mk last fault =>
    simp only [save, hsteps, Prod.mk.injEq] at h
    obtain ⟨rfl, rfl⟩ := h
    have hmap : fault ≠ none → fault.map Failure.file ≠ none := by
      cases fault <;> simp
    rw [hsplit] at hsteps
    rcases performAll_append_cases hsteps with ⟨hfirst, hfault⟩ | ⟨d₁, hfirst, hrest⟩
    · rw [hfolder] at hfirst
      exact .inl ⟨hmap hfault, by rw [hfirst]⟩
    · rw [hfolder] at hfirst
      rw [hfirst]
      rcases performAll_append_cases hrest with ⟨hseries, hfault⟩ | ⟨between, hseries, hlast⟩
      · exact .inr (.inl ⟨fault, hmap hfault, hfault, hseries⟩)
      · exact .inr (.inr ⟨between, fault, rfl, hseries, hlast⟩)

/-- However a save ends, all folders stay. -/
theorem keepsFolders_save {failure : Option Failure} (h : c.save d s watermark = (d', failure)) :
    KeepsFolders d d' := by
  have hfolders := keepsFolders_makeFolders d c.folder
  rcases save_cases h with ⟨-, rfl⟩ | ⟨fault, -, -, hseries⟩ | ⟨between, fault, -, hseries, hlast⟩
  · exact hfolders
  · exact hfolders.trans (keepsFolders_replaceSteps (isName_series c) hseries)
  · exact (hfolders.trans (keepsFolders_replaceSteps (isName_series c) hseries)).trans
      (keepsFolders_replaceSteps (isName_watermark c) hlast)

/-- After a save the series file has the text of the store, if the save came to its end or the file
had that text before. -/
theorem read_series_of_save {failure : Option Failure} (h : c.save d s watermark = (d', failure))
    (hdone : failure = none ∨ d.read c.seriesPath = .ok s.toJson.pretty) :
    d'.read c.seriesPath = .ok s.toJson.pretty := by
  have hseries := isName_series c
  have hfolders (hread : d.read c.seriesPath = .ok s.toJson.pretty) :
      (d.makeFolders c.folder).1.read c.seriesPath = .ok s.toJson.pretty :=
    (frames_makeFolders _ d c.folder).read hseries hread
  rcases save_cases h with ⟨hfailure, rfl⟩ | ⟨fault, hfailure, hfault, hreplace⟩ |
    ⟨between, fault, -, hreplace, hlast⟩
  · exact hfolders (hdone.resolve_left hfailure)
  · exact read_of_replaceSteps hseries hreplace (.inr (hfolders (hdone.resolve_left hfailure)))
  · have hbetween : between.read c.seriesPath = .ok s.toJson.pretty :=
      read_of_replaceSteps hseries hreplace (.inl rfl)
    exact (frames_replaceSteps (isName_watermark c) (series_ne_watermark c)
      (series_ne_watermark_tmp c) hlast).read hseries hbetween

/-- The same for the watermark file. -/
theorem read_watermark_of_save {failure : Option Failure}
    (h : c.save d s watermark = (d', failure))
    (hdone : failure = none ∨ d.read c.watermarkPath = .ok (Numeral.text watermark ++ "\n")) :
    d'.read c.watermarkPath = .ok (Numeral.text watermark ++ "\n") := by
  have hname := isName_watermark c
  have hkeep {fault : Option FileFault} {between : Directory}
      (hreplace : (d.makeFolders c.folder).1.performAll
        (replaceSteps c.seriesPath s.toJson.pretty) = (between, fault))
      (hread : d.read c.watermarkPath = .ok (Numeral.text watermark ++ "\n")) :
      between.read c.watermarkPath = .ok (Numeral.text watermark ++ "\n") :=
    (frames_replaceSteps (isName_series c) (series_ne_watermark c).symm
      (watermark_ne_series_tmp c) hreplace).read hname
      ((frames_makeFolders _ d c.folder).read hname hread)
  rcases save_cases h with ⟨hfailure, rfl⟩ | ⟨fault, hfailure, hfault, hreplace⟩ |
    ⟨between, fault, hfailure, hreplace, hlast⟩
  · exact (frames_makeFolders _ d c.folder).read hname (hdone.resolve_left hfailure)
  · exact hkeep hreplace (hdone.resolve_left hfailure)
  · refine read_of_replaceSteps hname hlast ?_
    rcases hdone with hnone | hread
    · exact .inl (Option.map_eq_none_iff.1 (hfailure.symm.trans hnone))
    · exact .inr (hkeep hreplace hread)

/-- The two files have the texts of a store and a watermark. -/
structure Holds (c : Cache) (d : Directory) (s : Store) (watermark : Nat) : Prop where
  series : d.read c.seriesPath = .ok s.toJson.pretty
  watermark : d.read c.watermarkPath = .ok (Numeral.text watermark ++ "\n")

theorem holds_of_save (h : (c.save d s watermark).2 = none) :
    c.Holds (c.save d s watermark).1 s watermark :=
  have hsave : c.save d s watermark = ((c.save d s watermark).1, none) := Prod.ext rfl h
  ⟨read_series_of_save hsave (.inl rfl), read_watermark_of_save hsave (.inl rfl)⟩

end Cache

end BenchTracker
