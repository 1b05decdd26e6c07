import BenchTracker.Proofs.Cache.Settled

/-!
# Saves that stop anywhere

Steps on a tree can stop at an error or a crash: between two of them, with only some of the folders
made, or with a file written in part. Renaming is done as a whole. A save that stops leaves both
files of the cache as they were, or has replaced the series, or has come to its end.
-/

namespace BenchTracker

/-! ## Steps that stop -/

namespace Directory

/-- What is left of a tree when steps on it stop somewhere. -/
inductive Stops : Directory → List Step → Directory → Prop
  | here (d : Directory) (steps : List Step) : Stops d steps d
  | failing {d d' : Directory} {step : Step} {fault : FileFault} (rest : List Step)
      (h : d.perform step = (d', some fault)) : Stops d (step :: rest) d'
  /-- Only the first of the folders are there. -/
  | making (d : Directory) {path : String} {front : List String} (rest : List Step)
      (h : front <+: Path.names path) :
      Stops d (.makeFolders path :: rest) (d.makeFoldersFrom (d.start path) front).1
  /-- The file has a part of the text, or anything else. -/
  | writing {d d' : Directory} {path torn : String} (text : String) (rest : List Step)
      (h : d.write path torn = .ok d') : Stops d (.write path text :: rest) d'
  | next {d d' d'' : Directory} {step : Step} {rest : List Step}
      (h : d.perform step = (d', none)) (hrest : Stops d' rest d'') : Stops d (step :: rest) d''

variable {d d' : Directory} {folder name text : String}

/-- Steps can stop behind any number of them. -/
theorem stops_take (d : Directory) (steps : List Step) (n : Nat) :
    Stops d steps (d.performAll (steps.take n)).1 := by
  induction steps generalizing d n with
  | nil =>
    rw [List.take_nil]
    exact .here d []
  | cons step rest ih =>
    cases n with
    | zero => exact .here d _
    | succ n =>
      rw [List.take_succ_cons, performAll]
      split
      · rename_i hstep
        exact .next hstep (ih _ n)
      · rename_i hstep
        exact .failing rest hstep

theorem stops_performAll (d : Directory) (steps : List Step) :
    Stops d steps (d.performAll steps).1 := by
  have h := stops_take d steps steps.length
  rwa [List.take_length] at h

/-- Steps in sequence stop in the first part, or in the second part behind the whole first one. -/
theorem Stops.append_cases {steps rest : List Step} (h : Stops d (steps ++ rest) d') :
    Stops d steps d' ∨
      ∃ between, d.performAll steps = (between, none) ∧ Stops between rest d' := by
  induction steps generalizing d with
  | nil => exact .inr ⟨d, rfl, h⟩
  | cons step steps ih =>
    cases h with
    | here => exact .inl (.here _ _)
    | failing _ hstep => exact .inl (.failing steps hstep)
    | making _ _ hfront => exact .inl (.making d steps hfront)
    | writing _ _ hwrite => exact .inl (.writing _ steps hwrite)
    | next hstep hrest =>
      rcases ih hrest with hstops | ⟨between, hperform, hstops⟩
      · exact .inl (.next hstep hstops)
      · refine .inr ⟨between, ?_, hstops⟩
        simp only [performAll, hstep, hperform]

/-! ## Folders in part -/

/-- The first folders of a path are made before the others. -/
theorem makeFoldersFrom_append (d : Directory) (place : Place) (front back : List String) :
    ∃ place' names, (d.makeFoldersFrom place (front ++ back)).1 =
      ((d.makeFoldersFrom place front).1.makeFoldersFrom place' names).1 := by
  induction front generalizing d place with
  | nil => exact ⟨place, back, rfl⟩
  | cons name rest ih =>
    simp only [List.cons_append, makeFoldersFrom]
    split
    · exact ih d _
    · split
      · exact ⟨place, [], rfl⟩
      · split
        · exact ⟨place, [], rfl⟩
        · exact ih d _
        · exact ih _ _

theorem Stops.makeFolders_cases {path : String} (h : Stops d [.makeFolders path] d') :
    ∃ front, front <+: Path.names path ∧ d' = (d.makeFoldersFrom (d.start path) front).1 := by
  cases h with
  | here => exact ⟨[], List.nil_prefix, rfl⟩
  | failing _ hstep => exact ⟨_, List.prefix_refl _, (congrArg Prod.fst hstep).symm⟩
  | making _ _ hfront => exact ⟨_, hfront, rfl⟩
  | next hstep hrest =>
    cases hrest
    exact ⟨_, List.prefix_refl _, (congrArg Prod.fst hstep).symm⟩

/-- The folders that are not made yet change no file. -/
theorem frames_makeFolders_of_front (name : String) (d : Directory) {path : String}
    {front : List String} (h : front <+: Path.names path) :
    Frames name (d.makeFoldersFrom (d.start path) front).1 (d.makeFolders path).1 := by
  obtain ⟨back, hback⟩ := h
  obtain ⟨place, names, heq⟩ := makeFoldersFrom_append d (d.start path) front back
  rw [makeFolders, ← hback, heq]
  exact frames_makeFoldersFrom name _ place names

end Directory

/-! ## Saves that stop -/

namespace Cache

open Directory

variable {c : Cache} {d d' : Directory} {folder name other text : String} {s seed : Store}
  {watermark : Nat}

/-- A file is replaced as a whole, or nothing but the file beside it is written. -/
theorem stops_replaceSteps_cases (hname : Path.IsName name)
    (h : Stops d (replaceSteps (Path.join folder name) text) d') :
    (d' = d ∨ ∃ torn, d.write (Path.join folder (name ++ ".tmp")) torn = .ok d') ∨
      d.performAll (replaceSteps (Path.join folder name) text) = (d', none) := by
  rw [replaceSteps, Path.join_append folder ".tmp" hname] at h ⊢
  cases h with
  | here => exact .inl (.inl rfl)
  | failing _ hwrite => exact .inl (.inl (eq_of_settle_eq_some hwrite))
  | writing _ _ hwrite => exact .inl (.inr ⟨_, hwrite⟩)
  | next hwrite hrest =>
    cases hrest with
    | here => exact .inl (.inr ⟨text, settle_eq_none.1 hwrite⟩)
    | failing _ hrename =>
      obtain rfl := eq_of_settle_eq_some hrename
      exact .inl (.inr ⟨text, settle_eq_none.1 hwrite⟩)
    | next hrename hlast =>
      cases hlast
      refine .inr ?_
      simp only [performAll, hwrite, hrename]

/-- Until the file is replaced, no file of another name than the one beside it changes. -/
theorem frames_of_stops (hname : Path.IsName name) (hne : other ≠ name ++ ".tmp")
    (h : d' = d ∨ ∃ torn, d.write (Path.join folder (name ++ ".tmp")) torn = .ok d') :
    Frames other d d' := by
  rcases h with rfl | ⟨torn, hwrite⟩
  · exact .refl other d'
  · exact frames_write (hname.append (by decide)) hne hwrite

theorem isFolder_of_replaceSteps (hname : Path.IsName name)
    (h : d.performAll (replaceSteps (Path.join folder name) text) = (d', none)) :
    ∃ q, d.IsFolder folder q := by
  rcases replaceSteps_cases hname h with ⟨hfault, -⟩ | ⟨between, hwrite, -⟩
  · exact absurd rfl hfault
  · obtain ⟨q, hq, -⟩ := write_join (hname.append (by decide)) hwrite
    exact ⟨q, hq⟩

/-- The watermark file is the one that was there. Making the folders may have brought it to light,
if the path goes up from a folder that was missing. -/
structure LeavesWatermark (c : Cache) (d d' : Directory) : Prop where
  frames : Frames (c.fileName ".last") d d'
  read : ∀ text, d'.read c.watermarkPath = .ok text → (c.made d).read c.watermarkPath = .ok text

theorem leavesWatermark_of_front {front : List String} (h : front <+: Path.names c.folder) :
    c.LeavesWatermark d (d.makeFoldersFrom (d.start c.folder) front).1 where
  frames := frames_makeFoldersFrom _ d _ front
  read _ hread := (frames_makeFolders_of_front _ d h).read (isName_watermark c) hread

theorem leavesWatermark_of_frames (h : Frames (c.fileName ".last") (c.made d) d')
    (hfolder : d' = c.made d ∨ ∃ q, (c.made d).IsFolder c.folder q) :
    c.LeavesWatermark d d' where
  frames := (frames_makeFolders _ d c.folder).trans h
  read text hread := by
    rcases hfolder with rfl | ⟨q, hq⟩
    · exact hread
    · rw [← text?_eq_some] at hread ⊢
      rw [← hread]
      exact (h.text?_eq (isName_watermark c) hq).symm

/-- A save that stops leaves both files as they were, or has replaced the series, or has replaced
both. -/
theorem stops_save_cases (h : Stops d (c.saveSteps s watermark) d') :
    (c.LeavesWatermark d d' ∧ (Frames (c.fileName ".json") d d' ∨
      d'.read c.seriesPath = .ok s.toJson.pretty)) ∨ c.Holds d' s watermark := by
  have hseries := isName_series c
  have hwatermark := isName_watermark c
  have hfolders := frames_makeFolders (c.fileName ".json") d c.folder
  have hsplit : c.saveSteps s watermark =
      [.makeFolders c.folder] ++ (replaceSteps c.seriesPath s.toJson.pretty ++
        replaceSteps c.watermarkPath (Numeral.text watermark ++ "\n")) := rfl
  rw [hsplit] at h
  rcases h.append_cases with hstop | ⟨made, hmake, hrest⟩
  · obtain ⟨front, hfront, rfl⟩ := hstop.makeFolders_cases
    exact .inl ⟨leavesWatermark_of_front hfront, .inl (frames_makeFoldersFrom _ d _ front)⟩
  rw [performAll_singleton] at hmake
  obtain rfl : c.made d = made := congrArg Prod.fst hmake
  have hcases : (d' = c.made d ∨ ∃ torn, (c.made d).write
        (Path.join c.folder (c.fileName ".json" ++ ".tmp")) torn = .ok d') ∨
      ∃ between, (c.made d).performAll
          (replaceSteps c.seriesPath s.toJson.pretty) = (between, none) ∧
        Stops between (replaceSteps c.watermarkPath (Numeral.text watermark ++ "\n")) d' := by
    rcases hrest.append_cases with hstop | hlast
    · exact (stops_replaceSteps_cases hseries hstop).imp_right fun hreplace =>
        ⟨d', hreplace, .here _ _⟩
    · exact .inr hlast
  rcases hcases with hbefore | ⟨between, hreplace, hlast⟩
  · have hjson : Frames (c.fileName ".json") (c.made d) d' :=
      frames_of_stops hseries (append_tmp_ne _).symm hbefore
    have hlast : Frames (c.fileName ".last") (c.made d) d' :=
      frames_of_stops hseries (watermark_ne_series_tmp c) hbefore
    refine .inl ⟨leavesWatermark_of_frames hlast (hbefore.imp_right ?_),
      .inl (hfolders.trans hjson)⟩
    rintro ⟨torn, hwrite⟩
    obtain ⟨q, hq, -⟩ := write_join (hseries.append (by decide)) hwrite
    exact ⟨q, hq⟩
  · have hread : between.read c.seriesPath = .ok s.toJson.pretty :=
      read_of_replaceSteps hseries hreplace (.inl rfl)
    have hlastFrames : Frames (c.fileName ".last") (c.made d) between :=
      frames_replaceSteps hseries (series_ne_watermark c).symm (watermark_ne_series_tmp c) hreplace
    rcases stops_replaceSteps_cases hwatermark hlast with hbefore | hreplace'
    · have hframes := frames_of_stops hwatermark (append_tmp_ne _).symm hbefore
      have hframes' := frames_of_stops hwatermark (series_ne_watermark_tmp c) hbefore
      exact .inl ⟨leavesWatermark_of_frames (hlastFrames.trans hframes)
        (.inr (isFolder_of_replaceSteps hseries hreplace)), .inr (hframes'.read hseries hread)⟩
    · have hframes' := frames_replaceSteps hwatermark (series_ne_watermark c)
        (series_ne_watermark_tmp c) hreplace'
      exact .inr ⟨hframes'.read hseries hread,
        read_of_replaceSteps hwatermark hreplace' (.inl rfl)⟩

/-! ## Loading what a save left -/

theorem readWatermark_of_reads
    (h : ∀ text, d.read c.watermarkPath = .ok text → d'.read c.watermarkPath = .ok text)
    (hread : c.readWatermark d = .ok watermark) : c.readWatermark d' = .ok watermark := by
  unfold readWatermark at hread ⊢
  cases htext : d.read c.watermarkPath with
  | error fault => simp [htext] at hread
  | ok text => simpa only [htext, h text htext] using hread

theorem readWatermark_of_frames (h : Frames (c.fileName ".last") d d')
    (hread : c.readWatermark d = .ok watermark) : c.readWatermark d' = .ok watermark :=
  readWatermark_of_reads (fun _ => h.read (isName_watermark c)) hread

theorem readWatermark_of_text?_eq
    (h : d'.text? c.watermarkPath = d.text? c.watermarkPath)
    (hread : c.readWatermark d = .ok watermark) : c.readWatermark d' = .ok watermark := by
  refine readWatermark_of_reads (fun text htext => ?_) hread
  rw [← text?_eq_some] at htext ⊢
  rw [h, htext]

theorem readSeries_of_frames (h : Frames (c.fileName ".json") d d')
    (hread : c.readSeries d = .ok s) : c.readSeries d' = .ok s := by
  unfold readSeries at hread ⊢
  cases htext : d.read c.seriesPath with
  | error fault => simp [htext] at hread
  | ok text =>
    have htext' : d'.read c.seriesPath = .ok text := h.read (isName_series c) htext
    simpa only [htext, htext'] using hread

/-- However a save ends, the watermark file holds what it held before, or both files are new. -/
theorem readWatermark_of_save (hread : c.readWatermark d = .ok watermark) (s : Store)
    (after : Nat) :
    c.readWatermark (c.save d s after).1 = .ok watermark ∨
      c.Holds (c.save d s after).1 s after := by
  have hstops : Stops d (c.saveSteps s after) (c.save d s after).1 := stops_performAll d _
  rcases stops_save_cases hstops with ⟨hleaves, -⟩ | hholds
  · exact .inl (readWatermark_of_frames hleaves.frames hread)
  · exact .inr hholds

/-- The cache loads, or its watermark file is missing or holds no number. -/
def Startable (c : Cache) (d : Directory) : Prop :=
  (∃ r, c.stored d 0 = .ok r) ∨ ∀ w, c.readWatermark d ≠ .ok w

theorem startable_of_isOk (h : (c.stored d 0).isOk = true) : c.Startable d := by
  cases hstored : c.stored d 0 with
  | error failure => simp [hstored, Except.isOk, Except.toBool] at h
  | ok r => exact .inl ⟨r, hstored⟩

theorem Startable.cases (h : c.Startable d) : (∀ w, c.readWatermark d = .ok w → w = 0) ∨
    ∃ w old, 0 < w ∧ c.readWatermark d = .ok w ∧ c.readSeries d = .ok old := by
  rcases h with ⟨r, hr⟩ | hnone
  · simp only [stored, if_true] at hr
    obtain ⟨w, hw, hr⟩ := bind_eq_ok.1 hr
    by_cases hzero : w = 0
    · refine .inl fun w' hw' => ?_
      rw [hw, hzero] at hw'
      exact (Except.ok.inj hw').symm
    · rw [if_neg hzero] at hr
      obtain ⟨old, hold, -⟩ := bind_eq_ok.1 hr
      exact .inr ⟨w, old, Nat.pos_of_ne_zero hzero, hw, hold⟩
  · exact .inl fun w hw => absurd hw (hnone w)

/-- Without a watermark above zero nothing is loaded. -/
theorem load_eq_seed (h : ∀ w, c.readWatermark d = .ok w → w = 0) (seed : Store) :
    (c.load d 0 seed).watermark = 0 ∧ (c.load d 0 seed).store = seed := by
  cases hread : c.readWatermark d with
  | error failure =>
    have hstored : c.stored d 0 = .error failure := by
      simp only [stored, if_true, hread, bind, Except.bind]
    simp only [load, hstored, and_self]
  | ok w =>
    obtain rfl := h w hread
    have hstored : c.stored d 0 = .ok (0, none) := by
      simp only [stored, if_true, hread, bind, Except.bind]
    simp only [load, hstored, and_self]

/-- What is loaded after a save that stopped has the watermark of before, and the series of before
or those that were saved. -/
theorem load_of_stops (hstart : c.Startable d) (hsettled : c.Settled d)
    (hleaves : c.LeavesWatermark d d')
    (hseries : Frames (c.fileName ".json") d d' ∨ c.readSeries d' = .ok s) (seed : Store) :
    (c.load d' 0 seed).watermark = (c.load d 0 seed).watermark ∧
      ((c.load d' 0 seed).store = (c.load d 0 seed).store ∨
        (c.load d' 0 seed).store = seed.merge s) := by
  have hread : ∀ text, d'.read c.watermarkPath = .ok text → d.read c.watermarkPath = .ok text := by
    intro text htext
    rw [← text?_eq_some, ← hsettled.watermark, text?_eq_some]
    exact hleaves.read text htext
  rcases hstart.cases with hzero | ⟨w, old, hpos, hwatermark, hold⟩
  · obtain ⟨hw, hs⟩ := load_eq_seed hzero seed
    obtain ⟨hw', hs'⟩ := load_eq_seed (fun w hw => hzero w (readWatermark_of_reads hread hw)) seed
    exact ⟨hw'.trans hw.symm, .inl (hs'.trans hs.symm)⟩
  · have hwatermark' := readWatermark_of_frames hleaves.frames hwatermark
    obtain ⟨hw, hs⟩ := load_of_readSeries hold hpos (fun _ => hwatermark) seed
    rcases hseries with hframes | hnew
    · obtain ⟨hw', hs'⟩ := load_of_readSeries (readSeries_of_frames hframes hold) hpos
        (fun _ => hwatermark') seed
      exact ⟨hw'.trans hw.symm, .inl (hs'.trans hs.symm)⟩
    · obtain ⟨hw', hs'⟩ := load_of_readSeries hnew hpos (fun _ => hwatermark') seed
      exact ⟨hw'.trans hw.symm, .inr hs'⟩

end Cache

end BenchTracker
