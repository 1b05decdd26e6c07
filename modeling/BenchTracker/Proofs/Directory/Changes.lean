import BenchTracker.Proofs.Directory.Steps

/-!
# The places that steps change

Writing and renaming change the places that their paths lead to, and making folders changes the
places on the way where nothing stands yet. Everything else stays, and paths lead where they led
before.
-/

namespace BenchTracker

namespace Directory

variable {d d' : Directory} {folder path other name text : String} {place q : Place}

/-! ## Texts at places -/

/-- The text of the file at a place, if there is one. -/
def textAt? (d : Directory) (place : Place) : Option String := (d.at? place).bind Entry.text?

@[simp, grind =] theorem textAt?_eq_some :
    d.textAt? place = some text ↔ d.at? place = some (.file text) := by
  unfold textAt?
  rcases d.at? place with _ | _ | _ <;> simp [Entry.text?]

theorem textAt?_congr
    (h : ∀ text, d'.at? place = some (.file text) ↔ d.at? place = some (.file text)) :
    d'.textAt? place = d.textAt? place := by
  ext text
  rw [textAt?_eq_some, textAt?_eq_some, h]

theorem Frames.textAt?_eq (h : Frames name d d') (q : Place) :
    d'.textAt? (name :: q) = d.textAt? (name :: q) :=
  textAt?_congr (h.file q)

/-- A file is read at the place that its path leads to. -/
theorem read_eq_ok_iff (h : d.locate path = .ok place) :
    d.read path = .ok text ↔ d.textAt? place = some text := by
  rw [← text?_eq_some, text?_eq_look, look_of_locate h]
  rfl

/-! ## Folders on the way -/

/-- The places that the names lead over. -/
def along : Place → List String → List Place
  | _, [] => []
  | place, name :: rest =>
    if name = ".." then along place.tail rest else (name :: place) :: along (name :: place) rest

theorem along_append (place : Place) (front back : List String) :
    along place front <+: along place (front ++ back) := by
  induction front generalizing place with
  | nil => exact List.nil_prefix
  | cons name rest ih =>
    rw [List.cons_append, along, along]
    split
    · exact ih place.tail
    · exact (List.prefix_cons_inj _).2 (ih (name :: place))

/-- A folder on the way is made where nothing stands. -/
structure Made (way : List Place) (d d' : Directory) (place : Place) : Prop where
  mem : place ∈ way
  missing : d.at? place = none
  folder : d'.at? place = some .folder

/-- Making folders changes nothing else. -/
theorem made_of_makeFoldersFrom {names : List String} {third : Place}
    (h : (d.makeFoldersFrom place names).1.at? third ≠ d.at? third) :
    Made (along place names) d (d.makeFoldersFrom place names).1 third := by
  induction names generalizing d place with
  | nil => exact absurd rfl h
  | cons name rest ih =>
    rw [makeFoldersFrom] at h ⊢
    rw [along]
    by_cases hup : name = ".."
    · rw [if_pos hup] at h ⊢
      rw [if_pos hup]
      exact ih h
    rw [if_neg hup] at h ⊢
    rw [if_neg hup]
    split at h
    · exact absurd rfl h
    · rename_i hshort
      rw [if_neg hshort]
      split at h
      · exact absurd rfl h
      · obtain ⟨hmem, hmissing, hfolder⟩ := ih h
        exact ⟨List.mem_cons_of_mem _ hmem, hmissing, hfolder⟩
      · rename_i hnone
        -- The folder that is made here, or one that is made behind it.
        by_cases hthird : third = name :: place
        · subst hthird
          have hset := at?_set_cons d name place .folder
          exact ⟨List.mem_cons_self, hnone, at?_makeFoldersFrom hset⟩
        · have hsame : (d.set (name :: place) .folder).at? third = d.at? third :=
            at?_set_of_ne hthird _
          rw [← hsame] at h
          obtain ⟨hmem, hmissing, hfolder⟩ := ih h
          exact ⟨List.mem_cons_of_mem _ hmem, hsame.symm.trans hmissing, hfolder⟩

/-! ## Files of a folder -/

theorem KeepsFolders.locate (h : KeepsFolders d d') (hplace : d.locate path = .ok place) :
    d'.locate path = .ok place := by
  have hstart : d'.start path = d.start path := by simp only [start, h.current]
  unfold Directory.locate at hplace ⊢
  split at hplace
  · cases hplace
  · rw [if_neg ‹_›, hstart]
    exact h.walk hplace

/-- All folders stay, and nothing changes but what stands under some names of a folder. -/
structure ChangesOnly (path : String) (names : List String) (d d' : Directory) : Prop
    extends KeepsFolders d d' where
  changed : ∀ place, d'.at? place ≠ d.at? place →
    ∃ name ∈ names, d'.locate (Path.join path name) = .ok place

variable {names : List String} {step : Step}

theorem ChangesOnly.refl (folder : String) (names : List String) (d : Directory) :
    ChangesOnly folder names d d := ⟨.refl d, fun _ h => absurd rfl h⟩

theorem ChangesOnly.trans {d'' : Directory} (h : ChangesOnly folder names d d')
    (h' : ChangesOnly folder names d' d'') : ChangesOnly folder names d d'' := by
  refine ⟨h.toKeepsFolders.trans h'.toKeepsFolders, fun place hplace => ?_⟩
  by_cases hlast : d''.at? place = d'.at? place
  · rw [hlast] at hplace
    obtain ⟨name, hname, hlocate⟩ := h.changed place hplace
    exact ⟨name, hname, h'.toKeepsFolders.locate hlocate⟩
  · exact h'.changed place hlast

theorem write_eq_ok (h : d.write path text = .ok d') :
    ∃ place, d.locate path = .ok place ∧ d' = d.set place (.file text) := by
  cases hplace : d.locate path with
  | error fault => simp [write, hplace, bind, Except.bind] at h
  | ok place =>
    simp only [write, hplace, bind, Except.bind] at h
    split at h
    · cases h
    · exact ⟨place, rfl, (Except.ok.inj h).symm⟩

theorem rename_eq_ok (h : d.rename path other = .ok d') :
    ∃ source target text, d.locate path = .ok source ∧ d.locate other = .ok target ∧
      d' = (d.remove source).set target (.file text) := by
  cases hsource : d.locate path with
  | error fault => simp [rename, hsource, bind, Except.bind] at h
  | ok source =>
    cases htarget : d.locate other with
    | error fault => simp [rename, hsource, htarget, bind, Except.bind] at h
    | ok target =>
      simp only [rename, hsource, htarget, bind, Except.bind] at h
      split at h
      · cases h
      · cases h
      · cases h
      · exact ⟨source, target, _, rfl, rfl, (Except.ok.inj h).symm⟩

theorem changesOnly_write (hname : Path.IsName name) (hmem : name ∈ names)
    (h : d.write (Path.join folder name) text = .ok d') : ChangesOnly folder names d d' := by
  have hkeeps := keepsFolders_write hname h
  refine ⟨hkeeps, fun third hthird => ⟨name, hmem, hkeeps.locate ?_⟩⟩
  obtain ⟨place, hplace, rfl⟩ := write_eq_ok h
  by_cases hsame : third = place
  · rw [hsame]
    exact hplace
  · exact absurd (at?_set_of_ne hsame _) hthird

theorem changesOnly_rename (hname : Path.IsName name) (hother : Path.IsName other)
    (hmem : name ∈ names) (hmem' : other ∈ names)
    (h : d.rename (Path.join folder name) (Path.join folder other) = .ok d') :
    ChangesOnly folder names d d' := by
  have hkeeps := keepsFolders_rename hname hother h
  refine ⟨hkeeps, fun third hthird => ?_⟩
  obtain ⟨source, target, moved, hsource, htarget, rfl⟩ := rename_eq_ok h
  by_cases hlast : third = target
  · subst hlast
    exact ⟨other, hmem', hkeeps.locate htarget⟩
  · refine ⟨name, hmem, hkeeps.locate ?_⟩
    by_cases hfirst : third = source
    · rw [hfirst]
      exact hsource
    · rw [at?_set_of_ne hlast, at?_remove_of_ne hfirst] at hthird
      exact absurd rfl hthird

theorem changesOnly_perform (hnames : ∀ name ∈ names, Path.IsName name)
    (hstep : step.On folder names) (d : Directory) :
    ChangesOnly folder names d (d.perform step).1 := by
  cases hstep with
  | write text hname =>
    exact kept_perform_write (.refl folder names)
      fun _ => changesOnly_write (hnames _ hname) hname
  | rename hname hother =>
    exact kept_perform_rename (.refl folder names)
      fun _ => changesOnly_rename (hnames _ hname) (hnames _ hother) hname hother

end Directory

end BenchTracker
