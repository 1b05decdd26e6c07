import BenchTracker.Proofs.Directory.Files

/-!
# Steps on some files of a folder

Writing and renaming files of a folder depends only on what stands under the names involved, and
changes nothing under other names. Folders that have been made once are not made again.
-/

namespace BenchTracker

/-- The text of a file. -/
def Entry.text? : Entry → Option String
  | .file text => some text
  | .folder => none

namespace Directory

variable {d d' : Directory} {folder path name other third text : String}

/-! ## What stands under a name -/

/-- What a path leads to: the entry there, if there is one. There is no answer if the path leads
nowhere. -/
def look (d : Directory) (path : String) : Option (Option Entry) :=
  (d.locate path).toOption.map d.at?

theorem look_of_locate {place : Place} (h : d.locate path = .ok place) :
    d.look path = some (d.at? place) := by
  simp only [look, h, Except.toOption, Option.map_some]

theorem look_of_locate_error {fault : FileFault} (h : d.locate path = .error fault) :
    d.look path = none := by
  simp only [look, h, Except.toOption, Option.map_none]

theorem text?_eq_look (d : Directory) (path : String) :
    d.text? path = (d.look path).bind fun entry => entry.bind Entry.text? := by
  cases hplace : d.locate path with
  | error fault =>
    rw [look_of_locate_error hplace]
    simp only [text?, read, hplace, bind, Except.bind, Except.toOption, Option.bind_none]
  | ok place =>
    rw [look_of_locate hplace]
    simp only [text?, read, hplace, bind, Except.bind, Option.bind_some]
    cases d.at? place with
    | none => rfl
    | some entry => cases entry <;> rfl

theorem text?_eq_of_look_eq (h : d'.look path = d.look path) : d'.text? path = d.text? path := by
  rw [text?_eq_look, text?_eq_look, h]

/-- In a folder that is there, a name that is not too long leads to its place. -/
theorem look_join (hname : Path.IsName name) {q : Place} (hq : d.IsFolder folder q) :
    d.look (Path.join folder name) =
      if name.utf8ByteSize ≤ nameLimit then some (d.at? (name :: q)) else none := by
  split
  · exact look_of_locate ((locate_join hname).2 ⟨q, hq, ‹_›, rfl⟩)
  · cases hplace : d.locate (Path.join folder name) with
    | error fault => exact look_of_locate_error hplace
    | ok place =>
      obtain ⟨-, -, hshort, -⟩ := (locate_join hname).1 hplace
      contradiction

/-! ## Which steps succeed -/

theorem perform_write_eq_none (d : Directory) (path text : String) :
    (d.perform (.write path text)).2 = none ↔
      ∃ entry, d.look path = some entry ∧ entry ≠ some .folder := by
  simp only [perform, write]
  cases hplace : d.locate path with
  | error fault => simp [look_of_locate_error hplace, bind, Except.bind, perform.settle]
  | ok place =>
    simp only [look_of_locate hplace, bind, Except.bind, Option.some.injEq, exists_eq_left']
    cases d.at? place with
    | none => simp [perform.settle]
    | some entry => cases entry <;> simp [perform.settle]

theorem perform_rename_eq_none (d : Directory) (path other : String) :
    (d.perform (.rename path other)).2 = none ↔
      (∃ text, d.look path = some (some (.file text))) ∧
        ∃ entry, d.look other = some entry ∧ entry ≠ some .folder := by
  simp only [perform, rename]
  cases hsource : d.locate path with
  | error fault => simp [look_of_locate_error hsource, bind, Except.bind, perform.settle]
  | ok source =>
    cases htarget : d.locate other with
    | error fault => simp [look_of_locate_error htarget, bind, Except.bind, perform.settle]
    | ok target =>
      simp only [look_of_locate hsource, look_of_locate htarget, bind, Except.bind,
        Option.some.injEq, exists_eq_left']
      -- Only a file can be renamed, and only to a place where no folder stands.
      rcases d.at? source with _ | (_ | _) <;> rcases d.at? target with _ | (_ | _) <;>
        simp [perform.settle]

/-- A file is written or renamed, or the tree stays as it is. -/
theorem settle_cases (d : Directory) (result : Except FileFault Directory) :
    (∃ fault, perform.settle d result = (d, some fault)) ∨
      ∃ d', perform.settle d result = (d', none) ∧ result = .ok d' := by
  cases result with
  | error fault => exact .inl ⟨fault, rfl⟩
  | ok d' => exact .inr ⟨d', rfl, rfl⟩

/-! ## What every step keeps -/

section Kept

variable {R : Directory → Directory → Prop}

theorem kept_perform_write (hrefl : ∀ d, R d d)
    (h : ∀ d', d.write path text = .ok d' → R d d') : R d (d.perform (.write path text)).1 := by
  rcases settle_cases d (d.write path text) with ⟨fault, hsettle⟩ | ⟨d', hsettle, hwrite⟩
  · simp only [perform, hsettle, hrefl]
  · simp only [perform, hsettle, h d' hwrite]

theorem kept_perform_rename (hrefl : ∀ d, R d d)
    (h : ∀ d', d.rename path other = .ok d' → R d d') :
    R d (d.perform (.rename path other)).1 := by
  rcases settle_cases d (d.rename path other) with ⟨fault, hsettle⟩ | ⟨d', hsettle, hrename⟩
  · simp only [perform, hsettle, hrefl]
  · simp only [perform, hsettle, h d' hrename]

/-- What each of the steps keeps, all of them keep, wherever they stop. -/
theorem kept_performAll (hrefl : ∀ d, R d d)
    (htrans : ∀ {d d' d''}, R d d' → R d' d'' → R d d'') {steps : List Step}
    (hsteps : ∀ step ∈ steps, ∀ d, R d (d.perform step).1) (d : Directory) :
    R d (d.performAll steps).1 := by
  induction steps generalizing d with
  | nil => exact hrefl d
  | cons step rest ih =>
    obtain ⟨hstep, hrest⟩ := List.forall_mem_cons.1 hsteps
    have hfirst := hstep d
    rw [performAll]
    split
    · rename_i hperform
      rw [hperform] at hfirst
      exact htrans hfirst (ih hrest _)
    · rename_i hperform
      rwa [hperform] at hfirst

end Kept

/-! ## What a step changes -/

theorem look_perform_write (hname : Path.IsName name) (hother : Path.IsName other) :
    (d.perform (.write (Path.join folder name) text)).1.look (Path.join folder other) =
      if (d.perform (.write (Path.join folder name) text)).2 = none ∧ other = name then
        some (some (.file text))
      else d.look (Path.join folder other) := by
  rcases settle_cases d (d.write (Path.join folder name) text) with
    ⟨fault, hsettle⟩ | ⟨d', hsettle, hwrite⟩
  · simp only [perform, hsettle, reduceCtorEq, false_and, if_false]
  · simp only [perform, hsettle, true_and]
    have hkeeps := keepsFolders_write hname hwrite
    obtain ⟨q, hq, hshort, -, rfl⟩ := write_join hname hwrite
    rw [look_join hother (hkeeps.isFolder hq), look_join hother hq, at?_set,
      if_neg (List.cons_ne_nil _ _)]
    by_cases hsame : other = name
    · subst other
      rw [if_pos hshort, if_pos rfl, if_pos rfl]
    · have hplace : other :: q ≠ name :: q := fun heq => hsame (List.cons.inj heq).1
      rw [if_neg hplace, if_neg hsame]

theorem look_perform_rename (hname : Path.IsName name) (hother : Path.IsName other)
    (hthird : Path.IsName third) :
    (d.perform (.rename (Path.join folder name) (Path.join folder other))).1.look
        (Path.join folder third) =
      if (d.perform (.rename (Path.join folder name) (Path.join folder other))).2 = none then
        if third = other then d.look (Path.join folder name)
        else if third = name then some none
        else d.look (Path.join folder third)
      else d.look (Path.join folder third) := by
  have hsuccess := perform_rename_eq_none d (Path.join folder name) (Path.join folder other)
  rcases settle_cases d (d.rename (Path.join folder name) (Path.join folder other)) with
    ⟨fault, hsettle⟩ | ⟨d', hsettle, hrename⟩
  · simp only [perform, hsettle, reduceCtorEq, if_false]
  · simp only [perform, hsettle, true_iff, if_true] at hsuccess ⊢
    obtain ⟨⟨old, hold⟩, -⟩ := hsuccess
    have hkeeps := keepsFolders_rename hname hother hrename
    obtain ⟨q, text, hq, hshort, hentry, -, rfl⟩ := rename_join hname hother hrename
    have hsource : name.utf8ByteSize ≤ nameLimit := by
      rw [look_join hname hq] at hold
      split at hold
      · assumption
      · cases hold
    rw [look_join hthird (hkeeps.isFolder hq), look_join hname hq, look_join hthird hq, at?_set,
      if_neg (List.cons_ne_nil _ _), if_pos hsource, hentry]
    by_cases hsame : third = other
    · subst third
      rw [if_pos hshort, if_pos rfl, if_pos rfl]
    · have hplace : third :: q ≠ other :: q := fun heq => hsame (List.cons.inj heq).1
      rw [if_neg hplace, if_neg hsame, at?_remove, if_neg (List.cons_ne_nil _ _)]
      by_cases hgone : third = name
      · subst third
        rw [if_pos hsource, if_pos rfl, if_pos rfl]
      · have hplace : third :: q ≠ name :: q := fun heq => hgone (List.cons.inj heq).1
        rw [if_neg hplace, if_neg hgone]

/-! ## Trees that agree on some names -/

/-- The same stands under some names of a folder in both trees. -/
def Agree (folder : String) (names : List String) (d d' : Directory) : Prop :=
  ∀ name ∈ names, d'.look (Path.join folder name) = d.look (Path.join folder name)

/-- A step on files that have certain names in a folder. -/
inductive Step.On (folder : String) (names : List String) : Step → Prop
  | write {name : String} (text : String) (hname : name ∈ names) :
    On folder names (.write (Path.join folder name) text)
  | rename {name other : String} (hname : name ∈ names) (hother : other ∈ names) :
    On folder names (.rename (Path.join folder name) (Path.join folder other))

variable {names others : List String} {step : Step} {steps : List Step}

theorem Agree.refl (folder : String) (names : List String) (d : Directory) :
    Agree folder names d d := fun _ _ => rfl

theorem Agree.trans {d'' : Directory} (h : Agree folder names d d')
    (h' : Agree folder names d' d'') : Agree folder names d d'' :=
  fun name hname => (h' name hname).trans (h name hname)

section Names

variable (hnames : ∀ name ∈ names, Path.IsName name)
include hnames

theorem keepsFolders_perform (hstep : step.On folder names) (d : Directory) :
    KeepsFolders d (d.perform step).1 := by
  cases hstep with
  | write text hname => exact kept_perform_write .refl fun _ => keepsFolders_write (hnames _ hname)
  | rename hname hother =>
    exact kept_perform_rename .refl fun _ => keepsFolders_rename (hnames _ hname) (hnames _ hother)

/-- A step changes nothing under other names. -/
theorem agree_perform (hothers : ∀ name ∈ others, Path.IsName name)
    (hapart : ∀ name ∈ others, name ∉ names) (hstep : step.On folder names) (d : Directory) :
    Agree folder others d (d.perform step).1 := by
  intro third hthird
  have hne {name : String} (hname : name ∈ names) : third ≠ name :=
    fun heq => hapart third hthird (heq ▸ hname)
  cases hstep with
  | write text hname =>
    rw [look_perform_write (hnames _ hname) (hothers third hthird),
      if_neg fun h => hne hname h.2]
  | rename hname hother =>
    rw [look_perform_rename (hnames _ hname) (hnames _ hother) (hothers third hthird),
      if_neg (hne hother), if_neg (hne hname), ite_self]

/-- A step comes to the same in trees that agree on its names. -/
theorem Agree.perform (h : Agree folder names d d') (hstep : step.On folder names) :
    ((d'.perform step).2 = none ↔ (d.perform step).2 = none) ∧
      Agree folder names (d.perform step).1 (d'.perform step).1 := by
  cases hstep with
  | @write name text hname =>
    have hfault := perform_write_eq_none d' (Path.join folder name) text
    rw [h _ hname, ← perform_write_eq_none d _ text] at hfault
    refine ⟨hfault, fun other hother => ?_⟩
    rw [look_perform_write (hnames _ hname) (hnames other hother),
      look_perform_write (hnames _ hname) (hnames other hother), h other hother]
    simp only [hfault]
  | @rename name other hname hother =>
    have hfault := perform_rename_eq_none d' (Path.join folder name) (Path.join folder other)
    rw [h _ hname, h _ hother, ← perform_rename_eq_none] at hfault
    refine ⟨hfault, fun third hthird => ?_⟩
    rw [look_perform_rename (hnames _ hname) (hnames _ hother) (hnames third hthird),
      look_perform_rename (hnames _ hname) (hnames _ hother) (hnames third hthird),
      h _ hname, h third hthird]
    simp only [hfault]

/-! ## Steps in sequence -/

theorem keepsFolders_performAll (hsteps : ∀ step ∈ steps, step.On folder names) (d : Directory) :
    KeepsFolders d (d.performAll steps).1 :=
  kept_performAll .refl .trans (fun step hstep => keepsFolders_perform hnames (hsteps step hstep)) d

theorem agree_performAll (hothers : ∀ name ∈ others, Path.IsName name)
    (hapart : ∀ name ∈ others, name ∉ names) (hsteps : ∀ step ∈ steps, step.On folder names)
    (d : Directory) : Agree folder others d (d.performAll steps).1 :=
  kept_performAll (.refl folder others) .trans
    (fun step hstep => agree_perform hnames hothers hapart (hsteps step hstep)) d

theorem Agree.performAll (h : Agree folder names d d')
    (hsteps : ∀ step ∈ steps, step.On folder names) :
    Agree folder names (d.performAll steps).1 (d'.performAll steps).1 := by
  induction steps generalizing d d' with
  | nil => exact h
  | cons step rest ih =>
    obtain ⟨hstep, hrest⟩ := List.forall_mem_cons.1 hsteps
    obtain ⟨hfault, hagree⟩ := h.perform hnames hstep
    simp only [Directory.performAll]
    cases hperform : d.perform step with
    | mk e fault =>
      cases hperform' : d'.perform step with
      | mk e' fault' =>
        rw [hperform, hperform'] at hfault hagree
        cases fault with
        | none =>
          obtain rfl : fault' = none := hfault.2 rfl
          exact ih hagree hrest
        | some fault =>
          cases fault' with
          | none => cases hfault.1 rfl
          | some fault' => exact hagree

end Names

/-! ## Folders that are made already -/

/-- Where folders have been made, making them again changes nothing and fails as it did. -/
theorem makeFoldersFrom_again {made : Directory} {place : Place} {fault : Option FileFault}
    (h : d.makeFoldersFrom place names = (made, fault)) (hkeeps : KeepsFolders made d')
    (hfault : fault ≠ none → d' = made) :
    d'.makeFoldersFrom place names = (d', fault) := by
  induction names generalizing d place with
  | nil =>
    obtain ⟨-, rfl⟩ := Prod.mk.inj h
    rfl
  | cons name rest ih =>
    rw [makeFoldersFrom] at h ⊢
    by_cases hup : name = ".."
    · rw [if_pos hup] at h ⊢
      exact ih h
    rw [if_neg hup] at h ⊢
    by_cases hlong : nameLimit < name.utf8ByteSize
    · rw [if_pos hlong] at h ⊢
      rw [(Prod.mk.inj h).2]
    rw [if_neg hlong] at h ⊢
    -- Whether the folder was there or had to be made, it is there afterwards.
    have hstill {e : Directory} (hmake : e.makeFoldersFrom (name :: place) rest = (made, fault))
        (hentry : e.at? (name :: place) = some .folder) :
        d'.at? (name :: place) = some .folder := by
      have hmade : (e.makeFoldersFrom (name :: place) rest).1.at? (name :: place) =
          some .folder := at?_makeFoldersFrom hentry
      rw [hmake] at hmade
      exact hkeeps.folder _ hmade
    split at h
    · rename_i text hentry
      obtain ⟨rfl, rfl⟩ := Prod.mk.inj h
      rw [hfault (by simp), hentry]
    · rename_i hentry
      rw [hstill h hentry]
      exact ih h
    · have hset := at?_set_cons d name place .folder
      rw [hstill h hset]
      exact ih h

theorem makeFolders_again {path : String} (hkeeps : KeepsFolders (d.makeFolders path).1 d')
    (hfault : (d.makeFolders path).2 ≠ none → d' = (d.makeFolders path).1) :
    d'.makeFolders path = (d', (d.makeFolders path).2) := by
  have hstart : d'.start path = d.start path := by
    have hcurrent : d'.current = d.current :=
      hkeeps.current.trans (current_makeFoldersFrom d _ _)
    simp only [start, hcurrent]
  rw [makeFolders, hstart]
  exact makeFoldersFrom_again rfl hkeeps hfault

/-- A walk to a folder starts from a folder. -/
theorem at?_of_walk {place q : Place} (hwalk : d.walk place names = .ok q)
    (hfolder : d.at? q = some .folder) : d.at? place = some .folder := by
  cases names with
  | nil => exact Except.ok.inj hwalk ▸ hfolder
  | cons name rest =>
    rw [walk] at hwalk
    split at hwalk
    · cases hwalk
    · cases hwalk
    · assumption

/-- The folders on the way to a folder need not be made. -/
theorem makeFoldersFrom_of_walk {place q : Place} {back : List String}
    (hwalk : d.walk place (names ++ back) = .ok q) (hfolder : d.at? q = some .folder) :
    d.makeFoldersFrom place names = (d, none) := by
  induction names generalizing place with
  | nil => rfl
  | cons name rest ih =>
    rw [List.cons_append] at hwalk
    simp only [walk, at?_of_walk hwalk hfolder] at hwalk
    rw [makeFoldersFrom]
    by_cases hup : name = ".."
    · rw [if_pos hup] at hwalk ⊢
      exact ih hwalk
    rw [if_neg hup] at hwalk ⊢
    by_cases hlong : nameLimit < name.utf8ByteSize
    · rw [if_pos hlong] at hwalk
      cases hwalk
    rw [if_neg hlong] at hwalk ⊢
    rw [at?_of_walk hwalk hfolder]
    exact ih hwalk

theorem IsFolder.makeFolders_front {front : String} {q : Place} (hq : d.IsFolder folder q)
    (hnames : Path.names front <+: Path.names folder)
    (habsolute : Path.isAbsolute front = Path.isAbsolute folder) :
    d.makeFolders front = (d, none) := by
  obtain ⟨back, hback⟩ := hnames
  have hstart : d.start front = d.start folder := by rw [start, start, habsolute]
  rw [makeFolders, hstart]
  exact makeFoldersFrom_of_walk (hback ▸ hq.1) hq.2

theorem IsFolder.makeFolders_eq {q : Place} (hq : d.IsFolder folder q) :
    d.makeFolders folder = (d, none) :=
  hq.makeFolders_front (List.prefix_refl _) rfl

/-! ## Names that are spared -/

/-- All folders stay, and nothing changes under one name. -/
structure Spares (name : String) (d d' : Directory) : Prop extends KeepsFolders d d' where
  entry : ∀ q, d'.at? (name :: q) = d.at? (name :: q)

theorem Spares.refl (name : String) (d : Directory) : Spares name d d := ⟨.refl d, fun _ => rfl⟩

theorem Spares.trans {d'' : Directory} (h : Spares name d d') (h' : Spares name d' d'') :
    Spares name d d'' :=
  ⟨h.toKeepsFolders.trans h'.toKeepsFolders, fun q => (h'.entry q).trans (h.entry q)⟩

theorem spares_makeFoldersFrom {place : Place} (h : name ∉ names) :
    Spares name d (d.makeFoldersFrom place names).1 := by
  induction names generalizing d place with
  | nil => exact .refl name d
  | cons first rest ih =>
    rw [List.mem_cons, not_or] at h
    rw [makeFoldersFrom]
    split
    · exact ih h.2
    split
    · exact .refl name d
    split
    · exact .refl name d
    · exact ih h.2
    · rename_i hnone
      refine Spares.trans ⟨keepsFolders_set (by simp [hnone]) _, fun q => ?_⟩ (ih h.2)
      have hplace : name :: q ≠ first :: place := fun heq => h.1 (List.cons.inj heq).1
      rw [at?_set_of_ne hplace]

theorem spares_write (hother : Path.IsName other) (hne : name ≠ other)
    (h : d.write (Path.join folder other) text = .ok d') : Spares name d d' := by
  refine ⟨keepsFolders_write hother h, fun q => ?_⟩
  obtain ⟨q', -, -, -, rfl⟩ := write_join hother h
  have hplace : name :: q ≠ other :: q' := fun heq => hne (List.cons.inj heq).1
  rw [at?_set_of_ne hplace]

/-! ## Folders that are missing -/

/-- Whatever there is stands in a folder. -/
def Rooted (d : Directory) : Prop :=
  ∀ name place entry, d.at? (name :: place) = some entry → d.at? place = some .folder

/-- All folders on a way that only goes down are there if the last one is. -/
theorem Rooted.walk_eq (h : d.Rooted) {place q : Place} (hdown : ".." ∉ names)
    (hwalk : d'.walk place names = .ok q) (hfolder : d.at? q = some .folder) :
    d.walk place names = .ok q := by
  induction names generalizing place with
  | nil => exact hwalk
  | cons name rest ih =>
    rw [List.mem_cons, not_or] at hdown
    have hup : ¬ name = ".." := fun heq => hdown.1 heq.symm
    rw [walk] at hwalk
    split at hwalk
    · cases hwalk
    · cases hwalk
    rw [if_neg hup] at hwalk
    split at hwalk
    · cases hwalk
    have hrest := ih hdown.2 hwalk
    have hplace := h name place _ (at?_of_walk hrest hfolder)
    simp only [walk, hplace, if_neg hup]
    rw [if_neg ‹_›, hrest]

end Directory

end BenchTracker
