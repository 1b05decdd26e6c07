import BenchTracker.Proofs.Directory.Paths

/-!
# Files of one folder

What the operations on files of one folder do to the texts that are read there. Nothing but the
folders on the way decides where a path leads, and writing and renaming leave all folders in place,
so the files of a folder stay apart from each other.
-/

namespace BenchTracker

namespace Directory

/-! ## Places -/

@[simp, grind =] theorem lookup_cons (place : Place) (entry : Entry) (es : List (Place × Entry))
    (other : Place) :
    ((place, entry) :: es).lookup other =
      if other = place then some entry else es.lookup other := by
  by_cases h : other = place
  · simp [h]
  · rw [List.lookup_cons, beq_eq_false_iff_ne.2 h, if_neg h]

theorem lookup_filter_ne (place other : Place) (es : List (Place × Entry)) :
    (es.filter (·.1 ≠ place)).lookup other = if other = place then none else es.lookup other := by
  induction es with
  | nil => simp
  | cons e r ih =>
    obtain ⟨p, entry⟩ := e
    by_cases hp : p = place
    · subst p
      rw [List.filter_cons_of_neg (by simp), ih, lookup_cons]
      split <;> rfl
    · rw [List.filter_cons_of_pos (by simpa using hp), lookup_cons, lookup_cons, ih]
      by_cases ho : other = p
      · subst other
        rw [if_pos rfl, if_pos rfl, if_neg hp]
      · rw [if_neg ho, if_neg ho]

@[simp, grind =] theorem at?_set (d : Directory) (place : Place) (entry : Entry) (other : Place) :
    (d.set place entry).at? other =
      if other = [] then some .folder else if other = place then some entry
      else d.at? other := by
  unfold at?
  split
  · rfl
  · by_cases h : other = place
    · simp only [set, lookup_cons, if_pos h]
    · simp only [set, remove, lookup_cons, lookup_filter_ne, if_neg h]

@[simp, grind =] theorem at?_remove (d : Directory) (place other : Place) :
    (d.remove place).at? other =
      if other = [] then some .folder else if other = place then none else d.at? other := by
  unfold at?
  split
  · rfl
  · exact lookup_filter_ne place other d.entries

@[simp, grind =] theorem at?_set_cons (d : Directory) (name : String) (q : Place) (entry : Entry) :
    (d.set (name :: q) entry).at? (name :: q) = some entry := by
  rw [at?_set, if_neg (List.cons_ne_nil name q), if_pos rfl]

@[simp, grind =] theorem at?_set_of_ne {d : Directory} {place other : Place}
    (h : other ≠ place) (entry : Entry) :
    (d.set place entry).at? other = d.at? other := by
  rw [at?_set, if_neg h]
  split
  · subst other
    rfl
  · rfl

@[simp, grind =] theorem at?_remove_of_ne {d : Directory} {place other : Place}
    (h : other ≠ place) :
    (d.remove place).at? other = d.at? other := by
  rw [at?_remove, if_neg h]
  split
  · subst other
    rfl
  · rfl

/-! ## Folders -/

/-- All folders of the one tree are folders of the other one. -/
structure KeepsFolders (d d' : Directory) : Prop where
  current : d'.current = d.current
  folder : ∀ place, d.at? place = some .folder → d'.at? place = some .folder

theorem KeepsFolders.refl (d : Directory) : KeepsFolders d d := ⟨rfl, fun _ hplace => hplace⟩

theorem KeepsFolders.trans {d d' d'' : Directory} (h : KeepsFolders d d')
    (h' : KeepsFolders d' d'') : KeepsFolders d d'' :=
  ⟨h'.current.trans h.current, fun place hplace => h'.folder place (h.folder place hplace)⟩

theorem keepsFolders_set {d : Directory} {place : Place} (h : d.at? place ≠ some .folder)
    (entry : Entry) : KeepsFolders d (d.set place entry) := by
  refine ⟨rfl, fun other hother => ?_⟩
  have hne : other ≠ place := by
    rintro rfl
    exact h hother
  rw [at?_set_of_ne hne, hother]

theorem keepsFolders_remove {d : Directory} {place : Place} (h : d.at? place ≠ some .folder) :
    KeepsFolders d (d.remove place) := by
  refine ⟨rfl, fun other hother => ?_⟩
  have hne : other ≠ place := by
    rintro rfl
    exact h hother
  rw [at?_remove_of_ne hne, hother]

theorem KeepsFolders.walk {d d' : Directory} (h : KeepsFolders d d') {place target : Place}
    {names : List String} (hwalk : d.walk place names = .ok target) :
    d'.walk place names = .ok target := by
  induction names generalizing place with
  | nil => exact hwalk
  | cons name rest ih =>
    simp only [Directory.walk] at hwalk ⊢
    cases hentry : d.at? place with
    | none => simp [hentry] at hwalk
    | some entry =>
      cases entry with
      | file text => simp [hentry] at hwalk
      | folder =>
        simp only [hentry, h.folder place hentry] at hwalk ⊢
        split
        · rename_i hup
          rw [if_pos hup] at hwalk
          exact ih hwalk
        · rename_i hup
          rw [if_neg hup] at hwalk
          split
          · rename_i hlong
            rw [if_pos hlong] at hwalk
            cases hwalk
          · rename_i hlong
            rw [if_neg hlong] at hwalk
            exact ih hwalk

theorem walk_append_singleton {d : Directory} {place target : Place} {names : List String}
    {name : String} (hname : Path.IsName name) :
    d.walk place (names ++ [name]) = .ok target ↔
      ∃ q, d.walk place names = .ok q ∧ d.at? q = some .folder ∧
        name.utf8ByteSize ≤ nameLimit ∧ target = name :: q := by
  induction names generalizing place with
  | nil =>
    simp only [List.nil_append, walk, if_neg hname.ne_up, Except.ok.injEq, exists_eq_left']
    cases hentry : d.at? place with
    | none => simp
    | some entry =>
      cases entry with
      | file text => simp
      | folder =>
        by_cases hlong : nameLimit < name.utf8ByteSize
        · simp [hlong, Nat.not_le.2 hlong]
        · simp [hlong, Nat.not_lt.1 hlong, eq_comm]
  | cons n rest ih =>
    simp only [List.cons_append, walk]
    cases hentry : d.at? place with
    | none => simp
    | some entry =>
      cases entry with
      | file text => simp
      | folder =>
        simp only
        split
        · exact ih
        · split
          · simp
          · exact ih

theorem walk_append {d : Directory} {place q : Place} {front : List String}
    (h : d.walk place front = .ok q) (back : List String) :
    d.walk place (front ++ back) = d.walk q back := by
  induction front generalizing place with
  | nil => rw [← Except.ok.inj h, List.nil_append]
  | cons name rest ih =>
    simp only [List.cons_append, walk] at h ⊢
    split at h
    · cases h
    · cases h
    split at h
    · rw [if_pos ‹_›]
      exact ih h
    split at h
    · cases h
    · rw [if_neg ‹_›, if_neg ‹_›]
      exact ih h

/-- The place of a folder that is there. -/
def IsFolder (d : Directory) (folder : String) (q : Place) : Prop :=
  d.walk (d.start folder) (Path.names folder) = .ok q ∧ d.at? q = some .folder

theorem KeepsFolders.isFolder {d d' : Directory} (h : KeepsFolders d d') {folder : String}
    {q : Place} (hq : d.IsFolder folder q) : d'.IsFolder folder q := by
  have hstart : d'.start folder = d.start folder := by simp [start, h.current]
  exact ⟨hstart ▸ h.walk hq.1, h.folder q hq.2⟩

theorem IsFolder.unique {d : Directory} {folder : String} {q q' : Place}
    (h : d.IsFolder folder q) (h' : d.IsFolder folder q') : q = q' :=
  Except.ok.inj (h.1.symm.trans h'.1)

/-! ## The operations -/

variable {d d' : Directory} {folder name other text : String}

theorem locate_join (hname : Path.IsName name) {place : Place} :
    d.locate (Path.join folder name) = .ok place ↔
      ∃ q, d.IsFolder folder q ∧ name.utf8ByteSize ≤ nameLimit ∧ place = name :: q := by
  have hstart : d.start (Path.join folder name) = d.start folder := by
    rw [start, Path.isAbsolute_join folder hname.isAbsolute_eq_false, start]
  rw [locate, if_neg (Path.join_ne_empty folder hname.ne_empty), hstart, hname.names_join folder,
    walk_append_singleton hname]
  simp only [IsFolder, and_assoc]

/-- A path that goes on behind a name leads somewhere only if the name is that of a folder. -/
theorem at?_of_locate_slash {first rest : String} (hfirst : Path.IsName first)
    (hrest : Path.names rest ≠ []) {q place : Place} (hq : d.IsFolder folder q)
    (h : d.locate (Path.join folder (first ++ "/" ++ rest)) = .ok place) :
    d.at? (first :: q) = some .folder := by
  have habsolute : Path.isAbsolute (first ++ "/" ++ rest) = false := by
    rw [String.append_assoc, Path.isAbsolute_append hfirst.ne_empty, hfirst.isAbsolute_eq_false]
  have hne : first ++ "/" ++ rest ≠ "" := by simp
  have hstart : d.start (Path.join folder (first ++ "/" ++ rest)) = d.start folder := by
    rw [start, Path.isAbsolute_join folder habsolute, start]
  obtain ⟨second, others, hothers⟩ := List.exists_cons_of_ne_nil hrest
  rw [locate, if_neg (Path.join_ne_empty folder hne), hstart, Path.names_join folder habsolute,
    walk_append hq.1, Path.names_append_slash, hfirst.names_eq, hothers] at h
  simp only [List.singleton_append, walk, hq.2, if_neg hfirst.ne_up] at h
  split at h
  · cases h
  · split at h
    · cases h
    · cases h
    · assumption

theorem read_join (hname : Path.IsName name) :
    d.read (Path.join folder name) = .ok text ↔
      ∃ q, d.IsFolder folder q ∧ name.utf8ByteSize ≤ nameLimit ∧
        d.at? (name :: q) = some (.file text) := by
  constructor
  · intro h
    cases hplace : d.locate (Path.join folder name) with
    | error fault => simp [read, hplace, bind, Except.bind] at h
    | ok place =>
      obtain ⟨q, hq, hshort, rfl⟩ := (locate_join hname).1 hplace
      simp only [read, hplace, bind, Except.bind] at h
      refine ⟨q, hq, hshort, ?_⟩
      split at h
      · cases h
      · cases h
      · rename_i hentry
        cases h
        exact hentry
  · rintro ⟨q, hq, hshort, hentry⟩
    have hplace : d.locate (Path.join folder name) = .ok (name :: q) :=
      (locate_join hname).2 ⟨q, hq, hshort, rfl⟩
    simp only [read, hplace, bind, Except.bind, hentry]

theorem write_join (hname : Path.IsName name)
    (h : d.write (Path.join folder name) text = .ok d') :
    ∃ q, d.IsFolder folder q ∧ name.utf8ByteSize ≤ nameLimit ∧
      d.at? (name :: q) ≠ some .folder ∧ d' = d.set (name :: q) (.file text) := by
  cases hplace : d.locate (Path.join folder name) with
  | error fault => simp [write, hplace, bind, Except.bind] at h
  | ok place =>
    obtain ⟨q, hq, hshort, rfl⟩ := (locate_join hname).1 hplace
    simp only [write, hplace, bind, Except.bind] at h
    split at h
    · cases h
    · rename_i hfolder
      cases h
      exact ⟨q, hq, hshort, hfolder, rfl⟩

theorem rename_join (hname : Path.IsName name) (hother : Path.IsName other)
    (h : d.rename (Path.join folder name) (Path.join folder other) = .ok d') :
    ∃ q text, d.IsFolder folder q ∧ other.utf8ByteSize ≤ nameLimit ∧
      d.at? (name :: q) = some (.file text) ∧ d.at? (other :: q) ≠ some .folder ∧
      d' = (d.remove (name :: q)).set (other :: q) (.file text) := by
  cases hsource : d.locate (Path.join folder name) with
  | error fault => simp [rename, hsource, bind, Except.bind] at h
  | ok source =>
    cases htarget : d.locate (Path.join folder other) with
    | error fault => simp [rename, hsource, htarget, bind, Except.bind] at h
    | ok target =>
      obtain ⟨q, hq, -, rfl⟩ := (locate_join hname).1 hsource
      obtain ⟨q', hq', hshort, rfl⟩ := (locate_join hother).1 htarget
      obtain rfl := hq.unique hq'
      simp only [rename, hsource, htarget, bind, Except.bind] at h
      split at h
      · cases h
      · cases h
      · cases h
      · rename_i text hentry hfolder
        cases h
        exact ⟨q, text, hq, hshort, hentry, hfolder, rfl⟩

@[simp] theorem settle_eq_none {result : Except FileFault Directory} :
    perform.settle d result = (d', none) ↔ result = .ok d' := by
  cases result <;> simp [perform.settle]

/-- A tree stays as it is if a file cannot be written or renamed. -/
theorem eq_of_settle_eq_some {result : Except FileFault Directory} {fault : FileFault}
    (h : perform.settle d result = (d', some fault)) : d' = d := by
  cases result <;> simp_all [perform.settle]

/-- The text of a file, if it can be read. -/
def text? (d : Directory) (path : String) : Option String := (d.read path).toOption

theorem text?_eq_some {path : String} : d.text? path = some text ↔ d.read path = .ok text := by
  unfold text?
  cases d.read path <;> simp [Except.toOption]

/-! ## What is read afterwards -/

theorem keepsFolders_write (hname : Path.IsName name)
    (h : d.write (Path.join folder name) text = .ok d') : KeepsFolders d d' := by
  obtain ⟨q, -, -, hfile, rfl⟩ := write_join hname h
  exact keepsFolders_set hfile _

theorem read_of_write (hname : Path.IsName name)
    (h : d.write (Path.join folder name) text = .ok d') :
    d'.read (Path.join folder name) = .ok text := by
  have hkeeps := keepsFolders_write hname h
  obtain ⟨q, hq, hshort, -, rfl⟩ := write_join hname h
  refine (read_join hname).2 ⟨q, hkeeps.isFolder hq, hshort, ?_⟩
  exact at?_set_cons _ _ _ _

theorem keepsFolders_rename (hname : Path.IsName name) (hother : Path.IsName other)
    (h : d.rename (Path.join folder name) (Path.join folder other) = .ok d') :
    KeepsFolders d d' := by
  obtain ⟨q, text, -, -, hentry, hfile, rfl⟩ := rename_join hname hother h
  have hsource : d.at? (name :: q) ≠ some .folder := by simp [hentry]
  refine (keepsFolders_remove hsource).trans (keepsFolders_set ?_ _)
  rw [at?_remove, if_neg (List.cons_ne_nil _ _)]
  split
  · simp
  · exact hfile

/-- A renamed file is read under its new name. -/
theorem read_of_rename (hname : Path.IsName name) (hother : Path.IsName other)
    (h : d.rename (Path.join folder name) (Path.join folder other) = .ok d')
    (hread : d.read (Path.join folder name) = .ok text) :
    d'.read (Path.join folder other) = .ok text := by
  have hkeeps := keepsFolders_rename hname hother h
  obtain ⟨q, old, hq, hshort, hentry, -, rfl⟩ := rename_join hname hother h
  obtain ⟨q', hq', -, hentry'⟩ := (read_join hname).1 hread
  obtain rfl := hq.unique hq'
  obtain rfl : old = text := by simpa [hentry] using hentry'
  refine (read_join hother).2 ⟨q, hkeeps.isFolder hq, hshort, ?_⟩
  exact at?_set_cons _ _ _ _

/-! ## Making folders -/

/-- Making folders adds places, and changes none. -/
theorem at?_makeFoldersFrom {place : Place} {names : List String} {other : Place} {entry : Entry}
    (h : d.at? other = some entry) :
    (d.makeFoldersFrom place names).1.at? other = some entry := by
  induction names generalizing d place with
  | nil => exact h
  | cons name rest ih =>
    rw [makeFoldersFrom]
    split
    · exact ih h
    · split
      · exact h
      · split
        · exact h
        · exact ih h
        · rename_i hnone
          refine ih ?_
          have hne : other ≠ name :: place := by
            rintro rfl
            simp [hnone] at h
          rw [at?_set_of_ne hne, h]

/-- The places that are added are folders. -/
theorem at?_of_makeFoldersFrom {place : Place} {names : List String} {other : Place}
    (h : (d.makeFoldersFrom place names).1.at? other = some (.file text)) :
    d.at? other = some (.file text) := by
  induction names generalizing d place with
  | nil => exact h
  | cons name rest ih =>
    rw [makeFoldersFrom] at h
    split at h
    · exact ih h
    · split at h
      · exact h
      · split at h
        · exact h
        · exact ih h
        · have hset := ih h
          rw [at?_set] at hset
          split at hset
          · cases hset
          · split at hset
            · cases hset
            · exact hset

@[simp] theorem current_makeFoldersFrom (d : Directory) (place : Place) (names : List String) :
    (d.makeFoldersFrom place names).1.current = d.current := by
  induction names generalizing d place with
  | nil => rfl
  | cons name rest ih =>
    rw [makeFoldersFrom]
    split
    · exact ih d _
    · split
      · rfl
      · split
        · rfl
        · exact ih d _
        · exact ih _ _

/-! ## Files of other names -/

/-- All folders stay, and files of one name are neither added nor changed. -/
structure Frames (name : String) (d d' : Directory) : Prop extends KeepsFolders d d' where
  file : ∀ q text, d'.at? (name :: q) = some (.file text) ↔ d.at? (name :: q) = some (.file text)

theorem Frames.refl (name : String) (d : Directory) : Frames name d d :=
  ⟨.refl d, fun _ _ => .rfl⟩

theorem Frames.trans {d'' : Directory} (h : Frames name d d') (h' : Frames name d' d'') :
    Frames name d d'' :=
  ⟨h.toKeepsFolders.trans h'.toKeepsFolders, fun q text => (h'.file q text).trans (h.file q text)⟩

theorem frames_makeFoldersFrom (name : String) (d : Directory) (place : Place)
    (names : List String) : Frames name d (d.makeFoldersFrom place names).1 where
  current := current_makeFoldersFrom d place names
  folder _ hplace := at?_makeFoldersFrom hplace
  file _ _ := ⟨at?_of_makeFoldersFrom, at?_makeFoldersFrom⟩

theorem frames_makeFolders (name : String) (d : Directory) (path : String) :
    Frames name d (d.makeFolders path).1 :=
  frames_makeFoldersFrom name d _ _

theorem keepsFolders_makeFolders (d : Directory) (path : String) :
    KeepsFolders d (d.makeFolders path).1 :=
  (frames_makeFolders "" d path).toKeepsFolders

theorem frames_write (hname : Path.IsName name) (hne : other ≠ name)
    (h : d.write (Path.join folder name) text = .ok d') : Frames other d d' := by
  refine ⟨keepsFolders_write hname h, fun q old => ?_⟩
  obtain ⟨q', -, -, -, rfl⟩ := write_join hname h
  have hplace : other :: q ≠ name :: q' := fun heq => hne (List.cons.inj heq).1
  rw [at?_set_of_ne hplace]

theorem frames_rename (hname : Path.IsName name) (hother : Path.IsName other) {third : String}
    (hne : third ≠ name) (hne' : third ≠ other)
    (h : d.rename (Path.join folder name) (Path.join folder other) = .ok d') :
    Frames third d d' := by
  refine ⟨keepsFolders_rename hname hother h, fun q text => ?_⟩
  obtain ⟨q', old, -, -, -, -, rfl⟩ := rename_join hname hother h
  have hplace : third :: q ≠ name :: q' := fun heq => hne (List.cons.inj heq).1
  have hplace' : third :: q ≠ other :: q' := fun heq => hne' (List.cons.inj heq).1
  rw [at?_set_of_ne hplace', at?_remove_of_ne hplace]

/-- What could be read is still read. -/
theorem Frames.read (h : Frames name d d') (hname : Path.IsName name)
    (hread : d.read (Path.join folder name) = .ok text) :
    d'.read (Path.join folder name) = .ok text := by
  obtain ⟨q, hq, hshort, hentry⟩ := (read_join hname).1 hread
  exact (read_join hname).2 ⟨q, h.isFolder hq, hshort, (h.file q text).2 hentry⟩

/-- In a folder that is there, nothing else is read either. -/
theorem Frames.text?_eq (h : Frames name d d') (hname : Path.IsName name) {q : Place}
    (hfolder : d.IsFolder folder q) :
    d'.text? (Path.join folder name) = d.text? (Path.join folder name) := by
  have hfolder' := h.isFolder hfolder
  ext text
  rw [text?_eq_some, text?_eq_some]
  refine ⟨fun hread => ?_, h.read hname⟩
  obtain ⟨p, hp, hshort, hentry⟩ := (read_join hname).1 hread
  obtain rfl := hp.unique hfolder'
  exact (read_join hname).2 ⟨p, hfolder, hshort, (h.file p text).1 hentry⟩

end Directory

end BenchTracker
