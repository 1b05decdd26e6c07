import BenchTracker.Build.Json
import BenchTracker.Proofs.Json.Members

/-!
# Pages of builds in any spelling

A page is a list of builds, which other programs write. Known fields may come in any order, with
further fields between them that hold whatever they like, and with any white space and escapes. It
is read as the builds that it stands for.
-/

namespace BenchTracker

open Json Json.Reader

/-- The texts of the values that stand for an optional one: none at all, `null` or the value. -/
inductive Json.IsOptional {α : Type} (writes : α → List Char → Prop) :
    Option α → List (List Char) → Prop where
  | absent : Json.IsOptional writes none []
  | null : Json.IsOptional writes none [['n', 'u', 'l', 'l']]
  | value {x : α} {text : List Char} (h : writes x text) : Json.IsOptional writes (some x) [text]

namespace Job

/-- The text is an object for the job: its fields come once each or, if they are empty, not at all,
and all further fields have values. The exit status is written in digits; a fraction or an exponent
would make it a double, and so would the sign of `-0`. -/
inductive IsWritten (job : Job) : List Char → Prop where
  | intro {ms : List (String × List Char)} {text : List Char} (h : IsObject ms text)
      (hname : Json.IsOptional IsText job.name (valuesOf "name" ms))
      (hstatus : Json.IsOptional (fun n t => t = Numeral.signedDigits n) job.exitStatus
        (valuesOf "exit_status" ms))
      (hurl : Json.IsOptional IsText job.logUrl (valuesOf "log_url" ms))
      (hrest : ∀ m ∈ ms, m.1 ≠ "name" → m.1 ≠ "exit_status" → m.1 ≠ "log_url" → IsValue m.2) :
      IsWritten job text

/-- The exit status is a signed 64-bit number. -/
def InRange (job : Job) : Prop := ∀ n ∈ job.exitStatus, IsSigned64 n

instance (job : Job) : Decidable job.InRange :=
  inferInstanceAs (Decidable (∀ n ∈ job.exitStatus, IsSigned64 n))

end Job

namespace Build

/-- The jobs of a build are a list, which may be missing if it is empty. -/
inductive AreJobs (jobs : List Job) : List (List Char) → Prop where
  | absent (h : jobs = []) : AreJobs jobs []
  | list {text : List Char} (h : IsList Job.IsWritten jobs text) : AreJobs jobs [text]

/-- The text is an object for the build. -/
inductive IsWritten (build : Build) : List Char → Prop where
  | intro {ms : List (String × List Char)} {text : List Char} (h : IsObject ms text)
      (hnumber : valuesOf "number" ms = [Numeral.digits build.number.toNat])
      (hjobs : AreJobs build.jobs (valuesOf "jobs" ms))
      (hrest : ∀ m ∈ ms, m.1 ≠ "number" → m.1 ≠ "jobs" → IsValue m.2) : IsWritten build text

/-- The text is a list of builds. -/
inductive IsPage (builds : List Build) : List Char → Prop where
  | intro {g text g' : List Char} (hg : IsBlank g) (h : IsList IsWritten builds text)
      (hg' : IsBlank g') : IsPage builds (g ++ (text ++ g'))

end Build

namespace Json

variable {α : Type} {writes : α → List Char → Prop} {value : Reader α} {x : Option α}
  {texts : List (List Char)}

/-- The slot of an optional value ends up with it. -/
theorem exists_slot_of_isOptional (h : IsOptional writes x texts)
    (hvalue : ∀ y ∈ x, ∀ t, writes y t → Takes value t y) :
    ∃ after, Slot (orNull value) none texts after ∧ after.join = x := by
  cases h with
  | absent => exact ⟨none, .stays, rfl⟩
  | null => exact ⟨some none, .filled rfl (fills_null value), rfl⟩
  | value h => exact ⟨_, .filled rfl (fills_orNull (hvalue _ rfl _ h)), rfl⟩

/-- An object is not taken for a list. -/
theorem head?_skipGap_ne {ms : List (String × List Char)} {text : List Char}
    (h : IsObject ms text) (r : List Char) : (skipGap (text ++ r)).head? ≠ some '[' := by
  obtain ⟨-, h⟩ := h
  obtain ⟨-⟩ := h
  have hgap : isGap Bracket.curly.opening = false := rfl
  rw [List.cons_append, skipGap_of_not_isGap hgap]
  exact fun hopening => absurd (Option.some.inj hopening) (by decide)

theorem skipsGap_natural {limit : Nat} : SkipsGap (natural limit) := by
  intro g s hg
  simp only [natural, anyNumber, Reader.skipGap_append hg]

end Json

/-! ## Jobs -/

namespace Job

variable {job : Job} {ms : List (String × List Char)} {fs fs' : Fields} {text : List Char}

theorem member_name (fs : Fields) : member "name" fs =
    once fs.name (orNull Reader.text) fun x => { fs with name := some x } := if_pos rfl

theorem member_exitStatus (fs : Fields) : member "exit_status" fs =
    once fs.exitStatus (orNull integer) fun x => { fs with exitStatus := some x } := by
  rw [member, if_neg (by decide), if_pos rfl]

theorem member_logUrl (fs : Fields) : member "log_url" fs =
    once fs.logUrl (orNull Reader.text) fun x => { fs with logUrl := some x } := by
  rw [member, if_neg (by decide), if_neg (by decide), if_pos rfl]

theorem member_of_ne {k : String} (hname : k ≠ "name") (hstatus : k ≠ "exit_status")
    (hurl : k ≠ "log_url") (fs : Fields) : member k fs = skipMember fs := by
  rw [member, if_neg hname, if_neg hstatus, if_neg hurl]

/-- The members fill the slots of their keys, in whatever order they come. -/
theorem gathers_members
    (hname : Slot (orNull Reader.text) fs.name (valuesOf "name" ms) fs'.name)
    (hstatus : Slot (orNull integer) fs.exitStatus (valuesOf "exit_status" ms) fs'.exitStatus)
    (hurl : Slot (orNull Reader.text) fs.logUrl (valuesOf "log_url" ms) fs'.logUrl)
    (hrest : ∀ m ∈ ms, m.1 ≠ "name" → m.1 ≠ "exit_status" → m.1 ≠ "log_url" → IsValue m.2) :
    GathersAll member ms fs fs' := by
  induction ms generalizing fs with
  | nil =>
    cases fs
    cases fs'
    cases hname
    cases hstatus
    cases hurl
    exact .nil
  | cons m ms ih =>
    obtain ⟨k, text⟩ := m
    obtain ⟨hvalue, htail⟩ := List.forall_mem_cons.1 hrest
    clear hrest
    by_cases hk : k = "name"
    · subst hk
      rw [valuesOf_cons_self] at hname
      rw [valuesOf_cons_of_ne (by decide)] at hstatus hurl
      obtain ⟨x, hslot, hgathers⟩ := hname.gathers (member_name fs)
      exact .cons hgathers (ih hslot hstatus hurl htail)
    rw [valuesOf_cons_of_ne hk] at hname
    by_cases hk' : k = "exit_status"
    · subst hk'
      rw [valuesOf_cons_self] at hstatus
      rw [valuesOf_cons_of_ne (by decide)] at hurl
      obtain ⟨x, hslot, hgathers⟩ := hstatus.gathers (member_exitStatus fs)
      exact .cons hgathers (ih hname hslot hurl htail)
    rw [valuesOf_cons_of_ne hk'] at hstatus
    by_cases hk'' : k = "log_url"
    · subst hk''
      rw [valuesOf_cons_self] at hurl
      obtain ⟨x, hslot, hgathers⟩ := hurl.gathers (member_logUrl fs)
      exact .cons hgathers (ih hname hstatus hslot htail)
    rw [valuesOf_cons_of_ne hk''] at hurl
    have hgathers := gathers_of_skipMember (hvalue hk hk' hk'') (member_of_ne hk hk' hk'' fs)
    exact .cons hgathers (ih hname hstatus hurl htail)

theorem takes_of_isWritten (h : IsWritten job text) (hrange : job.InRange) :
    Takes reader text job := by
  obtain ⟨hobject, hname, hstatus, hurl, hrest⟩ := h
  obtain ⟨name, hnameSlot, hname⟩ := exists_slot_of_isOptional hname fun _ _ _ => takes_text
  obtain ⟨url, hurlSlot, hurl⟩ := exists_slot_of_isOptional hurl fun _ _ _ => takes_text
  have hinteger : ∀ n ∈ job.exitStatus, ∀ t, t = Numeral.signedDigits n → Takes integer t n :=
    fun n hn t ht => ht ▸ takes_signedDigits (hrange n hn)
  obtain ⟨status, hstatusSlot, hstatus⟩ := exists_slot_of_isOptional hstatus hinteger
  have hgathers : GathersAll member _ {} ⟨name, status, url⟩ :=
    gathers_members hnameSlot hstatusSlot hurlSlot hrest
  have hmembers := takes_members hobject hgathers
  have hjob : Fields.job ⟨name, status, url⟩ = job := by
    rw [Fields.job, hname, hstatus, hurl]
  refine ⟨hmembers.starts, fun r hr => ?_⟩
  simp only [reader, if_neg (head?_skipGap_ne hobject r), hmembers.reads r hr, bind, Except.bind,
    hjob]

end Job

/-! ## Builds -/

namespace Build

variable {build : Build} {builds : List Build} {ms : List (String × List Char)} {fs fs' : Fields}
  {text : List Char}

theorem member_number (fs : Fields) : member "number" fs =
    once fs.number numberReader fun x => { fs with number := some x } := if_pos rfl

theorem member_jobs (fs : Fields) : member "jobs" fs =
    once fs.jobs jobsReader fun x => { fs with jobs := some x } := by
  rw [member, if_neg (by decide), if_pos rfl]

theorem member_of_ne {k : String} (hnumber : k ≠ "number") (hjobs : k ≠ "jobs") (fs : Fields) :
    member k fs = skipMember fs := by
  rw [member, if_neg hnumber, if_neg hjobs]

theorem gathers_members
    (hnumber : Slot numberReader fs.number (valuesOf "number" ms) fs'.number)
    (hjobs : Slot jobsReader fs.jobs (valuesOf "jobs" ms) fs'.jobs)
    (hrest : ∀ m ∈ ms, m.1 ≠ "number" → m.1 ≠ "jobs" → IsValue m.2) :
    GathersAll member ms fs fs' := by
  induction ms generalizing fs with
  | nil =>
    cases fs
    cases fs'
    cases hnumber
    cases hjobs
    exact .nil
  | cons m ms ih =>
    obtain ⟨k, text⟩ := m
    obtain ⟨hvalue, htail⟩ := List.forall_mem_cons.1 hrest
    clear hrest
    by_cases hk : k = "number"
    · subst hk
      rw [valuesOf_cons_self] at hnumber
      rw [valuesOf_cons_of_ne (by decide)] at hjobs
      obtain ⟨x, hslot, hgathers⟩ := hnumber.gathers (member_number fs)
      exact .cons hgathers (ih hslot hjobs htail)
    rw [valuesOf_cons_of_ne hk] at hnumber
    by_cases hk' : k = "jobs"
    · subst hk'
      rw [valuesOf_cons_self] at hjobs
      obtain ⟨x, hslot, hgathers⟩ := hjobs.gathers (member_jobs fs)
      exact .cons hgathers (ih hnumber hslot htail)
    rw [valuesOf_cons_of_ne hk'] at hjobs
    have hgathers := gathers_of_skipMember (hvalue hk hk') (member_of_ne hk hk' fs)
    exact .cons hgathers (ih hnumber hjobs htail)

/-- The exit statuses of all jobs are signed 64-bit numbers. -/
def InRange (build : Build) : Prop := ∀ job ∈ build.jobs, job.InRange

instance (build : Build) : Decidable build.InRange :=
  inferInstanceAs (Decidable (∀ job ∈ build.jobs, job.InRange))

theorem exists_slot_of_areJobs {jobs : List Job} {texts : List (List Char)} (h : AreJobs jobs texts)
    (hrange : ∀ job ∈ jobs, job.InRange) :
    ∃ after, Slot jobsReader none texts after ∧ after.getD [] = jobs := by
  cases h with
  | absent h => exact ⟨none, .stays, h.symm⟩
  | list h =>
    have htakes : Takes jobsReader _ jobs :=
      takes_listOf h fun job hjob _ ht => Job.takes_of_isWritten ht (hrange job hjob)
    have hskips : SkipsGap jobsReader := skipsGap_between .square (items ']' Job.reader)
    exact ⟨some jobs, .filled rfl (htakes.fills hskips), rfl⟩

theorem takes_of_isWritten (h : IsWritten build text) (hrange : build.InRange) :
    Takes reader text build := by
  obtain @⟨ms, _, hobject, hnumber, hjobs, hrest⟩ := h
  obtain ⟨jobs, hjobsSlot, hjobs⟩ := exists_slot_of_areJobs hjobs hrange
  have htakes : Takes numberReader _ build.number.toNat :=
    takes_digits build.number.toNat_lt (Nat.le_refl _)
  have hnumberSlot : Slot numberReader none (valuesOf "number" ms) (some build.number.toNat) := by
    rw [hnumber]
    exact .filled rfl (htakes.fills skipsGap_natural)
  have hgathers : GathersAll member _ {} ⟨some build.number.toNat, jobs⟩ :=
    gathers_members hnumberSlot hjobsSlot hrest
  have hmembers := takes_members hobject hgathers
  have hbuild : Fields.build? ⟨some build.number.toNat, jobs⟩ = some build := by
    rw [Fields.build?, Option.map_some, hjobs, UInt64.ofNat_toNat]
  refine ⟨hmembers.starts, fun r hr => ?_⟩
  simp only [reader, if_neg (head?_skipGap_ne hobject r), hmembers.reads r hr, bind, Except.bind,
    hbuild]

/-- A page is read as its builds, however it is written: with the known fields in any order, with
any further fields between them, and with any white space and escapes. Empty fields of a job may be
`null` or missing, and so may an empty list of jobs be. -/
theorem readPage_of_isPage {page : String} (h : IsPage builds page.toList)
    (hrange : ∀ build ∈ builds, build.InRange) : readPage page = .ok builds := by
  generalize hpage : page.toList = s at h
  obtain @⟨g, text, g', hg, hlist, hg'⟩ := h
  have htakes : Takes (listOf reader) text builds :=
    takes_listOf hlist fun build hbuild _ ht => takes_of_isWritten ht (hrange build hbuild)
  have hend : EndsNumber g' := by
    simpa using endsNumber_blank_append hg' endsNumber_nil
  have hread := htakes.fills (skipsGap_between _ _) g g' hg hend
  have hskip : skipGap g' = [] := List.dropWhile_eq_nil_iff.2 hg'
  simp only [readPage, readAll, hpage, hread, bind, Except.bind, hskip, if_true]

theorem readPage_of_isPage_unordered :
    readPage "[\x7b\"x\":[\x7b\x7d],\"\\u006eumber\" :7,\"jobs\":[\x7b\"name\":null\x7d]\x7d]" =
      .ok [⟨7, [⟨none, none, none⟩]⟩] := by
  have hblank : IsBlank [] := isBlank_nil
  have hspace : IsBlank [' '] := List.forall_mem_singleton.2 rfl
  have hname : IsField ("name", "null".toList) _ :=
    .intro (isText_plain (by decide)) (.intro hblank hblank)
  have hjob : Job.IsWritten ⟨none, none, none⟩ _ :=
    .intro (.intro (.cons hname .nil) (.intro (.cons hblank (.nil hblank))))
      .null .absent .absent (by simp)
  have hlist : IsList Job.IsWritten [⟨none, none, none⟩] "[\x7b\"name\":null\x7d]".toList :=
    .intro (.cons hjob .nil) (.intro (.cons hblank (.nil hblank)))
  have hjobs : IsField ("jobs", "[\x7b\"name\":null\x7d]".toList) _ :=
    .intro (isText_plain (by decide)) (.intro hblank hblank)
  have hempty : IsValue "\x7b\x7d".toList :=
    .between (by simp) .nil (.intro (b := .curly) (.nil hblank))
  have hvalue : IsValue "[\x7b\x7d]".toList :=
    .between (List.forall_mem_singleton.2 hempty) (.cons .element .nil)
      (.intro (.cons hblank (.nil hblank)))
  have hx : IsField ("x", "[\x7b\x7d]".toList) _ :=
    .intro (isText_plain (by decide)) (.intro hblank hblank)
  have hescape : Spells "\\u006e".toList 'n' :=
    .unit (.digits (i := 0) (j := 0) (k := 6) (l := 14) rfl rfl rfl rfl)
  have hnumber : IsText "number" (quoted [_, ['u'], ['m'], ['b'], ['e'], ['r']]) :=
    ⟨_, .cons hescape (.cons (.plain (by decide)) (.cons (.plain (by decide))
      (.cons (.plain (by decide)) (.cons (.plain (by decide))
      (.cons (.plain (by decide)) .nil))))), rfl⟩
  have hfield : IsField ("number", "7".toList) _ := .intro hnumber (.intro hspace hblank)
  have hobject := IsObject.intro (.cons hx (.cons hfield (.cons hjobs .nil)))
    (.intro (.cons hblank (.cons hblank hblank (.cons hblank hblank (.nil hblank)))))
  have hbuild : IsWritten ⟨7, [⟨none, none, none⟩]⟩ _ :=
    .intro hobject rfl (.list hlist) (by simpa [valuesOf] using hvalue)
  have hpage : IsPage [⟨7, [⟨none, none, none⟩]⟩] _ :=
    .intro hblank (.intro (.cons hbuild .nil) (.intro (.cons hblank (.nil hblank)))) hblank
  exact readPage_of_isPage hpage (by decide)

end Build

end BenchTracker
