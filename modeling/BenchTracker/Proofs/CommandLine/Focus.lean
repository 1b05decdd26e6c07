import BenchTracker.CommandLine
import BenchTracker.Proofs.Cache.Foci
import BenchTracker.Proofs.Kernel.Spelling

/-!
# The focus text

The user spells the focus kernel. A text that spells none is refused, and is quoted as it was given.
All spellings of a kernel lead to the same files of the cache, and no two kernels share these.
-/

namespace BenchTracker

/-! ## The files of a kernel -/

/-- In one folder, different names make different paths. -/
theorem Path.join_inj {folder name other : String} (h : IsName name) (h' : IsName other)
    (hjoin : join folder name = join folder other) : name = other := by
  have hnames := congrArg names hjoin
  rw [h.names_join folder, h'.names_join folder] at hnames
  exact (List.cons.inj (List.append_cancel_left hnames)).1

theorem Cache.seriesPath_inj {folder : String} {kernel kernel' : Kernel}
    (h : (mk folder kernel).seriesPath = (mk folder kernel').seriesPath) : kernel = kernel' := by
  have hname : (mk folder kernel).fileName ".json" = (mk folder kernel').fileName ".json" :=
    Path.join_inj (isName_series _) (isName_series _) h
  exact focus_eq_of_fileName_eq rfl rfl hname

namespace CommandLine

/-! ## Texts that are refused -/

/-- With access given, the program fails for its focus text exactly if the text cannot be read. -/
theorem runOptions_eq_invalidFocus {o : Options} {url token : String} (hurl : o.url = some url)
    (htoken : o.token = some token) (connect : String → String → Provider) (d : Directory) :
    runOptions o connect d = .failed (.parameters (.invalidFocus o.raw.focus)) ↔
      Kernel.read? o.raw.focus = none := by
  simp only [runOptions, execOptions, hurl, htoken]
  cases hread : Kernel.read? o.raw.focus with
  | none => simp only [Parameters.ofRaw?, hread, Option.map_none]
  | some kernel =>
    simp only [Parameters.ofRaw?, hread, Option.map_some, reduceCtorEq, iff_false]
    split <;> rintro ⟨⟩

/-! ## Reading and printing -/

/-- A text is read as a kernel exactly if it spells this kernel, and is refused if it spells none.
The text of a kernel is read back unless a dimension is zero. Two spellings stand for the same files
of a cache exactly if they spell the same kernel. -/
theorem focus_read_or_refused :
    (∀ s kernel, Kernel.read? s = some kernel ↔ Kernel.Spells s kernel) ∧
    (∀ (o : Options) (url token : String) (connect : String → String → Provider) (d : Directory),
      o.url = some url → o.token = some token →
        (runOptions o connect d = .failed (.parameters (.invalidFocus o.raw.focus)) ↔
          ∀ kernel, ¬ Kernel.Spells o.raw.focus kernel)) ∧
    (∀ kernel : Kernel, Kernel.read? kernel.text = some kernel ↔
      0 < kernel.m ∧ 0 < kernel.n ∧ 0 < kernel.k) ∧
    ∀ (folder s s' : String) (kernel kernel' : Kernel),
      Kernel.Spells s kernel → Kernel.Spells s' kernel' →
        (((Cache.mk folder kernel).seriesPath = (Cache.mk folder kernel').seriesPath ∧
          (Cache.mk folder kernel).watermarkPath = (Cache.mk folder kernel').watermarkPath) ↔
          Kernel.read? s = Kernel.read? s') := by
  refine ⟨fun s kernel => Kernel.read?_eq_some_iff, ?_, fun kernel => Kernel.read?_text_iff, ?_⟩
  · intro o url token connect d hurl htoken
    rw [runOptions_eq_invalidFocus hurl htoken, Kernel.read?_eq_none_iff]
  · intro folder s s' kernel kernel' h h'
    rw [Kernel.read?_eq_some_iff.2 h, Kernel.read?_eq_some_iff.2 h', Option.some.injEq]
    constructor
    · exact fun hpaths => Cache.seriesPath_inj hpaths.1
    · rintro rfl
      exact ⟨rfl, rfl⟩

/-- White space, a plus sign and zeros in front make no difference, but a dimension of zero does. -/
theorem focus_read_or_refused_padded :
    let kernel : Kernel := ⟨4, 5, 6⟩
    let options : Options := Options.of
      { positionals := ["https://ci", "secret", "0", "-1", " 4x0x6"] } fun _ => none
    let d : Directory := ⟨[], []⟩
    let connect (_ _ : String) : Provider := .unreachable
    Kernel.Spells " +4x 05 x6\n" kernel ∧
      runOptions options connect d = .failed (.parameters (.invalidFocus " 4x0x6")) ∧
      Kernel.read? kernel.text = some kernel ∧
      Kernel.read? " +4x 05 x6\n" = Kernel.read? kernel.text := by
  intro kernel options d connect
  obtain ⟨hread, hrefused, htext, hfiles⟩ := focus_read_or_refused
  have hpadded : Kernel.Spells " +4x 05 x6\n" kernel := (hread _ _).1 (by decide)
  have hprinted : Kernel.read? kernel.text = some kernel := (htext kernel).2 (by decide)
  have hnone : ∀ other, ¬ Kernel.Spells " 4x0x6" other := by
    intro other h
    have hother := (hread _ _).2 h
    have hzero : Kernel.read? " 4x0x6" = none := by decide
    rw [hzero] at hother
    cases hother
  refine ⟨hpadded, ?_, hprinted, ?_⟩
  · exact (hrefused options "https://ci" "secret" connect d rfl rfl).2 hnone
  · exact (hfiles "data" _ _ kernel kernel hpadded ((hread _ _).1 hprinted)).1 ⟨rfl, rfl⟩

end CommandLine

end BenchTracker
