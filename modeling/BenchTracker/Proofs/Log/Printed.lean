import BenchTracker.Log
import BenchTracker.Proofs.Log.Invocations
import BenchTracker.Proofs.Log.Lines
import BenchTracker.Proofs.Log.Pairing
import BenchTracker.Proofs.Text.Blank

/-!
# Printed logs

A benchmark prints a line for the host and, for each kernel, an invocation, perhaps some other lines
and a timing. Reading such a log gives back the kernels with their values, also if its line breaks
were escaped in between.

The lines are scanned one by one: `Scanned` says what lines come to, and lines that follow each
other come to what the first ones and the others do.
-/

namespace BenchTracker

namespace Log

open Scan

/-- The marks of what is scanned in logs. -/
def marks : List (List Char) :=
  ["acc_bench_smm".toList, "device:".toList, "hostname:".toList, "INFO ACC/OpenCL:".toList,
    "GFLOPS/s".toList]

/-- The characters of a written number. -/
def isNumeric (c : Char) : Bool := c.isDigit || ['.', 'e', 'E', '+', '-'].contains c

/-- A line of other output. -/
structure Filler where
  text : List Char
  line : '\n' ∉ text
  unescaped : '\\' ∉ text
  unmarked : ∀ mark ∈ marks, ¬ mark <:+: text

/-- What is printed for a kernel: the invocation, lines in between, and the timing with the figure
for the throughput. -/
structure Printout where
  invocation : List Char
  dims : List Char × List Char × List Char
  invokes : Invokes invocation dims
  kernel : Kernel
  denotes : Denotes dims kernel
  between : List Filler
  time : List Char
  time_ne_nil : time ≠ []
  time_numeric : ∀ c ∈ time, isNumeric c = true
  /-- The spaces in front of the figure. -/
  gap : List Char
  gap_ne_nil : gap ≠ []
  gap_spaces : ∀ c ∈ gap, c = ' '
  figure : List Char
  figure_numeric : ∀ c ∈ figure, isNumeric c = true
  value : Float
  read_figure : Double.read? figure = some value

/-- A log of a host. Without more lines at the end its last line has no line break behind it. -/
structure PrintedLog where
  host : List Char
  host_ne_nil : host ≠ []
  host_chars : ∀ c ∈ host, c.isAlphanum = true ∨ c = '_' ∨ c = '-'
  printouts : List Printout
  ending : List Filler

namespace Printout

def timing (x : Printout) : List Char :=
  "device: ".toList ++ x.time ++ " ms".toList ++ x.gap ++ x.figure ++ " GFLOPS/s".toList

def lines (x : Printout) : List (List Char) :=
  x.invocation :: x.between.map Filler.text ++ [x.timing]

def measurement (x : Printout) : Measurement := ⟨x.kernel, x.value⟩

end Printout

namespace PrintedLog

def hostLine (p : PrintedLog) : List Char := "hostname: ".toList ++ p.host

def lines (p : PrintedLog) : List (List Char) :=
  p.hostLine :: p.printouts.flatMap Printout.lines ++ p.ending.map Filler.text

/-- The lines of the log with line breaks in between. -/
def text (p : PrintedLog) : List Char := ['\n'].intercalate p.lines

/-- The lines of the log with escaped line breaks in between. -/
def escaped (p : PrintedLog) : List Char := ['\\', 'n'].intercalate p.lines

def measurements (p : PrintedLog) : List Measurement := p.printouts.map Printout.measurement

end PrintedLog

/-! ## Lines without marks -/

variable {s t l mark : List Char} {lines more : List (List Char)} {ks js : List Kernel}
  {figures others : List (List Char)}

theorem kernels_eq_nil (h : ¬ "acc_bench_smm ".toList <:+: l) : kernels l = [] := by
  have hall : all invocation? l = [] := by
    refine all_eq_nil fun t ht => ?_
    rw [invocation?, after?_eq_none_of_suffix h ht]
    rfl
  rw [kernels, hall]
  rfl

theorem throughputs_eq_nil (h : ¬ "device: ".toList <:+: l) : throughputs l = [] := by
  refine all_eq_nil fun t ht => ?_
  rw [timing?_eq, after?_eq_none_of_suffix h ht]
  rfl

/-! ## What lines come to -/

/-- Complete lines without a report of a device, and the kernels and figures they show. -/
structure Scanned (lines : List (List Char)) (ks : List Kernel) (figures : List (List Char)) :
    Prop where
  line : ∀ l ∈ lines, '\n' ∉ l
  unescaped : ∀ l ∈ lines, '\\' ∉ l
  noReport : ∀ l ∈ lines, ¬ "INFO ACC/OpenCL:".toList <:+: l
  complete : ∀ l ∈ lines, ¬ CutOff l
  kernels : lines.flatMap Log.kernels = ks
  throughputs : lines.flatMap Log.throughputs = figures

theorem Scanned.append (h : Scanned lines ks figures) (hmore : Scanned more js others) :
    Scanned (lines ++ more) (ks ++ js) (figures ++ others) where
  line := List.forall_mem_append.2 ⟨h.line, hmore.line⟩
  unescaped := List.forall_mem_append.2 ⟨h.unescaped, hmore.unescaped⟩
  noReport := List.forall_mem_append.2 ⟨h.noReport, hmore.noReport⟩
  complete := List.forall_mem_append.2 ⟨h.complete, hmore.complete⟩
  kernels := by rw [List.flatMap_append, h.kernels, hmore.kernels]
  throughputs := by rw [List.flatMap_append, h.throughputs, hmore.throughputs]

theorem scanned_nil : Scanned [] [] [] := by
  constructor <;> simp

theorem scanned_singleton (hline : '\n' ∉ l) (hunescaped : '\\' ∉ l)
    (hreport : ¬ "INFO ACC/OpenCL:".toList <:+: l) (hcomplete : ¬ CutOff l) :
    Scanned [l] (kernels l) (Log.throughputs l) where
  line := List.forall_mem_singleton.2 hline
  unescaped := List.forall_mem_singleton.2 hunescaped
  noReport := List.forall_mem_singleton.2 hreport
  complete := List.forall_mem_singleton.2 hcomplete
  kernels := List.flatMap_singleton ..
  throughputs := List.flatMap_singleton ..

theorem scanned_fillers (fillers : List Filler) : Scanned (fillers.map Filler.text) [] [] := by
  induction fillers with
  | nil => exact scanned_nil
  | cons x fillers ih =>
    -- The scans look for the mark and a space behind it.
    have hspace (mark : List Char) (hmem : mark ∈ marks) : ¬ mark ++ [' '] <:+: x.text :=
      fun h => x.unmarked mark hmem ((List.prefix_append mark [' ']).isInfix.trans h)
    have hdevice : ¬ "device: ".toList <:+: x.text := hspace "device:".toList (by simp [marks])
    have hinvocation : ¬ "acc_bench_smm ".toList <:+: x.text :=
      hspace "acc_bench_smm".toList (by simp [marks])
    have hreport := x.unmarked "INFO ACC/OpenCL:".toList (by simp [marks])
    have hline := scanned_singleton x.line x.unescaped hreport fun hcut => hdevice hcut.marked
    rw [kernels_eq_nil hinvocation, throughputs_eq_nil hdevice] at hline
    exact hline.append ih

/-! ## A printout -/

section printout

variable (x : Printout)

theorem scanned_invocation : Scanned [x.invocation] [x.kernel] [] := by
  have hbreak : '\n' ∉ x.invocation := x.invokes.not_mem (by simp) rfl
  have hbackslash : '\\' ∉ x.invocation := x.invokes.not_mem (by simp) rfl
  have hcolon : ':' ∉ x.invocation := x.invokes.not_mem (by simp) rfl
  have hdevice : ¬ "device: ".toList <:+: x.invocation := not_infix_of_mem (by simp) hcolon
  have hreport : ¬ "INFO ACC/OpenCL:".toList <:+: x.invocation :=
    not_infix_of_mem (by simp) hcolon
  have hline := scanned_singleton hbreak hbackslash hreport fun hcut => hdevice hcut.marked
  rw [throughputs_eq_nil hdevice, kernels, x.invokes.all_invocation?, List.filterMap_cons_some
    ((kernel?_eq_some_iff x.invokes).2 x.denotes)] at hline
  exact hline

namespace Printout

theorem not_mem_timing {c : Char}
    (hwords : c ∉ "device: ".toList ++ " ms".toList ++ " GFLOPS/s".toList)
    (hnumeric : isNumeric c = false) : c ∉ x.timing := by
  have htime : c ∉ x.time := fun hc => by
    rw [x.time_numeric c hc] at hnumeric
    cases hnumeric
  have hfigure : c ∉ x.figure := fun hc => by
    rw [x.figure_numeric c hc] at hnumeric
    cases hnumeric
  have hgap : c ∉ x.gap := fun hc => by
    rw [x.gap_spaces c hc] at hwords
    exact hwords (by simp)
  simp only [List.mem_append, not_or] at hwords
  obtain ⟨⟨hdevice, hms⟩, hunit⟩ := hwords
  unfold timing
  simp only [List.mem_append, not_or]
  exact ⟨⟨⟨⟨⟨hdevice, htime⟩, hms⟩, hgap⟩, hfigure⟩, hunit⟩

/-- A timing ends with its unit, behind which there is no time. -/
theorem not_cutOff_timing : ¬ CutOff x.timing := by
  rintro ⟨front, time, gap, htiming, -, hgap⟩
  have hms : " ms".toList ++ gap <:+ x.timing := by
    rw [htiming]
    exact ⟨front ++ "device: ".toList ++ time, by simp only [List.append_assoc]⟩
  have hunit : " GFLOPS/s".toList <:+ x.timing := List.suffix_append _ _
  rcases List.suffix_or_suffix_of_suffix hms hunit with h | h
  · have hm : 'm' ∈ " GFLOPS/s".toList := h.subset (by simp)
    simp at hm
  · have hG : 'G' ∈ " ms".toList ++ gap := h.subset (by simp)
    rcases List.mem_append.1 hG with hG | hG
    · simp at hG
    · exact absurd (hgap 'G' hG) (by decide)

theorem isBlank_eq_false_of_isNumeric {c : Char} (h : isNumeric c = true) :
    Text.isBlank c = false := by
  rw [isNumeric, Bool.or_eq_true] at h
  rcases h with hdigit | hsymbol
  · exact Text.isBlank_of_isDigit hdigit
  · have hmem : c ∈ ['.', 'e', 'E', '+', '-'] := by simpa using hsymbol
    simp only [List.mem_cons, List.not_mem_nil, or_false] at hmem
    rcases hmem with rfl | rfl | rfl | rfl | rfl <;> rfl

theorem figure_ne_nil : x.figure ≠ [] := by
  intro hnil
  have hread := x.read_figure
  rw [hnil] at hread
  have hnone : Double.read? [] = none := by decide +kernel
  rw [hnone] at hread
  cases hread

theorem value?_figure : value? x.figure = some x.value := by
  rw [value?, Text.trim_eq_self fun c hc => isBlank_eq_false_of_isNumeric (x.figure_numeric c hc),
    x.read_figure]

theorem throughput?_figure :
    throughput? (x.gap ++ (x.figure ++ " GFLOPS/s".toList)) = some (x.figure, []) := by
  refine afterRun?_append x.gap_ne_nil (fun c hc => ?_) (fun c hc => ?_) ?_
  · rw [x.gap_spaces c hc]
    rfl
  · rw [List.head?_append_of_ne_nil _ x.figure_ne_nil] at hc
    exact isBlank_eq_false_of_isNumeric (x.figure_numeric c (List.mem_of_mem_head? hc))
  · refine afterPiece?_append x.figure_ne_nil (fun hbreak => ?_) (after?_append _ []) (by rfl)
    exact absurd (x.figure_numeric '\n' hbreak) (by decide)

theorem timing?_timing : timing? x.timing = some (x.figure, []) := by
  have hm : 'm' ∉ x.gap ++ (x.figure ++ " GFLOPS/s".toList) := by
    simp only [List.mem_append, not_or]
    exact ⟨fun hmem => absurd (x.gap_spaces 'm' hmem) (by decide),
      fun hmem => absurd (x.figure_numeric 'm' hmem) (by decide), by simp⟩
  unfold timing
  rw [timing?_eq]
  simp only [List.append_assoc, after?_append, Option.bind_some]
  rw [timed?, afterPiece?_append (x := (x.figure, [])) x.time_ne_nil]
  · rfl
  · exact fun hbreak => absurd (x.time_numeric '\n' hbreak) (by decide)
  · rw [after?_append, Option.bind_some, throughput?_figure]
  · -- No longer time is taken, as there is no second unit of time behind.
    refine afterPiece?_eq_none fun piece t hpiece hpiecene _ => ?_
    obtain ⟨c, piece, rfl⟩ := List.exists_cons_of_ne_nil hpiecene
    have hsuffix : t <:+ 'm' :: 's' :: (x.gap ++ (x.figure ++ " GFLOPS/s".toList)) :=
      ⟨piece, (List.cons.inj hpiece).2.symm⟩
    rw [after?_eq_none.2 (not_prefix_of_suffix hm hsuffix)]
    rfl

theorem throughputs_timing : throughputs x.timing = [x.figure] :=
  all_eq_singleton takes_timing? (timing?_timing x)

theorem scanned_timing : Scanned [x.timing] [] [x.figure] := by
  have hbreak : '\n' ∉ x.timing := x.not_mem_timing (by simp) rfl
  have hbackslash : '\\' ∉ x.timing := x.not_mem_timing (by simp) rfl
  have hinvocation : ¬ "acc_bench_smm ".toList <:+: x.timing :=
    not_infix_of_mem (c := 'b') (by simp) (x.not_mem_timing (by simp) rfl)
  have hreport : ¬ "INFO ACC/OpenCL:".toList <:+: x.timing :=
    not_infix_of_mem (c := 'A') (by simp) (x.not_mem_timing (by simp) rfl)
  have hline := scanned_singleton hbreak hbackslash hreport x.not_cutOff_timing
  rwa [kernels_eq_nil hinvocation, throughputs_timing] at hline

/-- The lines of a kernel come to the kernel and its figure. -/
theorem scanned_lines : Scanned x.lines [x.kernel] [x.figure] :=
  ((scanned_invocation x).append (scanned_fillers x.between)).append x.scanned_timing

end Printout

end printout

/-! ## The whole log -/

namespace PrintedLog

variable (p : PrintedLog)

theorem not_mem_host {c : Char} (halphanum : c.isAlphanum = false) (hunderscore : c ≠ '_')
    (hhyphen : c ≠ '-') : c ∉ p.host := by
  intro hc
  rcases p.host_chars c hc with h | h | h
  · rw [halphanum] at h
    cases h
  · exact hunderscore h
  · exact hhyphen h

theorem not_mem_hostLine {c : Char} (hword : c ∉ "hostname: ".toList)
    (halphanum : c.isAlphanum = false) (hunderscore : c ≠ '_') (hhyphen : c ≠ '-') :
    c ∉ p.hostLine := by
  unfold hostLine
  rw [List.mem_append, not_or]
  exact ⟨hword, p.not_mem_host halphanum hunderscore hhyphen⟩

theorem scanned_hostLine : Scanned [p.hostLine] [] [] := by
  have hbreak : '\n' ∉ p.hostLine := p.not_mem_hostLine (by simp) rfl (by simp) (by simp)
  have hbackslash : '\\' ∉ p.hostLine := p.not_mem_hostLine (by simp) rfl (by simp) (by simp)
  -- A host may be called like a mark, but it has no space and no colon, with which the marks end.
  have hspace : ' ' ∉ p.host := p.not_mem_host rfl (by simp) (by simp)
  have hcolon : ':' ∉ p.host := p.not_mem_host rfl (by simp) (by simp)
  have hinvocation : ¬ "acc_bench_smm ".toList <:+: p.hostLine := fun h =>
    absurd (infix_of_infix_append h (by simp) hspace) (by decide +kernel)
  have hdevice : ¬ "device: ".toList <:+: p.hostLine := fun h =>
    absurd (infix_of_infix_append h (by simp) hspace) (by decide +kernel)
  have hreport : ¬ "INFO ACC/OpenCL:".toList <:+: p.hostLine := fun h =>
    absurd (infix_of_infix_append h (by simp) hcolon) (by decide +kernel)
  have hline := scanned_singleton hbreak hbackslash hreport fun hcut => hdevice hcut.marked
  rwa [kernels_eq_nil hinvocation, throughputs_eq_nil hdevice] at hline

theorem scanned_printouts (printouts : List Printout) :
    Scanned (printouts.flatMap Printout.lines) (printouts.map Printout.kernel)
      (printouts.map Printout.figure) := by
  induction printouts with
  | nil => exact scanned_nil
  | cons x printouts ih => exact x.scanned_lines.append ih

theorem scanned_lines : Scanned p.lines (p.printouts.map Printout.kernel)
    (p.printouts.map Printout.figure) := by
  have h := (p.scanned_hostLine.append (scanned_printouts p.printouts)).append
    (scanned_fillers p.ending)
  rwa [List.append_nil, List.append_nil] at h

theorem fields_text : Text.fields '\n' p.text = p.lines :=
  Text.fields_intercalate (List.cons_ne_nil _ _) p.scanned_lines.line

theorem kernels_text : kernels p.text = p.printouts.map Printout.kernel := by
  rw [kernels_lines, fields_text, p.scanned_lines.kernels]

theorem throughputs_text : throughputs p.text = p.printouts.map Printout.figure := by
  have hcomplete : ¬ RunsOn (Text.fields '\n' p.text) := by
    rw [fields_text]
    intro hruns
    obtain ⟨line, hmem, hcut⟩ := hruns.exists_cutOff
    exact p.scanned_lines.complete line hmem hcut
  rw [throughputs_of_not_runsOn hcomplete, fields_text, p.scanned_lines.throughputs]

/-! ### The device -/

theorem find?_report : DeviceLine.report.find? p.text = none := by
  have hreport : ¬ "INFO ACC/OpenCL:".toList <:+: p.text := by
    intro hinside
    have hbreak : '\n' ∉ "INFO ACC/OpenCL:".toList := by simp
    obtain ⟨line, hmem, hline⟩ := Text.exists_infix_fields hinside hbreak
    rw [fields_text] at hmem
    exact p.scanned_lines.noReport line hmem hline
  refine first?_eq_none fun t ht => ?_
  rw [DeviceLine.report?, after?_eq_none_of_suffix hreport ht]
  rfl

theorem isHostChar_of_mem {c : Char} (h : c ∈ p.host) :
    DeviceLine.isHostChar c = true ∧ Text.isBlank c = false := by
  rcases p.host_chars c h with halphanum | rfl | rfl
  · have hrange : (65 ≤ c.toNat ∧ c.toNat ≤ 90 ∨ 97 ≤ c.toNat ∧ c.toNat ≤ 122) ∨
        48 ≤ c.toNat ∧ c.toNat ≤ 57 := by
      delta Char.isAlphanum Char.isAlpha Char.isUpper Char.isLower Char.isDigit at halphanum
      simpa [UInt32.le_iff_toNat_le] using halphanum
    have hlt : c.toNat < 128 := by omega
    have hword : Unicode.isAsciiWord c.toNat = true := by
      simp only [Unicode.isAsciiWord, Bool.or_eq_true, Bool.and_eq_true, decide_eq_true_eq,
        beq_iff_eq]
      omega
    rw [DeviceLine.isHostChar, Unicode.isWord, if_pos hlt, hword, Bool.true_or]
    exact ⟨rfl, Text.isBlank_eq_false (by omega) hlt⟩
  · decide
  · decide

/-- The host stands in front of the first line break. -/
theorem exists_text_eq : ∃ rest, p.text = "hostname: ".toList ++ (p.host ++ rest) ∧
    ∀ c ∈ rest.head?, c = '\n' := by
  have hlines : ∀ more, ∃ rest,
      ['\n'].intercalate (p.hostLine :: more) = "hostname: ".toList ++ (p.host ++ rest) ∧
        ∀ c ∈ rest.head?, c = '\n' := by
    intro more
    cases more with
    | nil =>
      refine ⟨[], ?_, by simp⟩
      rw [List.intercalate_singleton, List.append_nil]
      rfl
    | cons line more =>
      refine ⟨['\n'] ++ ['\n'].intercalate (line :: more), ?_, by simp⟩
      unfold hostLine
      simp only [List.intercalate_cons_cons, List.append_assoc]
  exact hlines _

theorem hostname?_text : ∃ rest, DeviceLine.hostname? p.text = some (p.host, rest) := by
  obtain ⟨rest, htext, hrest⟩ := p.exists_text_eq
  have hmark : "hostname: ".toList = "hostname:".toList ++ [' '] := by decide +kernel
  have hspace : run? Text.isBlank ([' '] ++ (p.host ++ rest)) = some ([' '], p.host ++ rest) := by
    refine run?_append (by simp) (by simp [Text.isBlank]) fun c hc => ?_
    rw [List.head?_append_of_ne_nil _ p.host_ne_nil] at hc
    exact (p.isHostChar_of_mem (List.mem_of_mem_head? hc)).2
  have hhost : run? DeviceLine.isHostChar (p.host ++ rest) = some (p.host, rest) := by
    refine run?_append p.host_ne_nil (fun c hc => (p.isHostChar_of_mem hc).1) fun c hc => ?_
    rw [hrest c hc]
    rfl
  refine ⟨rest, ?_⟩
  rw [htext, hmark, List.append_assoc, DeviceLine.hostname?, after?_append]
  simp only [bind, Option.bind_some, hspace, hhost]

theorem find?_hostname : DeviceLine.hostname.find? p.text = some p.host := by
  obtain ⟨rest, hrest⟩ := p.hostname?_text
  cases htext : p.text with
  | nil =>
    rw [htext] at hrest
    cases hrest
  | cons c s =>
    rw [htext] at hrest
    simp only [DeviceLine.find?, first?, hrest]

theorem findAny?_text {chain : List DeviceLine} (h : .hostname ∈ chain) :
    DeviceLine.findAny? chain p.text = some p.host := by
  have hsome : (DeviceLine.findAny? chain p.text).isSome :=
    List.findSome?_isSome_iff.2 ⟨.hostname, h, by rw [find?_hostname]; rfl⟩
  obtain ⟨name, hname⟩ := Option.isSome_iff_exists.1 hsome
  obtain ⟨line, -, hline⟩ := List.exists_of_findSome?_eq_some hname
  rw [hname]
  cases line with
  | report =>
    rw [find?_report] at hline
    cases hline
  | hostname =>
    rw [find?_hostname] at hline
    exact hline.symm

/-! ### The values -/

theorem mapM_value? :
    (p.printouts.map Printout.figure).mapM value? = some (p.printouts.map Printout.value) := by
  rw [mapM_eq_some_iff, List.forall₂_map_left_iff, List.forall₂_map_right_iff,
    List.forall₂_same]
  exact fun x _ => x.value?_figure

end PrintedLog

/-! ### Escaped line breaks -/

theorem unescape_append (h : '\\' ∉ s) (t : List Char) : unescape (s ++ t) = s ++ unescape t := by
  induction s with
  | nil => rfl
  | cons c s ih =>
    rw [List.mem_cons, not_or] at h
    obtain ⟨hc, hs⟩ := h
    rw [List.cons_append, unescape, ih hs, List.cons_append]
    exact fun _ hbackslash _ => hc hbackslash.symm

theorem unescape_intercalate (h : ∀ l ∈ lines, '\\' ∉ l) :
    unescape (['\\', 'n'].intercalate lines) = ['\n'].intercalate lines := by
  induction lines with
  | nil => rfl
  | cons l lines ih =>
    obtain ⟨hl, hlines⟩ := List.forall_mem_cons.1 h
    cases lines with
    | nil =>
      have hend := unescape_append hl []
      rw [List.append_nil] at hend
      rw [List.intercalate_singleton, List.intercalate_singleton, hend]
      exact List.append_nil l
    | cons k lines =>
      rw [List.intercalate_cons_cons, List.intercalate_cons_cons, List.append_assoc,
        unescape_append hl, ← ih hlines, List.append_assoc]
      rfl

/-- A printed log is read as its kernels with their values, in order, whether its line breaks were
escaped in between or not. -/
theorem read_printed (p : PrintedLog) {aliases : AliasTable} {chain : List DeviceLine}
    {device : String} (hchain : .hostname ∈ chain)
    (hdevice : aliases.resolve? p.host = some device) :
    read aliases chain p.text = .measured device p.measurements ∧
      read aliases chain (unescape p.escaped) = .measured device p.measurements := by
  have hescaped : unescape p.escaped = p.text := unescape_intercalate p.scanned_lines.unescaped
  have hfind : (DeviceLine.findAny? chain p.text).bind aliases.resolve? = some device := by
    rw [p.findAny?_text hchain, Option.bind_some, hdevice]
  have hread : read aliases chain p.text = .measured device p.measurements := by
    rw [read_eq_measure hfind, measure, p.kernels_text, p.throughputs_text, p.mapM_value?,
      if_neg (by simp)]
    refine congrArg (Outcome.measured device) ?_
    rw [List.zipWith_map, List.zipWith_self]
    rfl
  rw [hescaped]
  exact ⟨hread, hread⟩

/-- A printout of a kernel. -/
def Printout.ofKernel (kernel : Kernel) (between : List Filler) (figure : List Char)
    (hnumeric : ∀ c ∈ figure, isNumeric c = true) (hread : (Double.read? figure).isSome) :
    Printout where
  invocation := _
  dims := _
  invokes := .mk (Numeral.isNumeral_digits 5) (Numeral.isNumeral_digits 30000)
    (Numeral.isNumeral_digits kernel.m.toNat) (Numeral.isNumeral_digits kernel.n.toNat)
    (Numeral.isNumeral_digits kernel.k.toNat) (Numeral.isNumeral_digits 0)
    (Numeral.isNumeral_digits 0)
  kernel
  denotes := denotes_digits kernel
  between
  time := "0.01".toList
  time_ne_nil := by decide +kernel
  time_numeric := List.all_eq_true.1 (by decide +kernel)
  gap := List.replicate 3 ' '
  gap_ne_nil := by decide
  gap_spaces := fun _ => List.eq_of_mem_replicate
  figure
  figure_numeric := hnumeric
  value := (Double.read? figure).get hread
  read_figure := (Option.some_get hread).symm

theorem read_printed_two_kernels :
    let aliases : AliasTable := .ofTexts [["4090"]]
    let log := ['\n'].intercalate ["hostname: 4090".toList,
      "acc_bench_smm 5 30000 23 23 23 0 0".toList, "typename (id=3): double".toList,
      "device: 0.01 ms   5.0 GFLOPS/s".toList, "acc_bench_smm 5 30000 4 4 4 0 0".toList,
      "device: 0.01 ms   1e3 GFLOPS/s".toList]
    ∃ p : PrintedLog, p.text = log ∧ p.measurements.map (·.kernel) = [⟨23, 23, 23⟩, ⟨4, 4, 4⟩] ∧
      aliases.resolve? p.host = some "4090" ∧
      read aliases DeviceLine.defaultChain p.text = .measured "4090" p.measurements ∧
      read aliases DeviceLine.defaultChain (unescape p.escaped) =
        .measured "4090" p.measurements := by
  intro aliases log
  let filler : Filler :=
    ⟨"typename (id=3): double".toList, by decide +kernel, by decide +kernel, by decide +kernel⟩
  let first := Printout.ofKernel ⟨23, 23, 23⟩ [filler] "5.0".toList
    (List.all_eq_true.1 (by decide +kernel)) (by decide +kernel)
  let second := Printout.ofKernel ⟨4, 4, 4⟩ [] "1e3".toList
    (List.all_eq_true.1 (by decide +kernel)) (by decide +kernel)
  let p : PrintedLog :=
    ⟨"4090".toList, by decide +kernel,
      fun c hc => .inl (List.all_eq_true.1 (by decide +kernel) c hc), [first, second], []⟩
  have hdevice : aliases.resolve? p.host = some "4090" := by decide +kernel
  exact ⟨p, by decide +kernel, by decide +kernel, hdevice, read_printed p (by decide) hdevice⟩

end Log

end BenchTracker
