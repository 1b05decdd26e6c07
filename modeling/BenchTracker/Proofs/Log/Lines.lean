import BenchTracker.Log.Measurements
import BenchTracker.Proofs.Log.Scan
import BenchTracker.Proofs.Text.Fields

/-!
# Timings line by line

An invocation stands on one line, and so do the time of a timing and its value. But the white space
between these two may contain line breaks. So a timing that is cut off behind its time takes the
value of the next line that is not blank, if this line shows one, whatever else stands there. Where
this does not happen, the throughputs of a log are those of its lines.
-/

namespace BenchTracker

namespace Log

open Scan

variable {s l r x value back : List Char} {lines rest : List (List Char)}

/-- White space only. -/
def IsBlank (s : List Char) : Prop := ∀ c ∈ s, Text.isBlank c = true

/-- A timing ends behind its time, with nothing but white space up to the end of the line. -/
def CutOff (line : List Char) : Prop :=
  ∃ front time gap, line = front ++ "device: ".toList ++ time ++ " ms".toList ++ gap ∧
    time ≠ [] ∧ IsBlank gap

/-- The first line that is not blank shows a value in front of a unit. The last part is what follows
behind the unit. -/
inductive Shows : List (List Char) → List Char → List Char → Prop
  | here {gap value back : List Char} {rest : List (List Char)} (hgap : IsBlank gap)
    (hne : value ≠ []) :
    Shows ((gap ++ value ++ " GFLOPS/s".toList ++ back) :: rest) value
      (['\n'].intercalate (back :: rest))
  | further {line value back : List Char} {rest : List (List Char)} (hblank : IsBlank line)
    (h : Shows rest value back) : Shows (line :: rest) value back

/-- A timing is cut off, and further lines show a value. -/
inductive RunsOn : List (List Char) → Prop
  | here {line value back : List Char} {rest : List (List Char)} (hcut : CutOff line)
    (h : Shows rest value back) : RunsOn (line :: rest)
  | further {line : List Char} {rest : List (List Char)} (h : RunsOn rest) :
    RunsOn (line :: rest)

theorem runsOn_cons :
    RunsOn (l :: rest) ↔ (CutOff l ∧ ∃ value back, Shows rest value back) ∨ RunsOn rest := by
  constructor
  · intro h
    cases h with
    | here hcut h => exact .inl ⟨hcut, _, _, h⟩
    | further h => exact .inr h
  · rintro (⟨hcut, value, back, h⟩ | h)
    · exact .here hcut h
    · exact .further h

theorem RunsOn.exists_cutOff (h : RunsOn lines) : ∃ line ∈ lines, CutOff line := by
  induction h with
  | here hcut => exact ⟨_, List.mem_cons_self, hcut⟩
  | further _ ih =>
    obtain ⟨line, hmem, hcut⟩ := ih
    exact ⟨line, List.mem_cons_of_mem _ hmem, hcut⟩

theorem CutOff.of_suffix {t : List Char} (h : CutOff t) (ht : t <:+ l) : CutOff l := by
  obtain ⟨front, time, gap, rfl, hne, hgap⟩ := h
  obtain ⟨before, rfl⟩ := ht
  exact ⟨before ++ front, time, gap, by simp only [List.append_assoc], hne, hgap⟩

theorem CutOff.marked (h : CutOff l) : "device: ".toList <:+: l := by
  obtain ⟨front, time, gap, rfl, -⟩ := h
  exact ⟨front, time ++ " ms".toList ++ gap, by simp only [List.append_assoc]⟩

theorem not_isBlank_of_unit (value back : List Char) :
    ¬ IsBlank (value ++ " GFLOPS/s".toList ++ back) := by
  intro hblank
  have hunit := hblank 'G' (by simp)
  cases hunit

/-! ## The value behind the time -/

/-- The value of a throughput, which stands on the line in front of the unit. -/
def figure? : List Char → Option (List Char × List Char) :=
  afterPiece? (after? " GFLOPS/s".toList)

theorem throughput?_cons {c : Char} (hc : Text.isBlank c = true) (s : List Char) :
    throughput? (c :: s) = (throughput? s).or (figure? s) :=
  if_pos hc

theorem throughput?_cons_of_not {c : Char} (hc : ¬ Text.isBlank c = true) (s : List Char) :
    throughput? (c :: s) = none :=
  if_neg hc

theorem of_figure?_eq_some (h : figure? s = some (value, back)) :
    s = value ++ " GFLOPS/s".toList ++ back ∧ value ≠ [] := by
  obtain ⟨t, rfl, hne, -, ht⟩ := of_afterPiece?_eq_some h
  rw [after?_eq_some.1 ht, List.append_assoc]
  exact ⟨rfl, hne⟩

theorem isSome_figure? (hne : value ≠ []) (hline : '\n' ∉ value) (back : List Char) :
    (figure? (value ++ " GFLOPS/s".toList ++ back)).isSome := by
  rw [List.append_assoc]
  refine isSome_afterPiece? hne hline ?_
  rw [after?_append]
  rfl

theorem figure?_line (l r : List Char) :
    figure? (l ++ '\n' :: r) = (figure? l).map (behind r) :=
  afterPiece?_line l r fun _ t _ _ => after?_line (by simp) t r

theorem figure?_of_isBlank (h : IsBlank s) : figure? s = none := by
  rw [Option.eq_none_iff_forall_ne_some]
  rintro ⟨value, back⟩ hsome
  obtain ⟨rfl, -⟩ := of_figure?_eq_some hsome
  exact not_isBlank_of_unit value back h

theorem throughput?_of_isBlank (h : IsBlank s) : throughput? s = none := by
  induction s with
  | nil => rfl
  | cons c s ih =>
    obtain ⟨hc, hs⟩ := List.forall_mem_cons.1 h
    rw [throughput?_cons hc, ih hs, figure?_of_isBlank hs, Option.or_none]

/-- Behind a blank rest of a line the value may stand further down. -/
theorem throughput?_line_of_isBlank (h : IsBlank l) (r : List Char) :
    throughput? (l ++ '\n' :: r) = throughput? ('\n' :: r) := by
  induction l with
  | nil => rfl
  | cons c l ih =>
    obtain ⟨hc, hl⟩ := List.forall_mem_cons.1 h
    rw [List.cons_append, throughput?_cons hc, ih hl, figure?_line, figure?_of_isBlank hl,
      Option.map_none, Option.or_none]

/-- Otherwise it stands on this line. -/
theorem throughput?_line_of_not_isBlank (h : ¬ IsBlank l) (r : List Char) :
    throughput? (l ++ '\n' :: r) = (throughput? l).map (behind r) := by
  induction l with
  | nil => exact absurd (fun _ hc => by cases hc) h
  | cons c l ih =>
    rw [List.cons_append]
    by_cases hc : Text.isBlank c = true
    · have hl : ¬ IsBlank l := fun hl => h (List.forall_mem_cons.2 ⟨hc, hl⟩)
      rw [throughput?_cons hc, throughput?_cons hc, ih hl, figure?_line, Option.map_or]
    · rw [throughput?_cons_of_not hc, throughput?_cons_of_not hc, Option.map_none]

/-- The next line of a text, if it is not blank, shows the value that is taken behind a line break,
if it shows any. -/
theorem throughput?_next_of_isBlank (h : IsBlank l) (r : List Char) :
    throughput? ('\n' :: (l ++ '\n' :: r)) = throughput? ('\n' :: r) :=
  throughput?_line_of_isBlank (l := '\n' :: l) (List.forall_mem_cons.2 ⟨rfl, h⟩) r

theorem throughput?_next_of_not_isBlank (h : ¬ IsBlank l) (r : List Char) :
    throughput? ('\n' :: (l ++ '\n' :: r)) = (throughput? ('\n' :: l)).map (behind r) :=
  throughput?_line_of_not_isBlank (l := '\n' :: l)
    (fun hblank => h (List.forall_mem_cons.1 hblank).2) r

/-- What is taken behind a line break is shown by further lines. -/
theorem shows_of_throughput? (h : throughput? ('\n' :: s) = some (value, back)) :
    Shows (Text.fields '\n' s) value back := by
  have hlast (l value back : List Char) (h : throughput? ('\n' :: l) = some (value, back)) :
      ∃ gap, IsBlank gap ∧ value ≠ [] ∧ l = gap ++ value ++ " GFLOPS/s".toList ++ back := by
    obtain ⟨run, t, hl, hne, hrun, ht⟩ := exists_of_afterRun?_eq_some h
    obtain ⟨rfl, hvalue⟩ := of_figure?_eq_some ht
    obtain ⟨c, gap, rfl⟩ := List.exists_cons_of_ne_nil hne
    refine ⟨gap, (List.forall_mem_cons.1 hrun).2, hvalue, ?_⟩
    rw [List.cons_append] at hl
    rw [(List.cons.inj hl).2]
    simp only [List.append_assoc]
  refine Text.fields_induction (motive := fun s lines => ∀ value back,
    throughput? ('\n' :: s) = some (value, back) → Shows lines value back) ?_ ?_ s value back h
  · intro l _ value back h
    obtain ⟨gap, hgap, hne, rfl⟩ := hlast l value back h
    have hhere : Shows [gap ++ value ++ " GFLOPS/s".toList ++ back] value
        (['\n'].intercalate [back]) := .here hgap hne
    rwa [List.intercalate_singleton] at hhere
  · intro l s _ ih value back h
    by_cases hblank : IsBlank l
    · rw [throughput?_next_of_isBlank hblank] at h
      exact .further hblank (ih value back h)
    · rw [throughput?_next_of_not_isBlank hblank] at h
      obtain ⟨⟨value', back'⟩, hline, heq⟩ := Option.map_eq_some_iff.1 h
      obtain ⟨gap, hgap, hne, rfl⟩ := hlast l value' back' hline
      cases heq
      have hjoined : ['\n'].intercalate (back' :: Text.fields '\n' s) = back' ++ '\n' :: s := by
        rw [List.intercalate_cons_of_ne_nil (Text.fields_ne_nil '\n' s), Text.intercalate_fields,
          List.append_assoc, List.singleton_append]
      change Shows _ value' (back' ++ '\n' :: s)
      rw [← hjoined]
      exact .here hgap hne

theorem isSome_throughput?_of_shows (h : Shows (Text.fields '\n' s) value back) :
    (throughput? ('\n' :: s)).isSome := by
  have hlast (gap value back : List Char) (hgap : IsBlank gap) (hne : value ≠ [])
      (hline : '\n' ∉ gap ++ value ++ " GFLOPS/s".toList ++ back) :
      (throughput? ('\n' :: (gap ++ value ++ " GFLOPS/s".toList ++ back))).isSome := by
    have hfigure : (figure? (gap ++ value ++ " GFLOPS/s".toList ++ back)).isSome := by
      refine isSome_figure? (fun hnil => hne (List.append_eq_nil_iff.1 hnil).2)
        (fun hmem => hline ?_) back
      exact List.mem_append_left _ (List.mem_append_left _ hmem)
    rw [throughput?_cons rfl, Option.isSome_or, hfigure, Bool.or_true]
  refine Text.fields_induction (motive := fun s lines => ∀ value back,
    Shows lines value back → (throughput? ('\n' :: s)).isSome) ?_ ?_ s value back h
  · intro l hl value back h
    cases h with
    | here hgap hne => exact hlast _ _ _ hgap hne hl
    | further _ h => cases h
  · intro l s hl ih value back h
    cases h with
    | @here gap value line rest hgap hne =>
      have hblank : ¬ IsBlank (gap ++ value ++ " GFLOPS/s".toList ++ line) :=
        not_isBlank_of_unit (gap ++ value) line
      rw [throughput?_next_of_not_isBlank hblank, Option.isSome_map]
      exact hlast gap value line hgap hne hl
    | further hblank h =>
      rw [throughput?_next_of_isBlank hblank]
      exact ih value back h

/-! ## The time -/

/-- A piece without a line break belongs to the first line. -/
theorem exists_of_line_eq_append {piece t : List Char} (h : l ++ '\n' :: r = piece ++ t)
    (hpiece : '\n' ∉ piece) : ∃ t', l = piece ++ t' ∧ t = t' ++ '\n' :: r := by
  rcases List.append_eq_append_iff.1 h with ⟨mid, rfl, hr⟩ | ⟨mid, rfl, rfl⟩
  · cases mid with
    | nil => exact ⟨[], by simp, by simpa using hr.symm⟩
    | cons c mid =>
      obtain ⟨rfl, -⟩ := List.cons.inj hr
      simp at hpiece
  · exact ⟨mid, rfl, rfl⟩

/-- A timing behind its mark. -/
def timed? (s : List Char) : Option (List Char × List Char) :=
  (afterPiece? (fun s => (after? " ms".toList s).bind throughput?) s).map (·.2)

theorem timing?_eq (s : List Char) : timing? s = (after? "device: ".toList s).bind timed? := by
  unfold timing? timed?
  cases after? "device: ".toList s with
  | none => rfl
  | some t => exact (Option.map_eq_bind ..).symm

/-- The end of a time is the last one on its line, as no unit of time stands in a blank rest. -/
theorem not_prefix_of_suffix {gap t : List Char} (hgap : 'm' ∉ gap)
    (ht : t <:+ 'm' :: 's' :: gap) : ¬ " ms".toList <+: t := by
  rintro ⟨q, rfl⟩
  change ' ' :: 'm' :: 's' :: q <:+ 'm' :: 's' :: gap at ht
  rcases List.suffix_cons_iff.1 ht with heq | hsuffix
  · simp at heq
  · have hmem : 'm' ∈ 's' :: gap := hsuffix.subset (by simp)
    simp [hgap] at hmem

/-- A timing is the same with more lines behind it, unless it is cut off and a value follows. -/
theorem timed?_line (h : (∃ time gap, l = time ++ " ms".toList ++ gap ∧ time ≠ [] ∧ IsBlank gap) →
    throughput? ('\n' :: r) = none) :
    timed? (l ++ '\n' :: r) = (timed? l).map (behind r) := by
  have hpiece : afterPiece? (fun s => (after? " ms".toList s).bind throughput?) (l ++ '\n' :: r) =
      (afterPiece? (fun s => (after? " ms".toList s).bind throughput?) l).map
        (Prod.map id (behind r)) := by
    refine afterPiece?_line l r fun time t hl hne => ?_
    rw [after?_line (by simp)]
    cases hms : after? " ms".toList t with
    | none => rfl
    | some gap =>
      rw [Option.map_some, Option.bind_some, Option.bind_some]
      by_cases hgap : IsBlank gap
      · rw [after?_eq_some.1 hms, ← List.append_assoc] at hl
        rw [throughput?_line_of_isBlank hgap, h ⟨time, gap, hl, hne, hgap⟩,
          throughput?_of_isBlank hgap, Option.map_none]
      · exact throughput?_line_of_not_isBlank hgap r
  rw [timed?, hpiece, timed?, Option.map_map, Option.map_map]
  rfl

/-- A timing that is cut off takes the value that follows. -/
theorem timed?_cutOff {time gap : List Char} {y : List Char × List Char} (hne : time ≠ [])
    (hgap : IsBlank gap) (hline : '\n' ∉ time ++ " ms".toList ++ gap)
    (h : throughput? ('\n' :: r) = some y) :
    timed? (time ++ " ms".toList ++ gap ++ '\n' :: r) = some y := by
  have hm : 'm' ∉ gap := fun hmem => absurd (hgap 'm' hmem) (by decide)
  rw [List.append_assoc, List.append_assoc, timed?, afterPiece?_append (x := y) hne]
  · rfl
  · exact fun hmem => hline (List.mem_append_left _ (List.mem_append_left _ hmem))
  · rw [after?_append, Option.bind_some, throughput?_line_of_isBlank hgap, h]
  · refine afterPiece?_eq_none fun piece t hpiece hpiecene hpieceline => ?_
    rw [← List.append_assoc] at hpiece
    obtain ⟨t, hl, rfl⟩ := exists_of_line_eq_append hpiece hpieceline
    obtain ⟨c, piece, rfl⟩ := List.exists_cons_of_ne_nil hpiecene
    have hsuffix : t <:+ 'm' :: 's' :: gap := ⟨piece, (List.cons.inj hl).2.symm⟩
    rw [after?_line (by simp), after?_eq_none.2 (not_prefix_of_suffix hm hsuffix)]
    rfl

theorem timing?_line (h : CutOff l → throughput? ('\n' :: r) = none) :
    timing? (l ++ '\n' :: r) = (timing? l).map (behind r) := by
  rw [timing?_eq, timing?_eq, after?_line (by simp)]
  cases hdevice : after? "device: ".toList l with
  | none => rfl
  | some x =>
    refine timed?_line fun ⟨time, gap, hx, hne, hgap⟩ => h ?_
    rw [after?_eq_some.1 hdevice, hx, ← List.append_assoc, ← List.append_assoc]
    exact ⟨[], time, gap, rfl, hne, hgap⟩

theorem takes_timing? : Takes timing? := by
  intro s value back h
  rw [timing?_eq] at h
  obtain ⟨u, hdevice, htimed⟩ := Option.bind_eq_some_iff.1 h
  obtain ⟨⟨time, y⟩, htime, rfl⟩ := Option.map_eq_some_iff.1 htimed
  obtain ⟨t, rfl, -, -, ht⟩ := of_afterPiece?_eq_some htime
  obtain ⟨gap, hms, hthroughput⟩ := Option.bind_eq_some_iff.1 ht
  obtain ⟨run, figure, rfl, -, -, hfigure⟩ := exists_of_afterRun?_eq_some hthroughput
  obtain ⟨rfl, -⟩ := of_figure?_eq_some hfigure
  rw [after?_eq_some.1 hms] at hdevice
  rw [after?_eq_some.1 hdevice]
  refine ⟨"device: ".toList ++ (time ++ (" ms".toList ++ (run ++ (value ++ " GFLOPS/s".toList)))),
    by simp, by simp only [List.append_assoc]⟩

/-! ## Lines -/

theorem suffix_of_append_eq_append {mark front y : List Char}
    (h : mark ++ x = front ++ (mark ++ y)) : y <:+ x := by
  have hlength := congrArg List.length h
  simp only [List.length_append] at hlength
  have hy : y <:+ mark ++ x := by
    rw [h, ← List.append_assoc]
    exact List.suffix_append _ y
  exact List.suffix_of_suffix_length_le hy (List.suffix_append mark x) (by omega)

/-- Unless a timing runs on, a line and the lines behind it can be scanned apart. -/
theorem throughputs_line (h : CutOff l → throughput? ('\n' :: r) = none) :
    throughputs (l ++ '\n' :: r) = throughputs l ++ throughputs r :=
  all_line takes_timing? rfl fun _ ht => timing?_line fun hcut => h (hcut.of_suffix ht)

/-- The first timing of a line takes the value that follows if any of the line is cut off. -/
theorem throughputs_line_of_cutOff (hcut : CutOff l) (hline : '\n' ∉ l)
    (h : throughput? ('\n' :: r) = some (value, back)) :
    throughputs (l ++ '\n' :: r) = value :: throughputs back := by
  induction l with
  | nil =>
    obtain ⟨front, time, gap, hnil, -⟩ := hcut
    simp at hnil
  | cons c l ih =>
    obtain ⟨front, time, gap, hl, hne, hgap⟩ := hcut
    have hbreak : '\n' ∉ "device: ".toList := by simp
    have hdevice := after?_line hbreak (c :: l) r
    cases hmark : after? "device: ".toList (c :: l) with
    | some x =>
      -- The timing here reaches at least as far as the one that is cut off.
      have hx := after?_eq_some.1 hmark
      obtain ⟨before, rfl⟩ : time ++ " ms".toList ++ gap <:+ x := by
        have heq : "device: ".toList ++ x =
            front ++ ("device: ".toList ++ (time ++ " ms".toList ++ gap)) := by
          rw [← hx, hl]
          simp only [List.append_assoc]
        exact suffix_of_append_eq_append heq
      rw [← List.append_assoc, ← List.append_assoc] at hmark
      have htiming : timing? (c :: (l ++ '\n' :: r)) = some (value, back) := by
        rw [← List.cons_append, timing?_eq, hdevice, hmark, Option.map_some, Option.bind_some]
        refine timed?_cutOff (by simp [hne]) hgap (fun hmem => hline ?_) h
        rw [hx]
        exact List.mem_append_right _ (by simpa only [List.append_assoc] using hmem)
      exact all_cons_of_some takes_timing? htiming
    | none =>
      cases front with
      | nil =>
        rw [List.nil_append, List.append_assoc, List.append_assoc] at hl
        rw [hl, after?_append] at hmark
        cases hmark
      | cons d front =>
        have htiming : timing? (c :: (l ++ '\n' :: r)) = none := by
          rw [← List.cons_append, timing?_eq, hdevice, hmark]
          rfl
        have hcut : CutOff l := ⟨front, time, gap, (List.cons.inj hl).2, hne, hgap⟩
        rw [List.cons_append, throughputs, all_cons_of_none htiming]
        exact ih hcut fun hmem => hline (List.mem_cons_of_mem c hmem)

/-- Either a line is cut off and the value that follows is taken, or the line and the lines behind
it are scanned apart. -/
theorem throughputs_line_cases (hline : '\n' ∉ l) (s : List Char) :
    (CutOff l ∧ ∃ value back, Shows (Text.fields '\n' s) value back ∧
      throughputs (l ++ '\n' :: s) = value :: throughputs back) ∨
    (¬ (CutOff l ∧ ∃ value back, Shows (Text.fields '\n' s) value back) ∧
      throughputs (l ++ '\n' :: s) = throughputs l ++ throughputs s) := by
  by_cases hcut : CutOff l ∧ (throughput? ('\n' :: s)).isSome
  · obtain ⟨hcut, hsome⟩ := hcut
    obtain ⟨⟨value, back⟩, hvalue⟩ := Option.isSome_iff_exists.1 hsome
    exact .inl ⟨hcut, value, back, shows_of_throughput? hvalue,
      throughputs_line_of_cutOff hcut hline hvalue⟩
  · refine .inr ⟨fun ⟨h, value, back, hshows⟩ => ?_, throughputs_line fun h => ?_⟩
    · exact hcut ⟨h, isSome_throughput?_of_shows hshows⟩
    · exact Option.not_isSome_iff_eq_none.1 fun hsome => hcut ⟨h, hsome⟩

theorem throughputs_of_not_runsOn (h : ¬ RunsOn (Text.fields '\n' s)) :
    throughputs s = (Text.fields '\n' s).flatMap throughputs := by
  refine Text.fields_induction (motive := fun s lines => ¬ RunsOn lines →
    throughputs s = lines.flatMap throughputs) ?_ ?_ s h
  · intro l _ _
    rw [List.flatMap_singleton]
  · intro l s hl ih h
    rw [runsOn_cons, not_or] at h
    rcases throughputs_line_cases hl s with ⟨hcut, value, back, hshows, -⟩ | ⟨-, hapart⟩
    · exact absurd ⟨hcut, value, back, hshows⟩ h.1
    · rw [hapart, ih h.2, List.flatMap_cons]

theorem throughputs_of_runsOn (h : RunsOn (Text.fields '\n' s)) :
    ∃ front line rest value back, Text.fields '\n' s = front ++ line :: rest ∧ CutOff line ∧
      Shows rest value back ∧
      throughputs s = front.flatMap throughputs ++ value :: throughputs back := by
  refine Text.fields_induction (motive := fun s lines => RunsOn lines →
    ∃ front line rest value back, lines = front ++ line :: rest ∧ CutOff line ∧
      Shows rest value back ∧
      throughputs s = front.flatMap throughputs ++ value :: throughputs back) ?_ ?_ s h
  · intro l _ h
    rcases runsOn_cons.1 h with ⟨-, value, back, h⟩ | h <;> cases h
  · intro l s hl ih h
    rcases throughputs_line_cases hl s with ⟨hcut, value, back, hshows, hvalues⟩ | ⟨hnot, hapart⟩
    · exact ⟨[], l, Text.fields '\n' s, value, back, rfl, hcut, hshows, hvalues⟩
    · obtain ⟨front, line, rest, value, back, hlines, hcut, hshows, hvalues⟩ :=
        ih ((runsOn_cons.1 h).resolve_left hnot)
      refine ⟨l :: front, line, rest, value, back, ?_, hcut, hshows, ?_⟩
      · rw [hlines, List.cons_append]
      · rw [hapart, hvalues, List.flatMap_cons, List.append_assoc]

/-- Either no timing runs on, and then the throughputs of a log are those of its lines, or the first
one that does takes its value from a line further down, and the scan goes on behind this value. -/
theorem throughputs_lines (log : List Char) :
    (¬ RunsOn (Text.fields '\n' log) →
        throughputs log = (Text.fields '\n' log).flatMap throughputs) ∧
      (RunsOn (Text.fields '\n' log) → ∃ front line rest value back,
        Text.fields '\n' log = front ++ line :: rest ∧ CutOff line ∧ Shows rest value back ∧
          throughputs log = front.flatMap throughputs ++ value :: throughputs back) :=
  ⟨throughputs_of_not_runsOn, throughputs_of_runsOn⟩

/-- The first timing lacks its value, and a value stands on the next line. -/
theorem throughputs_cut_off :
    let log := "device: 0.5 ms\n11.0 GFLOPS/s".toList
    throughputs log = ["11.0".toList] ∧ (Text.fields '\n' log).flatMap throughputs = [] := by
  decide +kernel

end Log

end BenchTracker
