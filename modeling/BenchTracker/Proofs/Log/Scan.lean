import BenchTracker.Log.Scan

/-!
# What scans take

Each part of a scan is described by what it takes from the front of a text, and by what it makes of
a line with further lines behind it. A part that cannot go past a line break makes the same of the
line alone.
-/

namespace BenchTracker

namespace Scan

variable {α β : Type} {mark s t r run : List Char} {accept : Char → Bool}

/-- What was taken from a line, with further lines behind the rest of it. -/
def behind (r : List Char) : α × List Char → α × List Char := Prod.map id (· ++ '\n' :: r)

/-! ## Marks -/

theorem after?_eq_some : after? mark s = some r ↔ s = mark ++ r := by
  induction mark generalizing s with
  | nil => simp [after?]
  | cons m ms ih =>
    cases s with
    | nil => simp [after?]
    | cons c s => by_cases hc : c = m <;> simp [after?, hc, ih]

theorem after?_append (mark s : List Char) : after? mark (mark ++ s) = some s :=
  after?_eq_some.2 rfl

theorem after?_eq_none : after? mark s = none ↔ ¬ mark <+: s := by
  rw [Option.eq_none_iff_forall_ne_some]
  constructor
  · rintro h ⟨r, rfl⟩
    exact h r (after?_append mark r)
  · intro h r hr
    exact h ⟨r, (after?_eq_some.1 hr).symm⟩

theorem after?_eq_none_of_suffix (h : ¬ mark <:+: s) (ht : t <:+ s) : after? mark t = none :=
  after?_eq_none.2 fun hfront => h (hfront.isInfix.trans ht.isInfix)

theorem not_infix_of_mem {c : Char} (hmark : c ∈ mark) (h : c ∉ s) : ¬ mark <:+: s :=
  fun hinside => h (hinside.subset hmark)

/-- A mark whose last character is not in the second part of a text stands in the first part. -/
theorem infix_of_infix_append {c : Char} (h : mark <:+: s ++ t) (hlast : mark.getLast? = some c)
    (ht : c ∉ t) : mark <:+: s := by
  rcases List.infix_append_iff.1 h with hs | hinside | ⟨front, back, rfl, hfront, hback⟩
  · exact hs
  · exact absurd (hinside.subset (List.mem_of_getLast? hlast)) ht
  · cases back with
    | nil =>
      rw [List.append_nil]
      exact hfront.isInfix
    | cons d back =>
      rw [List.getLast?_append, List.getLast?_cons, Option.some_or] at hlast
      exact absurd (hback.subset (List.mem_of_getLast? (List.getLast?_cons.trans hlast))) ht

theorem after?_line (h : '\n' ∉ mark) (l r : List Char) :
    after? mark (l ++ '\n' :: r) = (after? mark l).map (· ++ '\n' :: r) := by
  induction mark generalizing l with
  | nil => rfl
  | cons m ms ih =>
    rw [List.mem_cons, not_or] at h
    cases l with
    | nil => simp [after?, h.1]
    | cons c l =>
      simp only [List.cons_append, after?]
      split
      · exact ih h.2 l
      · rfl

/-! ## Runs -/

theorem run?_append (hne : run ≠ []) (hrun : ∀ c ∈ run, accept c = true)
    (hstop : ∀ c ∈ s.head?, accept c = false) : run? accept (run ++ s) = some (run, s) := by
  have htake : (run ++ s).takeWhile accept = run ∧ (run ++ s).dropWhile accept = s := by
    rw [List.takeWhile_append_of_pos hrun, List.dropWhile_append_of_pos hrun]
    cases s with
    | nil => simp
    | cons c s => simp [hstop c rfl]
  rw [run?, htake.1, htake.2]
  cases run with
  | nil => exact absurd rfl hne
  | cons c run => rfl

theorem of_run?_eq_some (h : run? accept s = some (run, r)) :
    s = run ++ r ∧ run ≠ [] ∧ ∀ c ∈ run, accept c = true := by
  rw [run?] at h
  split at h
  · cases h
  · rename_i hne
    cases h
    exact ⟨List.takeWhile_append_dropWhile.symm, hne,
      fun c hc => List.all_eq_true.1 List.all_takeWhile c hc⟩

theorem run?_line (h : accept '\n' = false) (l r : List Char) :
    run? accept (l ++ '\n' :: r) = (run? accept l).map (behind r) := by
  have hspan : (l ++ '\n' :: r).takeWhile accept = l.takeWhile accept ∧
      (l ++ '\n' :: r).dropWhile accept = l.dropWhile accept ++ '\n' :: r := by
    induction l with
    | nil => simp [h]
    | cons c l ih =>
      cases hc : accept c with
      | false => simp [hc]
      | true => simpa [hc] using ih
  rw [run?, run?, hspan.1, hspan.2]
  split <;> rfl

/-! ## Runs that may be shorter -/

theorem exists_of_afterRun?_eq_some {rest : List Char → Option α} {x : α}
    (h : afterRun? accept rest s = some x) :
    ∃ run t, s = run ++ t ∧ run ≠ [] ∧ (∀ c ∈ run, accept c = true) ∧ rest t = some x := by
  induction s with
  | nil => cases h
  | cons c s ih =>
    rw [afterRun?] at h
    split at h
    · rename_i hc
      rcases Option.or_eq_some_iff.1 h with hrun | ⟨-, hrest⟩
      · obtain ⟨run, t, rfl, -, hall, ht⟩ := ih hrun
        exact ⟨c :: run, t, rfl, List.cons_ne_nil c run, List.forall_mem_cons.2 ⟨hc, hall⟩, ht⟩
      · exact ⟨[c], s, rfl, List.cons_ne_nil c [], by simpa using hc, hrest⟩
    · cases h

/-- The longest run is taken if it lets the rest succeed. -/
theorem afterRun?_append {rest : List Char → Option α} {x : α} (hne : run ≠ [])
    (hrun : ∀ c ∈ run, accept c = true) (hstop : ∀ c ∈ s.head?, accept c = false)
    (hrest : rest s = some x) : afterRun? accept rest (run ++ s) = some x := by
  induction run with
  | nil => exact absurd rfl hne
  | cons c run ih =>
    obtain ⟨hc, hrun⟩ := List.forall_mem_cons.1 hrun
    rw [List.cons_append, afterRun?, if_pos hc]
    cases run with
    | nil =>
      have hnone : afterRun? accept rest s = none := by
        cases s with
        | nil => rfl
        | cons d s => rw [afterRun?, hstop d rfl, if_neg Bool.false_ne_true]
      rw [List.nil_append, hnone, Option.none_or, hrest]
    | cons d run => rw [ih (List.cons_ne_nil d run) hrun, Option.some_or]

/-! ## Pieces of a line -/

theorem of_afterPiece?_eq_some {rest : List Char → Option α} {piece : List Char} {x : α}
    (h : afterPiece? rest s = some (piece, x)) :
    ∃ t, s = piece ++ t ∧ piece ≠ [] ∧ '\n' ∉ piece ∧ rest t = some x := by
  induction s generalizing piece with
  | nil => cases h
  | cons c s ih =>
    rw [afterPiece?] at h
    split at h
    · cases h
    · rename_i hc
      split at h
      · rename_i front y heq
        cases h
        obtain ⟨t, rfl, -, hline, ht⟩ := ih heq
        exact ⟨t, rfl, List.cons_ne_nil c front, by simp [Ne.symm hc, hline], ht⟩
      · obtain ⟨y, hy, heq⟩ := Option.map_eq_some_iff.1 h
        cases heq
        exact ⟨s, rfl, List.cons_ne_nil c [], by simp [Ne.symm hc], hy⟩

theorem afterPiece?_eq_none {rest : List Char → Option α}
    (h : ∀ piece t, s = piece ++ t → piece ≠ [] → '\n' ∉ piece → rest t = none) :
    afterPiece? rest s = none := by
  rw [Option.eq_none_iff_forall_ne_some]
  rintro ⟨piece, x⟩ hsome
  obtain ⟨t, hs, hne, hline, ht⟩ := of_afterPiece?_eq_some hsome
  rw [h piece t hs hne hline] at ht
  cases ht

/-- A piece that lets the rest succeed is taken if no longer one does. -/
theorem afterPiece?_append {rest : List Char → Option α} {piece : List Char} {x : α}
    (hne : piece ≠ []) (hline : '\n' ∉ piece) (hrest : rest s = some x)
    (hlonger : afterPiece? rest s = none) : afterPiece? rest (piece ++ s) = some (piece, x) := by
  induction piece with
  | nil => exact absurd rfl hne
  | cons c piece ih =>
    rw [List.mem_cons, not_or] at hline
    obtain ⟨hc, hline⟩ := hline
    rw [List.cons_append, afterPiece?, if_neg (Ne.symm hc)]
    cases piece with
    | nil => rw [List.nil_append, hlonger, hrest, Option.map_some]
    | cons d piece => rw [ih (List.cons_ne_nil d piece) hline]

/-- Some piece is taken if there is one that lets the rest succeed. -/
theorem isSome_afterPiece? {rest : List Char → Option α} {piece : List Char}
    (hne : piece ≠ []) (hline : '\n' ∉ piece) (hrest : (rest s).isSome) :
    (afterPiece? rest (piece ++ s)).isSome := by
  induction piece with
  | nil => exact absurd rfl hne
  | cons c piece ih =>
    rw [List.mem_cons, not_or] at hline
    obtain ⟨hc, hline⟩ := hline
    rw [List.cons_append, afterPiece?, if_neg (Ne.symm hc)]
    cases hlonger : afterPiece? rest (piece ++ s) with
    | some y => rfl
    | none =>
      cases piece with
      | nil => simpa using hrest
      | cons d piece =>
        have hsome := ih (List.cons_ne_nil d piece) hline
        rw [hlonger] at hsome
        cases hsome

theorem afterPiece?_line {rest : List Char → Option α} {alone : List Char → Option β}
    {g : β → α} (l r : List Char)
    (h : ∀ piece t, l = piece ++ t → piece ≠ [] → rest (t ++ '\n' :: r) = (alone t).map g) :
    afterPiece? rest (l ++ '\n' :: r) = (afterPiece? alone l).map (Prod.map id g) := by
  induction l with
  | nil => rfl
  | cons c l ih =>
    simp only [List.cons_append, afterPiece?]
    split
    · rfl
    · rw [ih fun piece t hl _ => h (c :: piece) t (by rw [hl, List.cons_append]) (by simp),
        h [c] l rfl (by simp)]
      cases afterPiece? alone l with
      | none => cases alone l <;> rfl
      | some x => rfl

/-! ## The first success and all of them -/

theorem first?_eq_none {scan : List Char → Option (α × List Char)}
    (h : ∀ t, t <:+ s → scan t = none) : first? scan s = none := by
  induction s with
  | nil => rfl
  | cons c s ih =>
    rw [first?, h _ (List.suffix_refl _)]
    exact ih fun t ht => h t (ht.trans (List.suffix_cons c s))

/-- A success takes something from the front and leaves the rest as it is. -/
def Takes (scan : List Char → Option (α × List Char)) : Prop :=
  ∀ s x r, scan s = some (x, r) → ∃ front, front ≠ [] ∧ s = front ++ r

variable {scan : List Char → Option (α × List Char)}

theorem Takes.length_lt (htakes : Takes scan) {x : α} (h : scan s = some (x, r)) :
    r.length < s.length := by
  obtain ⟨front, hne, rfl⟩ := htakes s x r h
  have hpos := List.length_pos_iff.2 hne
  rw [List.length_append]
  omega

/-- More fuel than the text is long makes no difference. -/
theorem allFrom_eq_all (htakes : Takes scan) {fuel : Nat} (hfuel : s.length ≤ fuel) :
    allFrom scan fuel s = all scan s := by
  suffices h : ∀ n m s, s.length ≤ n → s.length ≤ m → allFrom scan n s = allFrom scan m s from
    h fuel s.length s hfuel (Nat.le_refl _)
  intro n
  induction n with
  | zero =>
    intro m s hn _
    rw [List.length_eq_zero_iff.1 (Nat.le_zero.1 hn)]
    cases m <;> rfl
  | succ n ih =>
    intro m s hn hm
    cases s with
    | nil => cases m <;> rfl
    | cons c s =>
      cases m with
      | zero => cases hm
      | succ m =>
        rw [List.length_cons] at hn hm
        simp only [allFrom]
        split
        · rename_i x r hscan
          have hlt := htakes.length_lt hscan
          rw [List.length_cons] at hlt
          rw [ih m r (by omega) (by omega)]
        · exact ih m s (by omega) (by omega)

theorem all_cons_of_some (htakes : Takes scan) {c : Char} {x : α}
    (h : scan (c :: s) = some (x, r)) : all scan (c :: s) = x :: all scan r := by
  have hlt := htakes.length_lt h
  rw [List.length_cons] at hlt
  rw [← allFrom_eq_all htakes (Nat.le_of_lt_succ hlt), all, List.length_cons]
  simp only [allFrom, h]

theorem all_cons_of_none {c : Char} (h : scan (c :: s) = none) :
    all scan (c :: s) = all scan s := by
  rw [all, all, List.length_cons]
  simp only [allFrom, h]

theorem all_eq_singleton (htakes : Takes scan) {x : α} (h : scan s = some (x, [])) :
    all scan s = [x] := by
  cases s with
  | nil =>
    have hlt := htakes.length_lt h
    cases hlt
  | cons c s => exact all_cons_of_some htakes h

/-- What is found in a text is found at some place of it. -/
theorem exists_of_mem_all {x : α} (h : x ∈ all scan s) : ∃ t r, scan t = some (x, r) := by
  suffices hfrom : ∀ fuel s, x ∈ allFrom scan fuel s → ∃ t r, scan t = some (x, r) from
    hfrom s.length s h
  intro fuel
  induction fuel with
  | zero => exact fun s h => by cases h
  | succ fuel ih =>
    intro s h
    cases s with
    | nil => cases h
    | cons c s =>
      rw [allFrom] at h
      split at h
      · rename_i y r hscan
        rcases List.mem_cons.1 h with rfl | h
        · exact ⟨c :: s, r, hscan⟩
        · exact ih r h
      · exact ih s h

theorem all_eq_nil (h : ∀ t, t <:+ s → scan t = none) : all scan s = [] := by
  induction s with
  | nil => rfl
  | cons c s ih =>
    rw [all_cons_of_none (h _ (List.suffix_refl _))]
    exact ih fun t ht => h t (ht.trans (List.suffix_cons c s))

/-- A scan that takes the same from each end of a line, whether there are more lines behind or not,
can be made for the line and the lines behind it apart. -/
theorem all_line (htakes : Takes scan) {l r : List Char} (hbreak : scan ('\n' :: r) = none)
    (hline : ∀ t, t <:+ l → scan (t ++ '\n' :: r) = (scan t).map (behind r)) :
    all scan (l ++ '\n' :: r) = all scan l ++ all scan r := by
  induction hlength : l.length using Nat.strongRecOn generalizing l with
  | ind length ih =>
    cases l with
    | nil => exact all_cons_of_none hbreak
    | cons c l =>
      have hlocal := hline (c :: l) (List.suffix_refl _)
      rw [List.cons_append] at hlocal ⊢
      cases hscan : scan (c :: l) with
      | none =>
        rw [hscan] at hlocal
        rw [all_cons_of_none hlocal, all_cons_of_none hscan]
        refine ih l.length ?_ (fun t ht => hline t (ht.trans (List.suffix_cons c l))) rfl
        rw [← hlength, List.length_cons]
        exact Nat.lt_succ_self _
      | some y =>
        obtain ⟨x, q⟩ := y
        obtain ⟨front, -, hfront⟩ := htakes _ _ _ hscan
        rw [hscan] at hlocal
        rw [all_cons_of_some htakes hlocal, all_cons_of_some htakes hscan, List.cons_append]
        refine congrArg (x :: ·) (ih q.length ?_ (fun t ht => ?_) rfl)
        · exact hlength ▸ htakes.length_lt hscan
        · exact hline t (ht.trans ⟨front, hfront.symm⟩)

end Scan

end BenchTracker
