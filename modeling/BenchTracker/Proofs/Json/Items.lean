import BenchTracker.Json.Shape
import BenchTracker.Proofs.Json.Number
import BenchTracker.Proofs.Json.Text

/-!
# Items between brackets

A reader takes a text for a value whatever stands behind it, as long as no number goes on there.
Brackets and commas keep this, with any white space between the tokens.
-/

namespace BenchTracker

namespace Json

namespace Reader

/-! ## White space -/

/-- Nothing but white space. -/
def IsBlank (g : List Char) : Prop := ∀ c ∈ g, isGap c = true

theorem isBlank_nil : IsBlank [] := by
  intro c hc
  cases hc

theorem skipGap_append {g : List Char} (hg : IsBlank g) (s : List Char) :
    skipGap (g ++ s) = skipGap s :=
  List.dropWhile_append_of_pos hg

theorem mark_append {c : Char} (hc : isGap c = false) {g : List Char} (hg : IsBlank g)
    (s : List Char) : mark c (g ++ c :: s) = .ok ((), s) := by
  rw [mark, skipGap_append hg, skipGap_of_not_isGap hc]
  simp [word]

/-- A mark or a value behind white space is not a continued number. -/
theorem endsNumber_blank_append {g r : List Char} (hg : IsBlank g) (hr : EndsNumber r) :
    EndsNumber (g ++ r) := by
  cases g with
  | nil => exact hr
  | cons c g =>
    have hc : isGap c = true := hg c List.mem_cons_self
    simp only [isGap, Bool.or_eq_true, decide_eq_true_eq] at hc
    rw [List.cons_append, endsNumber_cons]
    rcases hc with ((rfl | rfl) | rfl) | rfl <;> decide

theorem mark_colon {g : List Char} (hg : IsBlank g) (s : List Char) :
    mark ':' (g ++ ':' :: s) = .ok ((), s) :=
  mark_append rfl hg s

/-! ## Single items -/

def Bracket.opening : Bracket → Char
  | .square => '['
  | .curly => '\x7b'

/-- Values start with a quote, an opening bracket, a sign or a digit. -/
def startsValue (c : Char) : Bool :=
  c = '"' || c = '[' || c = '\x7b' || startsNumber c

theorem isGap_of_startsValue {c : Char} (h : startsValue c = true) : isGap c = false := by
  simp only [startsValue, Bool.or_eq_true, decide_eq_true_eq] at h
  rcases h with ((rfl | rfl) | rfl) | h
  · rfl
  · rfl
  · rfl
  · exact isGap_of_startsNumber h

theorem startsValue_of_startsNumber {c : Char} (h : startsNumber c = true) :
    startsValue c = true := by
  simp [startsValue, h]

/-- The reader takes the text for the value, whatever stands behind it. -/
structure Takes {α : Type} (reader : Reader α) (text : List Char) (x : α) : Prop where
  starts : ∃ c t, text = c :: t ∧ startsValue c = true
  reads : ∀ r, EndsNumber r → reader (text ++ r) = .ok (x, r)

variable {α β : Type} {item value : Reader α} {text : List Char} {x : α}

theorem Takes.map (h : Takes item text x) (f : α → β) :
    Takes (fun s => (item s).map fun (y, r) => (f y, r)) text (f x) := by
  refine ⟨h.starts, fun r hr => ?_⟩
  simp only [h.reads r hr]
  rfl

/-- A bracket that closes items: a mark that no number goes on with. -/
theorem Bracket.close_cases (b : Bracket) :
    isGap b.close = false ∧ startsValue b.close = false ∧ b.close ≠ ',' ∧
      ∀ r, EndsNumber (b.close :: r) := by
  cases b <;> exact ⟨by decide, by decide, by decide, fun r => endsNumber_cons.2 (by decide)⟩

/-- The text starts neither with white space nor with a closing bracket, so that an item may start
with it. -/
def StartsItem (text : List Char) : Prop :=
  ∃ c t, text = c :: t ∧ isGap c = false ∧ ∀ b : Bracket, c ≠ b.close

theorem startsItem_of_startsValue {c : Char} (h : startsValue c = true) (t : List Char) :
    StartsItem (c :: t) := by
  refine ⟨c, t, rfl, isGap_of_startsValue h, fun b => ?_⟩
  rintro rfl
  simp [b.close_cases.2.1] at h

theorem Takes.startsItem (h : Takes item text x) : StartsItem text := by
  obtain ⟨c, t, rfl, hc⟩ := h.starts
  exact startsItem_of_startsValue hc t

/-- The first item of a list is there. -/
theorem hasItem_first (h : StartsItem text) (b : Bracket) {g : List Char} (hg : IsBlank g)
    (r : List Char) : hasItem b.close true (g ++ (text ++ r)) = .ok (true, text ++ r) := by
  obtain ⟨c, t, rfl, hgap, hclose⟩ := h
  simp only [hasItem, Reader.skipGap_append hg, List.cons_append, skipGap_of_not_isGap hgap,
    if_neg (hclose b), if_true]

/-- An item is there behind another one. -/
theorem hasItem_next (h : StartsItem text) (b : Bracket) {g : List Char} (hg : IsBlank g)
    (r : List Char) :
    hasItem b.close false (',' :: (g ++ (text ++ r))) = .ok (true, text ++ r) := by
  obtain ⟨c, t, rfl, hgap, hclose⟩ := h
  have hcomma : ',' ≠ b.close := b.close_cases.2.2.1.symm
  have hskip (s : List Char) : skipGap (',' :: s) = ',' :: s := skipGap_of_not_isGap (by decide) s
  simp only [hasItem, hskip, Reader.skipGap_append hg, List.cons_append,
    skipGap_of_not_isGap hgap, if_neg (hclose b), if_neg hcomma, if_true, Bool.false_eq_true,
    if_false]

theorem item?_of_hasItem (h : Takes item text x) {close : Char} {first : Bool} {s r : List Char}
    (hitem : hasItem close first s = .ok (true, text ++ r)) (hr : EndsNumber r) :
    item? close item first s = .ok (some x, r) := by
  simp only [item?, hitem, bind, Except.bind, h.reads r hr]

/-- The first item of a list. -/
theorem item?_first (h : Takes item text x) (b : Bracket) {g : List Char} (hg : IsBlank g)
    {r : List Char} (hr : EndsNumber r) :
    item? b.close item true (g ++ (text ++ r)) = .ok (some x, r) :=
  item?_of_hasItem h (hasItem_first h.startsItem b hg r) hr

/-- No item is left. -/
theorem item?_close (item : Reader α) (b : Bracket) (first : Bool) {g : List Char}
    (hg : IsBlank g) (r : List Char) :
    item? b.close item first (g ++ b.close :: r) = .ok (none, b.close :: r) := by
  have hskip : skipGap (g ++ b.close :: r) = b.close :: r := by
    rw [Reader.skipGap_append hg, skipGap_of_not_isGap b.close_cases.1]
  simp only [item?, hasItem, hskip, if_true, bind, Except.bind]

/-- An item is there behind a comma. -/
theorem hasItem_comma (h : StartsItem text) (b : Bracket) {g g' : List Char} (hg : IsBlank g)
    (hg' : IsBlank g') (r : List Char) :
    hasItem b.close false (g ++ ',' :: (g' ++ (text ++ r))) = .ok (true, text ++ r) := by
  have hgap (s : List Char) : hasItem b.close false (g ++ s) = hasItem b.close false s := by
    simp only [hasItem, Reader.skipGap_append hg]
  rw [hgap]
  exact hasItem_next h b hg' r

end Reader

open Reader (IsBlank Bracket)

/-! ## All items -/

/-- What stands behind an item, up to the closing bracket: the further items, each with a comma in
front, and white space anywhere between them. -/
inductive Behind : List (List Char) → List Char → Prop where
  | nil {g : List Char} (hg : IsBlank g) : Behind [] g
  | cons {g g' t s : List Char} {texts : List (List Char)} (hg : IsBlank g) (hg' : IsBlank g')
      (h : Behind texts s) : Behind (t :: texts) (g ++ ',' :: (g' ++ (t ++ s)))

/-- What stands between brackets with the given items. -/
inductive Listed : List (List Char) → List Char → Prop where
  | nil {g : List Char} (hg : IsBlank g) : Listed [] g
  | cons {g t s : List Char} {texts : List (List Char)} (hg : IsBlank g) (h : Behind texts s) :
      Listed (t :: texts) (g ++ (t ++ s))

/-- The items between brackets. -/
inductive Enclosed (b : Bracket) (texts : List (List Char)) : List Char → Prop where
  | intro {s : List Char} (h : Listed texts s) : Enclosed b texts (b.opening :: (s ++ [b.close]))

namespace Reader

variable {α : Type} {item : Reader α} {s text : List Char} {x : α} {xs : List α} {b : Bracket}
  {texts : List (List Char)}

theorem endsNumber_behind_close (h : Behind texts s) (b : Bracket) (r : List Char) :
    EndsNumber (s ++ b.close :: r) := by
  cases h with
  | nil hg => exact endsNumber_blank_append hg (b.close_cases.2.2.2 r)
  | cons hg =>
    rw [List.append_assoc]
    exact endsNumber_blank_append hg (endsNumber_cons.2 (by decide))

theorem length_le_of_behind (h : Behind texts s) : texts.length ≤ s.length := by
  induction h with
  | nil => exact Nat.zero_le _
  | cons _ _ _ ih =>
    simp only [List.length_cons, List.length_append]
    omega

theorem itemsFrom_of_behind (h : Behind texts s)
    (hitems : List.Forall₂ (Takes item) texts xs) {fuel : Nat} (hfuel : texts.length < fuel)
    (r : List Char) :
    itemsFrom b.close item fuel false (s ++ b.close :: r) = .ok (xs, b.close :: r) := by
  induction h generalizing fuel xs with
  | nil hg =>
    cases hitems
    obtain ⟨fuel, rfl⟩ := Nat.exists_eq_succ_of_ne_zero (Nat.ne_zero_of_lt hfuel)
    simp only [itemsFrom, item?_close item b false hg r, bind, Except.bind]
  | @cons g g' t s texts hg hg' h ih =>
    obtain ⟨fuel, rfl⟩ := Nat.exists_eq_succ_of_ne_zero (Nat.ne_zero_of_lt hfuel)
    cases hitems with
    | cons hitem hitems =>
      have hnext := item?_of_hasItem hitem
        (hasItem_comma hitem.startsItem b hg hg' (s ++ b.close :: r))
        (endsNumber_behind_close h b r)
      simp only [List.append_assoc, List.cons_append, itemsFrom, hnext, bind, Except.bind,
        ih hitems (Nat.lt_of_succ_lt_succ hfuel)]

theorem items_of_listed (h : Listed texts s)
    (hitems : List.Forall₂ (Takes item) texts xs) (r : List Char) :
    items b.close item (s ++ b.close :: r) = .ok (xs, b.close :: r) := by
  cases h with
  | nil hg =>
    cases hitems
    simp only [items, itemsFrom, item?_close item b true hg r, bind, Except.bind]
  | @cons g t s texts hg h =>
    cases hitems with
    | cons hitem hitems =>
      have hfirst := item?_first hitem b hg (endsNumber_behind_close h b r)
      have hlength := length_le_of_behind h
      simp only [items, List.append_assoc, itemsFrom, hfirst, bind, Except.bind]
      rw [itemsFrom_of_behind h hitems]
      simp only [List.length_append, List.length_cons]
      omega

theorem between_opening (b : Bracket) (inside : Reader α) (s : List Char) :
    between b inside (b.opening :: s) =
      (inside s >>= fun p => mark b.close p.2 >>= fun q => .ok (p.1, q.2)) := by
  cases b <;> rfl

/-- What stands between brackets is read if the reader inside stops in front of the closing one. -/
theorem between_eq_ok {inside : Reader α} {line s r : List Char} (hline : IsBlank line)
    (h : inside s = .ok (x, line ++ b.close :: r)) :
    between b inside (b.opening :: s) = .ok (x, r) := by
  have hmark : mark b.close (line ++ b.close :: r) = .ok ((), r) :=
    mark_append b.close_cases.1 hline r
  rw [between_opening, h]
  simp only [hmark, bind, Except.bind]

theorem startsValue_opening (b : Bracket) : startsValue b.opening = true := by
  cases b <;> rfl

/-- What stands between brackets is read if the reader inside takes the items. -/
theorem takes_between {inside : Reader α} (h : Enclosed b texts text)
    (hinside : ∀ s r, Listed texts s → inside (s ++ b.close :: r) = .ok (x, b.close :: r)) :
    Takes (between b inside) text x := by
  obtain ⟨hlisted⟩ := h
  refine ⟨⟨b.opening, _, rfl, startsValue_opening b⟩, fun r _ => ?_⟩
  rw [List.cons_append, List.append_assoc, List.singleton_append]
  exact between_eq_ok isBlank_nil (hinside _ r hlisted)

end Reader

end Json

end BenchTracker
