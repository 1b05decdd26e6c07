import BenchTracker.Json.Printer
import BenchTracker.Proofs.Json.Written

/-!
# What is read for written values

A layout puts only white space between the tokens, so what is read for brackets comes from what is
read for the items: if nothing is read for one of them, then nothing is read at all.
-/

namespace BenchTracker

namespace Json

/-! ## Layouts -/

/-- The layout puts only white space between the tokens. -/
structure Layout.IsBlank (layout : Layout) : Prop where
  lineStart : ∀ depth, Reader.IsBlank (layout.lineStart depth)
  gap : Reader.IsBlank layout.gap

theorem Layout.isBlank_compact : Layout.compact.IsBlank :=
  ⟨fun _ => Reader.isBlank_nil, Reader.isBlank_nil⟩

theorem Layout.isBlank_pretty : Layout.pretty.IsBlank := by
  refine ⟨fun depth c hc => ?_, fun c hc => ?_⟩
  · rcases List.mem_cons.1 hc with rfl | hc
    · rfl
    · rw [(List.mem_replicate.1 hc).2]
      rfl
  · rw [List.mem_singleton.1 hc]
    rfl

/-- What stands behind an item at a depth: the further items with a comma in front of each, the
closing bracket, and what follows on it. -/
def Layout.behind (layout : Layout) (depth : Nat) (b : Reader.Bracket) (r : List Char) :
    List (List Char) → List Char
  | [] => layout.lineStart depth ++ b.close :: r
  | t :: rest => ',' :: (layout.lineStart (depth + 1) ++ (t ++ layout.behind depth b r rest))

theorem Layout.separated_append (layout : Layout) (depth : Nat) (b : Reader.Bracket)
    (r text : List Char) (texts : List (List Char)) :
    separated (',' :: layout.lineStart (depth + 1)) (text :: texts) ++
        (layout.lineStart depth ++ b.close :: r) = text ++ layout.behind depth b r texts := by
  induction texts generalizing text with
  | nil => rfl
  | cons t rest ih =>
    have hcons : separated (',' :: layout.lineStart (depth + 1)) (text :: t :: rest) =
        text ++ (',' :: layout.lineStart (depth + 1)) ++
          separated (',' :: layout.lineStart (depth + 1)) (t :: rest) := rfl
    rw [hcons, List.append_assoc, ih, behind]
    simp

/-- A list in brackets that has an item. -/
theorem Layout.bracketed_append (layout : Layout) (depth : Nat) (b : Reader.Bracket)
    (r text : List Char) (texts : List (List Char)) :
    layout.bracketed depth b.opening b.close (text :: texts) ++ r =
      b.opening :: (layout.lineStart (depth + 1) ++ (text ++ layout.behind depth b r texts)) := by
  rw [← separated_append, bracketed, if_neg (List.cons_ne_nil _ _)]
  simp

namespace Reader

variable {α β γ : Type} {item value : Reader α} {text : List Char} {x : α} {x? : Option α}
  {layout : Layout} {depth : Nat} {b : Bracket} {texts : List (List Char)}

/-- What the reader makes of the text, whatever stands behind it: a value, or nothing. -/
structure Reads {α : Type} (reader : Reader α) (text : List Char) (x? : Option α) : Prop where
  starts : StartsItem text
  reads : ∀ r, EndsNumber r → (reader (text ++ r)).toOption = x?.map fun x => (x, r)

theorem reads_of_takes (h : Takes item text x) : Reads item text (some x) :=
  ⟨h.startsItem, fun r hr => congrArg Except.toOption (h.reads r hr)⟩

theorem Reads.map (h : Reads item text x?) (f : α → β) :
    Reads (fun s => (item s).map fun (y, r) => (f y, r)) text (x?.map f) := by
  refine ⟨h.starts, fun r hr => ?_⟩
  rw [toOption_map, h.reads r hr, Option.map_map, Option.map_map]
  rfl

/-! ## Items -/

theorem exists_behind (hlayout : layout.IsBlank) (depth : Nat) (b : Bracket)
    (texts : List (List Char)) :
    ∃ s, Behind texts s ∧ ∀ r, layout.behind depth b r texts = s ++ b.close :: r := by
  induction texts with
  | nil => exact ⟨_, .nil (hlayout.lineStart depth), fun _ => rfl⟩
  | cons t rest ih =>
    obtain ⟨s, hs, hbehind⟩ := ih
    refine ⟨_, .cons isBlank_nil (hlayout.lineStart (depth + 1)) hs, fun r => ?_⟩
    simp [Layout.behind, hbehind]

theorem endsNumber_behind (hlayout : layout.IsBlank) (r : List Char) :
    EndsNumber (layout.behind depth b r texts) := by
  obtain ⟨s, hs, hbehind⟩ := exists_behind hlayout depth b texts
  rw [hbehind]
  exact endsNumber_behind_close hs b r

theorem length_le_behind (hlayout : layout.IsBlank) (depth : Nat) (b : Bracket)
    (texts : List (List Char)) (r : List Char) :
    texts.length ≤ (layout.behind depth b r texts).length := by
  obtain ⟨s, hs, hbehind⟩ := exists_behind hlayout depth b texts
  rw [hbehind, List.length_append]
  exact Nat.le_add_right_of_le (length_le_of_behind hs)

theorem toOption_item? (h : Reads item text x?) {close : Char} {first : Bool} {s r : List Char}
    (hhas : hasItem close first s = .ok (true, text ++ r)) (hr : EndsNumber r) :
    (item? close item first s).toOption = x?.map fun x => (some x, r) := by
  have hitem : item? close item first s =
      item (text ++ r) >>= fun p => .ok (some p.1, p.2) := by
    simp only [item?, hhas, bind, Except.bind]
  rw [hitem, toOption_bind, h.reads r hr]
  cases x? <;> rfl

/-- One item and what is read from there on. -/
theorem toOption_itemsFrom (h : Reads item text x?) {close : Char} {first : Bool}
    {s r : List Char} (hhas : hasItem close first s = .ok (true, text ++ r)) (hr : EndsNumber r)
    (fuel : Nat) :
    (itemsFrom close item (fuel + 1) first s).toOption = x?.bind fun x =>
      (itemsFrom close item fuel false r).toOption.map fun (xs, r) => (x :: xs, r) := by
  rw [itemsFrom, toOption_bind, toOption_item? h hhas hr]
  cases x? with
  | none => rfl
  | some x =>
    simp only [Option.map_some, Option.bind_some, toOption_bind]
    cases (itemsFrom close item fuel false r).toOption <;> rfl

variable {xs : List γ} {form : γ → List Char} {f : γ → Option α}

/-- The fuel is enough for the items, so only the items decide what is read. -/
theorem toOption_itemsFrom_behind (hlayout : layout.IsBlank)
    (h : ∀ x ∈ xs, Reads item (form x) (f x)) {fuel : Nat} (hfuel : xs.length < fuel)
    (r : List Char) :
    (itemsFrom b.close item fuel false (layout.behind depth b r (xs.map form))).toOption =
      (xs.mapM f).map fun ys => (ys, b.close :: r) := by
  induction xs generalizing fuel with
  | nil =>
    obtain ⟨fuel, rfl⟩ := Nat.exists_eq_succ_of_ne_zero (Nat.ne_of_gt hfuel)
    have hclose := item?_close item b false (hlayout.lineStart depth) r
    rw [List.mapM_nil]
    simp only [List.map_nil, Layout.behind, itemsFrom, hclose, bind, Except.bind]
    rfl
  | cons x rest ih =>
    obtain ⟨fuel, rfl⟩ := Nat.exists_eq_succ_of_ne_zero (Nat.ne_of_gt (Nat.zero_lt_of_lt hfuel))
    obtain ⟨hhead, hrest⟩ := List.forall_mem_cons.1 h
    have hhas := hasItem_next hhead.starts b (hlayout.lineStart (depth + 1))
      (layout.behind depth b r (rest.map form))
    have hstep := toOption_itemsFrom hhead hhas (endsNumber_behind hlayout r) fuel
    rw [ih hrest (Nat.lt_of_succ_lt_succ hfuel)] at hstep
    refine hstep.trans ?_
    rw [List.mapM_cons]
    cases f x with
    | none => rfl
    | some y => cases rest.mapM f <;> rfl

/-! ## Brackets -/

/-- What is read between brackets is what the reader inside makes of the items, if it stops in front
of the closing bracket. -/
theorem reads_between {inside : Reader α} {line : List Char} (hline : IsBlank line) (depth : Nat)
    (h : ∀ r, (inside (layout.lineStart (depth + 1) ++
      (text ++ layout.behind depth b r texts))).toOption =
        x?.map fun x => (x, line ++ b.close :: r)) :
    Reads (between b inside) (layout.bracketed depth b.opening b.close (text :: texts)) x? := by
  have hsplit (r : List Char) :
      layout.bracketed depth b.opening b.close (text :: texts) ++ r = _ :=
    layout.bracketed_append depth b r text texts
  refine ⟨?_, fun r _ => ?_⟩
  · have hstart := hsplit []
    rw [List.append_nil] at hstart
    rw [hstart]
    exact startsItem_of_startsValue (startsValue_opening b) _
  · have hmark : mark b.close (line ++ b.close :: r) = .ok ((), r) :=
      mark_append b.close_cases.1 hline r
    rw [hsplit, between_opening, toOption_bind, h]
    cases x? with
    | none => rfl
    | some x =>
      rw [Option.map_some, Option.bind_some, hmark]
      rfl

theorem reads_between_items (hlayout : layout.IsBlank)
    (h : ∀ x ∈ xs, Reads item (form x) (f x)) (depth : Nat) :
    Reads (between b (items b.close item))
      (layout.bracketed depth b.opening b.close (xs.map form)) (xs.mapM f) := by
  cases xs with
  | nil =>
    have hempty : Enclosed b [] (layout.bracketed depth b.opening b.close []) :=
      .intro (.nil isBlank_nil)
    exact reads_of_takes (takes_between hempty fun _ r hlisted => items_of_listed hlisted .nil r)
  | cons x rest =>
    obtain ⟨hhead, hrest⟩ := List.forall_mem_cons.1 h
    refine reads_between isBlank_nil depth fun r => ?_
    have hhas := hasItem_first hhead.starts b (hlayout.lineStart (depth + 1))
      (layout.behind depth b r (rest.map form))
    have hlength : rest.length < (layout.lineStart (depth + 1) ++
        (form x ++ layout.behind depth b r (rest.map form))).length := by
      have hbehind := length_le_behind hlayout depth b (rest.map form) r
      obtain ⟨c, t, hct, -⟩ := hhead.starts
      simp only [List.length_append, List.length_map, hct, List.length_cons] at hbehind ⊢
      omega
    rw [items, toOption_itemsFrom hhead hhas (endsNumber_behind hlayout r),
      toOption_itemsFrom_behind hlayout hrest hlength r, List.mapM_cons]
    cases f x with
    | none => rfl
    | some y => cases rest.mapM f <;> rfl

/-! ## Tuples -/

theorem toOption_element (h : Reads item text x?) {first : Bool} {s r : List Char}
    (hhas : hasItem ']' first s = .ok (true, text ++ r)) (hr : EndsNumber r) :
    (element item first s).toOption = x?.map fun x => (x, r) := by
  rw [element, toOption_bind, toOption_item? h hhas hr]
  cases x? <;> rfl

/-- The first element of a tuple. -/
theorem toOption_element_first (hlayout : layout.IsBlank) (h : Reads item text x?)
    (r : List Char) :
    (element item true (layout.lineStart (depth + 1) ++
      (text ++ layout.behind depth .square r texts))).toOption =
        x?.map fun x => (x, layout.behind depth .square r texts) :=
  toOption_element h (hasItem_first h.starts .square (hlayout.lineStart (depth + 1)) _)
    (endsNumber_behind hlayout r)

/-- An element of a tuple behind another one. -/
theorem toOption_element_behind (hlayout : layout.IsBlank) (h : Reads item text x?)
    (r : List Char) :
    (element item false (layout.behind depth .square r (text :: texts))).toOption =
      x?.map fun x => (x, layout.behind depth .square r texts) :=
  toOption_element h (hasItem_next h.starts .square (hlayout.lineStart (depth + 1)) _)
    (endsNumber_behind hlayout r)

/-! ## Fields -/

/-- White space in front of a value makes no difference to the reader. -/
def SkipsGap (value : Reader α) : Prop := ∀ g s, IsBlank g → value (g ++ s) = value s

theorem skipsGap_between (b : Bracket) (inside : Reader α) : SkipsGap (between b inside) := by
  intro g s hg
  simp only [between, Reader.skipGap_append hg]

theorem SkipsGap.map (h : SkipsGap value) (f : α → β) :
    SkipsGap fun s => (value s).map fun (y, r) => (f y, r) := by
  intro g s hg
  simp only [h g s hg]

/-- Behind the key it is up to the value. -/
theorem field_append (hskips : SkipsGap value) (hlayout : layout.IsBlank) (k : String)
    (text r : List Char) :
    field value (writeText k ++ ':' :: (layout.gap ++ text) ++ r) =
      (value (text ++ r)).map fun (x, r) => ((k, x), r) := by
  have hkey : key (writeText k ++ (':' :: (layout.gap ++ (text ++ r)))) =
      .ok (k, ':' :: (layout.gap ++ (text ++ r))) := by
    rw [writeText_append]
    exact textTail_writeText k _
  have hmark : mark ':' (':' :: (layout.gap ++ (text ++ r))) =
      .ok ((), layout.gap ++ (text ++ r)) := rfl
  have hsplit : writeText k ++ ':' :: (layout.gap ++ text) ++ r =
      writeText k ++ (':' :: (layout.gap ++ (text ++ r))) := by simp
  rw [hsplit]
  simp only [field, hkey, hmark, hskips _ _ hlayout.gap, bind, Except.bind]
  cases value (text ++ r) <;> rfl

theorem reads_field (h : Reads value text x?) (hskips : SkipsGap value)
    (hlayout : layout.IsBlank) (k : String) :
    Reads (field value) (writeText k ++ ':' :: (layout.gap ++ text)) (x?.map fun x => (k, x)) := by
  refine ⟨startsItem_of_startsValue (c := '"') rfl _, fun r hr => ?_⟩
  rw [field_append hskips hlayout, toOption_map, h.reads r hr, Option.map_map, Option.map_map]
  rfl

/-! ## Written values -/

theorem startsItem_writeReal (y : Float) : StartsItem (writeReal y) := by
  cases h : Double.isFinite y with
  | false =>
    rw [writeReal, h]
    exact ⟨'n', _, rfl, by decide, fun b => by cases b <;> decide⟩
  | true =>
    rw [writeReal_of_isFinite h]
    obtain ⟨c, t, hct, hc⟩ := exists_digit_of_isUnsigned
      (isUnsigned_layout numberStyle (.shortest y))
    rw [hct]
    cases Double.isNegative y with
    | false =>
      exact startsItem_of_startsValue (startsValue_of_startsNumber (by simp [startsNumber, hc])) t
    | true => exact startsItem_of_startsValue rfl _

theorem reads_real (y : Float) : Reads real (write layout depth (.real y)) (reread y) := by
  rw [Json.write]
  exact ⟨startsItem_writeReal y, fun r hr => toOption_real y hr⟩

theorem takes_digits {n limit : Nat} (h : n < limit) (hlimit : limit ≤ Numeral.limit64) :
    Takes (natural limit) (Numeral.digits n) n := by
  obtain ⟨c, ds, hds, hc, -⟩ := Numeral.digits_eq_cons n
  have hstarts : startsValue c = true := startsValue_of_startsNumber (by simp [startsNumber, hc])
  exact ⟨⟨c, ds, hds, hstarts⟩, fun r hr => natural_digits h hlimit hr⟩

theorem takes_signedDigits {n : Int} (h : IsSigned64 n) :
    Takes integer (Numeral.signedDigits n) n := by
  refine ⟨?_, fun r hr => integer_signedDigits h hr⟩
  rw [Numeral.signedDigits]
  split
  · exact ⟨'-', _, rfl, rfl⟩
  · obtain ⟨c, ds, hds, hc, -⟩ := Numeral.digits_eq_cons n.natAbs
    exact ⟨c, ds, hds, startsValue_of_startsNumber (by simp [startsNumber, hc])⟩

theorem takes_natural {n limit : Nat} (h : n < limit) (hlimit : limit ≤ Numeral.limit64) :
    Takes (natural limit) (write layout depth (.integer n)) n := by
  have hdigits : Numeral.signedDigits n = Numeral.digits n := by simp [Numeral.signedDigits]
  rw [write, hdigits]
  exact takes_digits h hlimit

theorem toOption_readAll (h : Reads value text x?) :
    (readAll value (String.ofList text)).toOption = x? := by
  have hvalue := h.reads [] endsNumber_nil
  rw [List.append_nil] at hvalue
  rw [readAll, toOption_bind, String.toList_ofList, hvalue]
  cases x? <;> rfl

theorem writeItems_map (layout : Layout) (depth : Nat) (f : α → Json) (xs : List α) :
    writeItems layout depth (xs.map f) = xs.map fun x => write layout depth (f x) := by
  induction xs with
  | nil => rfl
  | cons x rest ih => rw [List.map_cons, writeItems, ih, List.map_cons]

theorem writeFields_map (layout : Layout) (depth : Nat) (f : α → Json) (es : List (String × α)) :
    writeFields layout depth (es.map fun e => (e.1, f e.2)) = es.map fun e =>
      writeText e.1 ++ ':' :: (layout.gap ++ write layout depth (f e.2)) := by
  induction es with
  | nil => rfl
  | cons e rest ih => rw [List.map_cons, writeFields, ih, List.map_cons]

end Reader

end Json

end BenchTracker
