import BenchTracker.Proofs.Json.Shape
import BenchTracker.Proofs.Json.Skipping

/-!
# Lists and objects in any spelling

Strings are read with all their escapes, and items with any white space between them. The members of
an object are gathered one after the other. A known key fills its slot, which must be empty before,
and the member of an unknown key leaves all slots alone, so their order makes no difference.
-/

namespace BenchTracker

namespace Json

namespace Reader

variable {α σ : Type} {item value : Reader α} {x : α} {s r text g g' : List Char}
  {texts : List (List Char)} {b : Bracket}

/-! ## Strings -/

theorem isSurrogate_toNat (c : Char) :
    isLowSurrogate c.toNat = false ∧ isHighSurrogate c.toNat = false := by
  have hvalid : c.toNat < 0xD800 ∨ 0xDFFF < c.toNat ∧ c.toNat < 0x110000 := c.valid
  simp only [isLowSurrogate, isHighSurrogate, Bool.and_eq_false_iff, decide_eq_false_iff_not]
  omega

theorem not_isLowSurrogate_of_isHighSurrogate {n : Nat} (h : isHighSurrogate n = true) :
    isLowSurrogate n = false := by
  simp only [isHighSurrogate, Bool.and_eq_true, decide_eq_true_eq] at h
  simp only [isLowSurrogate, Bool.and_eq_false_iff, decide_eq_false_iff_not]
  omega

theorem takesPiece_escape {c : Char} (h : Spells text c) : TakesPiece escape id text c := by
  cases h with
  | plain h => exact takesPiece_plain h.ne_quote h.ne_slash h.not_control
  | @short _ d h =>
    have hu : d ≠ 'u' := by
      rintro rfl
      cases h
    exact takesPiece_escaped fun r => by simp [escape, hu, h]
  | unit h =>
    refine takesPiece_escaped fun r => ?_
    obtain ⟨hlow, hhigh⟩ := isSurrogate_toNat c
    rw [List.cons_append, escape, if_pos rfl]
    simp only [codePoint, codeUnit_append h, bind, Except.bind, hlow, hhigh]
    simp [Char.ofNat_toNat]
  | @pair _ ds es high low hds hes hhigh hlow hc =>
    refine takesPiece_escaped fun r => ?_
    have hword : word ['\\', 'u'] ('\\' :: 'u' :: (es ++ r)) = .ok ((), es ++ r) := rfl
    rw [List.cons_append, escape, if_pos rfl, List.append_assoc]
    simp only [codePoint, codeUnit_append hds, List.cons_append, hword, codeUnit_append hes, bind,
      Except.bind, not_isLowSurrogate_of_isHighSurrogate hhigh, hhigh, hlow, ← hc]
    simp [Char.ofNat_toNat]

theorem textTail_pieces {k : String} {pieces : List (List Char)}
    (h : List.Forall₂ Spells pieces k.toList) (r : List Char) :
    textTail (pieces.flatten ++ '"' :: r) = .ok (k, r) := by
  have hpieces := h.imp fun _ _ => takesPiece_escape
  simp only [textTail, textFrom_length hpieces, bind, Except.bind, String.ofList_toList]

theorem takes_of_isText {reader : Reader String} (hreader : ∀ s, reader ('"' :: s) = textTail s)
    {k : String} (h : IsText k text) : Takes reader text k := by
  obtain ⟨pieces, hpieces, rfl⟩ := h
  refine ⟨⟨'"', _, rfl, rfl⟩, fun r _ => ?_⟩
  rw [quoted, List.cons_append, List.append_assoc, hreader]
  exact textTail_pieces hpieces r

theorem takes_text {k : String} (h : IsText k text) : Takes Reader.text text k :=
  takes_of_isText (fun _ => rfl) h

theorem takes_key {k : String} (h : IsText k text) : Takes key text k :=
  takes_of_isText (fun _ => rfl) h

/-- A list is read if each of its items is. -/
theorem takes_listOf {writes : α → List Char → Prop} {xs : List α} (h : IsList writes xs text)
    (hitem : ∀ y ∈ xs, ∀ t, writes y t → Takes item t y) : Takes (listOf item) text xs := by
  obtain @⟨texts, _, hitems, h⟩ := h
  have hall : List.Forall₂ (Takes item) texts xs := by
    clear h
    induction hitems with
    | nil => exact .nil
    | cons hx _ ih =>
      obtain ⟨hfirst, hrest⟩ := List.forall_mem_cons.1 hitem
      exact .cons (hfirst _ hx) (ih hrest)
  exact takes_between h fun s r hlisted => items_of_listed hlisted hall r

/-! ## Members -/

variable {member : String → σ → Reader σ} {m : String × List Char} {ms : List (String × List Char)}
  {acc acc' : σ}

/-- Behind the key the member is read, with any white space around the colon. -/
def Gathers (member : String → σ → Reader σ) (m : String × List Char) (acc acc' : σ) : Prop :=
  ∀ g g' r, IsBlank g → IsBlank g' → EndsNumber r →
    member m.1 acc (g ++ ':' :: (g' ++ (m.2 ++ r))) = .ok (acc', r)

/-- The members are read one after the other. -/
inductive GathersAll (member : String → σ → Reader σ) :
    List (String × List Char) → σ → σ → Prop where
  | nil {acc : σ} : GathersAll member [] acc acc
  | cons {m : String × List Char} {ms : List (String × List Char)} {acc mid acc' : σ}
      (h : Gathers member m acc mid) (hrest : GathersAll member ms mid acc') :
      GathersAll member (m :: ms) acc acc'

theorem startsItem_of_isField (h : IsField m text) : StartsItem text := by
  obtain ⟨hkey, h⟩ := h
  obtain ⟨pieces, -, rfl⟩ := hkey
  obtain ⟨-, -⟩ := h
  exact startsItem_of_startsValue rfl _

/-- A member that is there is gathered, and the reader stands behind it. -/
theorem membersFrom_succ (hfield : IsField m text) (h : Gathers member m acc acc')
    (hr : EndsNumber r) {first : Bool} {s : List Char}
    (hhas : hasItem Bracket.curly.close first s = .ok (true, text ++ r)) (fuel : Nat) :
    membersFrom member (fuel + 1) first acc s = membersFrom member fuel false acc' r := by
  obtain ⟨hkey, hmember⟩ := hfield
  obtain ⟨hg, hg'⟩ := hmember
  have hcolon (s : List Char) : EndsNumber (':' :: s) := endsNumber_cons.2 (by decide)
  simp only [List.append_assoc, List.cons_append] at hhas
  have hitem := item?_of_hasItem (takes_key hkey) hhas
    (endsNumber_blank_append hg (hcolon _))
  simp only [Bracket.close] at hitem
  simp only [membersFrom, hitem, bind, Except.bind, h _ _ _ hg hg' hr]

theorem membersFrom_of_behind (h : Behind texts s) (hfields : List.Forall₂ IsField ms texts)
    (hgathers : GathersAll member ms acc acc') {fuel : Nat} (hfuel : texts.length < fuel)
    (r : List Char) :
    membersFrom member fuel false acc (s ++ Bracket.curly.close :: r) =
      .ok (acc', Bracket.curly.close :: r) := by
  induction h generalizing fuel ms acc with
  | nil hg =>
    cases hfields
    cases hgathers
    obtain ⟨fuel, rfl⟩ := Nat.exists_eq_succ_of_ne_zero (Nat.ne_zero_of_lt hfuel)
    have hclose := item?_close Reader.key .curly false hg r
    simp only [Bracket.close] at hclose ⊢
    simp only [membersFrom, hclose, bind, Except.bind]
  | @cons g g' t s texts hg hg' h ih =>
    obtain ⟨fuel, rfl⟩ := Nat.exists_eq_succ_of_ne_zero (Nat.ne_zero_of_lt hfuel)
    cases hfields with
    | cons hfield hfields =>
      cases hgathers with
      | cons hgather hgathers =>
        have hhas := hasItem_comma (startsItem_of_isField hfield) .curly hg hg'
          (s ++ Bracket.curly.close :: r)
        rw [List.append_assoc, List.cons_append, List.append_assoc, List.append_assoc,
          membersFrom_succ hfield hgather (endsNumber_behind_close h .curly r) hhas]
        exact ih hfields hgathers (Nat.lt_of_succ_lt_succ hfuel)

theorem membersFrom_of_listed (h : Listed texts s) (hfields : List.Forall₂ IsField ms texts)
    (hgathers : GathersAll member ms acc acc') (r : List Char) :
    membersFrom member ((s ++ Bracket.curly.close :: r).length + 1) true acc
      (s ++ Bracket.curly.close :: r) = .ok (acc', Bracket.curly.close :: r) := by
  cases h with
  | nil hg =>
    cases hfields
    cases hgathers
    have hclose := item?_close Reader.key .curly true hg r
    simp only [Bracket.close] at hclose ⊢
    simp only [membersFrom, hclose, bind, Except.bind]
  | @cons g t s texts hg h =>
    cases hfields with
    | cons hfield hfields =>
      cases hgathers with
      | cons hgather hgathers =>
        have hhas := hasItem_first (startsItem_of_isField hfield) .curly hg
          (s ++ Bracket.curly.close :: r)
        have hlength := length_le_of_behind h
        rw [List.append_assoc, List.append_assoc,
          membersFrom_succ hfield hgather (endsNumber_behind_close h .curly r) hhas]
        refine membersFrom_of_behind h hfields hgathers ?_ r
        simp only [List.length_append, List.length_cons]
        omega

/-- An object is read if its members are gathered. -/
theorem takes_members (h : IsObject ms text) (hgathers : GathersAll member ms acc acc') :
    Takes (members member acc) text acc' := by
  obtain ⟨hfields, h⟩ := h
  exact takes_between h fun s r hlisted => membersFrom_of_listed hlisted hfields hgathers r

/-! ## Slots -/

/-- Behind the colon the reader takes the text for the value. -/
def Fills (value : Reader α) (text : List Char) (x : α) : Prop :=
  ∀ g r, IsBlank g → EndsNumber r → value (g ++ (text ++ r)) = .ok (x, r)

theorem Takes.fills (h : Takes value text x) (hskips : SkipsGap value) : Fills value text x :=
  fun g r hg hr => (hskips g (text ++ r) hg).trans (h.reads r hr)

theorem fills_null (value : Reader α) : Fills (orNull value) ['n', 'u', 'l', 'l'] none := by
  intro g r hg _
  have hskip : skipGap ('n' :: 'u' :: 'l' :: 'l' :: r) = 'n' :: 'u' :: 'l' :: 'l' :: r :=
    skipGap_of_not_isGap rfl _
  simp only [orNull, Reader.skipGap_append hg, List.cons_append, List.nil_append, hskip]
  rfl

theorem fills_orNull (h : Takes value text x) : Fills (orNull value) text (some x) := by
  intro g r hg hr
  have hvalue := h.reads r hr
  obtain ⟨c, t, rfl, hc⟩ := h.starts
  have hn : c ≠ 'n' := by
    rintro rfl
    cases hc
  rw [List.cons_append] at hvalue ⊢
  rw [orNull, Reader.skipGap_append hg, skipGap_of_not_isGap (isGap_of_startsValue hc)]
  split
  · simp_all
  · rw [hvalue]
    rfl

/-- What becomes of a slot by the values of its key: without a value it stays, and an empty slot is
filled by the only value. -/
inductive Slot (value : Reader α) (before : Option α) : List (List Char) → Option α → Prop where
  | stays : Slot value before [] before
  | filled {text : List Char} {x : α} (hempty : before = none) (h : Fills value text x) :
      Slot value before [text] (some x)

/-- The value of a known key fills its slot. -/
theorem Slot.gathers {before after : Option α} {k : String} {set : α → σ}
    (h : Slot value before (text :: texts) after)
    (hmember : member k acc = once before value set) :
    ∃ x, Slot value (some x) texts after ∧ Gathers member (k, text) acc (set x) := by
  cases h with
  | @filled _ x hempty h =>
    refine ⟨x, .stays, fun g g' r hg hg' hr => ?_⟩
    simp only [hmember, once, hempty, mark_colon hg, h g' r hg' hr, bind, Except.bind]

/-- An unknown key changes nothing, whatever its value is. -/
theorem gathers_of_skipMember {k : String} (h : IsValue text)
    (hmember : member k acc = skipMember acc) : Gathers member (k, text) acc acc := by
  intro g g' r hg hg' hr
  simp only [hmember, skipMember, mark_colon hg, skipValue_append h hg' hr, bind,
    Except.bind]

end Reader

theorem valuesOf_cons_self (key : String) (text : List Char) (ms : List (String × List Char)) :
    valuesOf key ((key, text) :: ms) = text :: valuesOf key ms := by
  simp [valuesOf]

theorem valuesOf_cons_of_ne {key k : String} (h : k ≠ key) (text : List Char)
    (ms : List (String × List Char)) : valuesOf key ((k, text) :: ms) = valuesOf key ms := by
  simp [valuesOf, h]

end Json

end BenchTracker
