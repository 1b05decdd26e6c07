import BenchTracker.Text.Fields

/-!
# Dividing and joining texts

The fields of a text have no separator inside, and with separators in between they make up the text
again. What holds of texts is proved along their fields, from the last one to the first one.
-/

namespace BenchTracker

namespace Text

theorem fields_of_not_mem {separator : Char} {s : List Char} (h : separator ∉ s) :
    fields separator s = [s] := by
  induction s with
  | nil => rfl
  | cons c r ih =>
    rw [List.mem_cons, not_or] at h
    obtain ⟨hc, hr⟩ := h
    simp only [fields, ih hr, if_neg (Ne.symm hc)]

theorem fields_append (separator : Char) (s t : List Char) :
    fields separator (s ++ separator :: t) = fields separator s ++ fields separator t := by
  induction s with
  | nil =>
    obtain ⟨f, fs, hfs⟩ := List.exists_cons_of_ne_nil (fields_ne_nil separator t)
    simp [fields, hfs]
  | cons c r ih =>
    obtain ⟨f, fs, hfs⟩ := List.exists_cons_of_ne_nil (fields_ne_nil separator r)
    rw [hfs] at ih
    simp only [List.cons_append, fields, ih, hfs]
    split <;> rfl

theorem exists_mem_fields {separator c : Char} {s : List Char} (h : c ∈ s) (hne : c ≠ separator) :
    ∃ f ∈ fields separator s, c ∈ f := by
  induction s with
  | nil => cases h
  | cons first rest ih =>
    obtain ⟨f, fs, hfs⟩ := List.exists_cons_of_ne_nil (fields_ne_nil separator rest)
    rw [fields, hfs]
    rw [hfs] at ih
    by_cases hsep : first = separator
    · subst first
      obtain ⟨g, hg, hcg⟩ := ih (List.mem_of_ne_of_mem hne h)
      exact ⟨g, by grind, hcg⟩
    rcases List.mem_cons.1 h with rfl | hrest
    · exact ⟨c :: f, by grind, List.mem_cons_self⟩
    · obtain ⟨g, hg, hcg⟩ := ih hrest
      rcases List.mem_cons.1 hg with rfl | hg
      · exact ⟨first :: g, by grind, List.mem_cons_of_mem _ hcg⟩
      · exact ⟨g, by grind, hcg⟩

/-- Induction on the fields of a text. -/
theorem fields_induction {separator : Char} {motive : List Char → List (List Char) → Prop}
    (last : ∀ f, separator ∉ f → motive f [f])
    (next : ∀ f s, separator ∉ f → motive s (fields separator s) →
      motive (f ++ separator :: s) (f :: fields separator s))
    (s : List Char) : motive s (fields separator s) := by
  induction hlength : s.length using Nat.strongRecOn generalizing s with
  | ind length ih =>
    by_cases hmem : separator ∈ s
    · obtain ⟨f, rest, rfl, hf⟩ := List.eq_append_cons_of_mem hmem
      rw [fields_append, fields_of_not_mem hf, List.singleton_append]
      refine next f rest hf (ih rest.length ?_ rest rfl)
      simp only [List.length_append, List.length_cons] at hlength
      omega
    · rw [fields_of_not_mem hmem]
      exact last s hmem

/-- The fields with separators in between are the text. -/
theorem intercalate_fields (separator : Char) (s : List Char) :
    [separator].intercalate (fields separator s) = s := by
  refine fields_induction (motive := fun s fs => [separator].intercalate fs = s) ?_ ?_ s
  · intro f _
    exact List.intercalate_singleton
  · intro f s _ ih
    rw [List.intercalate_cons_of_ne_nil (fields_ne_nil separator s), ih, List.append_assoc,
      List.singleton_append]

/-- Parts that are joined by separators are the fields of what they make up. -/
theorem fields_intercalate {separator : Char} {fs : List (List Char)} (hne : fs ≠ [])
    (h : ∀ f ∈ fs, separator ∉ f) : fields separator ([separator].intercalate fs) = fs := by
  induction fs with
  | nil => exact absurd rfl hne
  | cons f fs ih =>
    obtain ⟨hf, hfs⟩ := List.forall_mem_cons.1 h
    cases fs with
    | nil => rw [List.intercalate_singleton, fields_of_not_mem hf]
    | cons g gs =>
      rw [List.intercalate_cons_cons, List.append_assoc, List.singleton_append, fields_append,
        fields_of_not_mem hf, ih (List.cons_ne_nil g gs) hfs, List.singleton_append]

theorem not_mem_of_mem_fields {separator : Char} {s f : List Char} (h : f ∈ fields separator s) :
    separator ∉ f := by
  refine fields_induction (motive := fun _ fs => ∀ f ∈ fs, separator ∉ f) ?_ ?_ s f h
  · intro f hf g hg
    rwa [List.mem_singleton.1 hg]
  · intro f s hf ih g hg
    rcases List.mem_cons.1 hg with rfl | hg
    · exact hf
    · exact ih g hg

/-- A text has only one division at its separators. -/
theorem fields_eq_iff {separator : Char} {s : List Char} {fs : List (List Char)} :
    fields separator s = fs ↔
      fs ≠ [] ∧ s = [separator].intercalate fs ∧ ∀ f ∈ fs, separator ∉ f := by
  constructor
  · rintro rfl
    exact ⟨fields_ne_nil separator s, (intercalate_fields separator s).symm,
      fun f => not_mem_of_mem_fields⟩
  · rintro ⟨hne, rfl, h⟩
    exact fields_intercalate hne h

theorem mem_of_mem_intercalate {c : Char} {separator : List Char} {fs : List (List Char)}
    (h : c ∈ separator.intercalate fs) : c ∈ separator ∨ ∃ f ∈ fs, c ∈ f := by
  induction fs with
  | nil => cases h
  | cons f fs ih =>
    cases fs with
    | nil => exact .inr ⟨f, List.mem_singleton_self f, by rwa [List.intercalate_singleton] at h⟩
    | cons g gs =>
      rw [List.intercalate_cons_cons, List.mem_append, List.mem_append] at h
      rcases h with (hf | hseparator) | hrest
      · exact .inr ⟨f, List.mem_cons_self, hf⟩
      · exact .inl hseparator
      · refine (ih hrest).imp_right ?_
        rintro ⟨e, he, hc⟩
        exact ⟨e, List.mem_cons_of_mem f he, hc⟩

/-- What stands in a text without a separator inside stands in one of the fields. -/
theorem exists_infix_fields {separator : Char} {s t : List Char} (h : t <:+: s)
    (ht : separator ∉ t) : ∃ f ∈ fields separator s, t <:+: f := by
  refine fields_induction (motive := fun s fs => t <:+: s → ∃ f ∈ fs, t <:+: f) ?_ ?_ s h
  · exact fun f _ h => ⟨f, List.mem_singleton_self f, h⟩
  · intro f s _ ih h
    have hcases : t <:+: f ∨ t <:+: s := by
      rcases List.infix_append_iff.1 h with hf | hs | ⟨front, back, rfl, hfront, hback⟩
      · exact .inl hf
      · rcases List.infix_cons_iff.1 hs with hstart | hs
        · rcases List.prefix_cons_iff.1 hstart with rfl | ⟨t, rfl, -⟩
          · exact .inl (List.nil_infix)
          · exact absurd List.mem_cons_self ht
        · exact .inr hs
      · rcases List.prefix_cons_iff.1 hback with rfl | ⟨t, rfl, -⟩
        · exact .inl (by simpa using hfront.isInfix)
        · exact absurd (List.mem_append_right front List.mem_cons_self) ht
    rcases hcases with hf | hs
    · exact ⟨f, List.mem_cons_self, hf⟩
    · obtain ⟨g, hg, htg⟩ := ih hs
      exact ⟨g, List.mem_cons_of_mem f hg, htg⟩

end Text

end BenchTracker
