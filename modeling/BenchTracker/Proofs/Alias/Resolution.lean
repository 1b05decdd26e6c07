import BenchTracker.Proofs.Alias.Pattern

/-!
# Which group resolves a text

The table is searched from its end, and the search stops at the first group that matches. This is
the same as a scan over all groups in order that overwrites what it has found at each match. So a
later table takes precedence over an earlier one, and a group is found under its canonical name
unless no text of the group recognises that name.
-/

namespace BenchTracker

open AliasPattern (Recognises Compiles special)

namespace AliasPattern

/-- The matcher decides what a text recognises. -/
instance (s raw : List Char) : Decidable (Recognises s raw) :=
  decidable_of_iff ((ofText (String.ofList s)).isMatch raw = true)
    (by rw [isMatch_ofText, String.toList_ofList])

end AliasPattern

namespace AliasGroup

/-- Some text of the group recognises the raw text. -/
def Names (texts : List String) (raw : List Char) : Prop :=
  ∃ s ∈ texts, Recognises s.toList raw

instance (texts : List String) (raw : List Char) : Decidable (Names texts raw) :=
  inferInstanceAs (Decidable (∃ s ∈ texts, Recognises s.toList raw))

variable {texts : List String} {raw : List Char} {g : AliasGroup}

theorem isMatch_ofTexts? (h : ofTexts? texts = some g) :
    g.isMatch raw = true ↔ Names texts raw := by
  cases texts with
  | nil => simp [ofTexts?] at h
  | cons name rest =>
    cases h
    simp only [isMatch, List.any_map, List.any_eq_true, Function.comp_apply,
      AliasPattern.isMatch_ofText, Names]

end AliasGroup

namespace AliasTable

/-- One step of a scan that overwrites what it has found at each group that matches. -/
def overwrite (raw : List Char) (found : Option String) : List String → Option String
  | [] => found
  | name :: rest => if AliasGroup.Names (name :: rest) raw then some name else found

variable {raw : List Char} {found : Option String} {texts : List String}
  {groups before after : List (List String)} {name : String} {rest : List String}

theorem overwrite_eq_or : overwrite raw found texts = (overwrite raw none texts).or found := by
  cases texts with
  | nil => rfl
  | cons name rest =>
    simp only [overwrite]
    split <;> rfl

/-- What was found before a scan counts if the scan finds nothing. -/
theorem foldl_overwrite :
    groups.foldl (overwrite raw) found = (groups.foldl (overwrite raw) none).or found := by
  induction groups generalizing found with
  | nil => rfl
  | cons texts groups ih =>
    rw [List.foldl_cons, ih, List.foldl_cons, @ih (overwrite raw none texts),
      overwrite_eq_or, Option.or_assoc]

theorem ofTexts_append :
    (ofTexts (before ++ after)).groups = (ofTexts before).groups ++ (ofTexts after).groups :=
  List.filterMap_append

theorem ofTexts_insert_nil : ofTexts (before ++ [] :: after) = ofTexts (before ++ after) := by
  have hnil : AliasGroup.ofTexts? [] = none := rfl
  simp only [ofTexts, List.filterMap_append, List.filterMap_cons_none hnil]

theorem resolve?_append : (ofTexts (before ++ after)).resolve? raw =
    ((ofTexts after).resolve? raw).or ((ofTexts before).resolve? raw) := by
  simp only [resolve?, ofTexts_append, List.reverse_append, List.find?_append, Option.map_or]

theorem resolve?_single : (ofTexts [texts]).resolve? raw = overwrite raw none texts := by
  cases texts with
  | nil => rfl
  | cons name rest =>
    let g : AliasGroup := ⟨name, (name :: rest).map AliasPattern.ofText⟩
    have hmatch : g.isMatch raw = true ↔ AliasGroup.Names (name :: rest) raw :=
      AliasGroup.isMatch_ofTexts? rfl
    change ([g].find? (·.isMatch raw)).map (·.canonical) = _
    by_cases h : AliasGroup.Names (name :: rest) raw
    · rw [List.find?_singleton, if_pos (hmatch.2 h), overwrite, if_pos h, Option.map_some]
    · rw [List.find?_singleton, if_neg (mt hmatch.1 h), overwrite, if_neg h, Option.map_none]

/-- The search from the end finds what the scan in order finds. -/
theorem resolve?_eq_foldl :
    (ofTexts groups).resolve? raw = groups.foldl (overwrite raw) none := by
  induction groups with
  | nil => rfl
  | cons texts groups ih =>
    rw [List.foldl_cons, foldl_overwrite, ← ih, ← resolve?_single, ← resolve?_append,
      List.singleton_append]

/-- A canonical name is recognised by its own group unless it is a pattern that misses it. -/
theorem recognises_self (h : ∀ r, Compiles name.toList r → r.Matches name.toList) :
    Recognises name.toList name.toList := by
  by_cases hcompiles : ∃ r, Compiles name.toList r
  · obtain ⟨r, hr⟩ := hcompiles
    exact .pattern hr (h r hr)
  · exact .literal (not_exists.1 hcompiles) (AliasPattern.containsUpToCase_self _)

end AliasTable

end BenchTracker
