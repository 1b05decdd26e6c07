import BenchTracker.Series
import Mathlib.Data.List.Nodup

/-!
# Series as partial maps

A series gives at most one sample to each build. Appending asks whether there is one already, and
once a series is in the order of its builds it is determined by what it gives.
-/

namespace BenchTracker

namespace Series

/-- The sample of a build. -/
def sample? (s : Series) (build : UInt64) : Option Sample :=
  s.samples.find? fun x => x.build == build

theorem eq_of_build_eq {s : Series} {x y : Sample} (hx : x ∈ s.samples) (hy : y ∈ s.samples)
    (h : x.build = y.build) : x = y :=
  List.inj_on_of_nodup_map s.unique hx hy h

theorem sample?_eq_some {s : Series} {build : UInt64} {x : Sample} :
    s.sample? build = some x ↔ x ∈ s.samples ∧ x.build = build := by
  constructor
  · intro h
    exact ⟨List.mem_of_find?_eq_some h, by simpa using List.find?_some h⟩
  · rintro ⟨hmem, rfl⟩
    cases h : s.sample? x.build with
    | none => simpa using List.find?_eq_none.1 h x hmem
    | some y =>
      have hy : y.build = x.build := by simpa using List.find?_some h
      rw [eq_of_build_eq (List.mem_of_find?_eq_some h) hmem hy]

theorem contains_eq_isSome (s : Series) (build : UInt64) :
    s.contains build = (s.sample? build).isSome := by
  rw [Bool.eq_iff_iff, contains_iff]
  simp [sample?]

@[simp] theorem sample?_empty (build : UInt64) : empty.sample? build = none := rfl

/-! ## Appending -/

/-- The answer tells whether there was no sample of the build. -/
@[simp] theorem insert_fst (s : Series) (x : Sample) : (s.insert x).1 = !s.contains x.build := by
  rw [insert]
  split <;> simp [*]

theorem append_of_contains {s : Series} {x : Sample} (h : s.contains x.build = true) :
    s.append x = s := by
  rw [append, insert, dif_pos h]

theorem samples_append (s : Series) (x : Sample) :
    (s.append x).samples = if s.contains x.build = true then s.samples else s.samples ++ [x] := by
  rw [append, insert]
  split <;> simp [*]

@[simp, grind =] theorem sample?_append (s : Series) (x : Sample) (build : UInt64) :
    (s.append x).sample? build =
      (s.sample? build).or (if x.build = build then some x else none) := by
  rw [sample?, samples_append]
  by_cases h : s.contains x.build = true
  · rw [if_pos h]
    by_cases hb : x.build = build
    · subst hb
      rw [contains_eq_isSome] at h
      exact (Option.or_of_isSome h).symm
    · rw [if_neg hb, Option.or_none]
      rfl
  · rw [if_neg h, List.find?_append]
    simp [sample?, List.find?_singleton]

@[simp, grind =] theorem contains_append (s : Series) (x : Sample) (build : UInt64) :
    (s.append x).contains build = (s.contains build || decide (x.build = build)) := by
  rw [contains_eq_isSome, contains_eq_isSome, sample?_append, Option.isSome_or]
  split <;> simp [*]

/-- Appending samples of builds that are all new puts them at the end. -/
theorem samples_foldl_append {s : Series} {xs : List Sample}
    (h : ((s.samples ++ xs).map Sample.build).Nodup) :
    (xs.foldl append s).samples = s.samples ++ xs := by
  induction xs generalizing s with
  | nil => simp
  | cons x r ih =>
    have hnew : ¬ s.contains x.build = true := by
      rw [contains_iff]
      grind
    have hs : (s.append x).samples = s.samples ++ [x] := by rw [samples_append, if_neg hnew]
    rw [List.foldl_cons, ih (by simpa [hs] using h), hs]
    simp

/-- The samples of a series make up the series. -/
@[simp] theorem ofList_samples (s : Series) : ofList s.samples = s := by
  refine Series.ext ?_
  exact samples_foldl_append (s := empty) s.unique

/-- The samples of one build are taken for duplicates of each other. -/
def sameBuild (x y : Sample) : Bool := x.build == y.build

theorem contains_eq_any (s : Series) (x : Sample) :
    s.contains x.build = s.samples.reverse.any (sameBuild x) := by
  rw [Bool.eq_iff_iff, contains_iff, List.any_reverse]
  simp only [List.mem_map, List.any_eq_true, sameBuild, beq_iff_eq]
  exact exists_congr fun y => and_congr_right fun _ => eq_comm

/-- A series grows at its end, and the loop puts what it keeps in front. -/
theorem samples_foldl_append_reverse (s : Series) (xs : List Sample) :
    (xs.foldl append s).samples = List.eraseDupsBy.loop sameBuild xs s.samples.reverse := by
  induction xs generalizing s with
  | nil => simp [List.eraseDupsBy.loop]
  | cons x r ih =>
    rw [List.foldl_cons, ih, List.eraseDupsBy.loop, ← contains_eq_any, samples_append]
    cases s.contains x.build <;> simp

/-- Of the samples of one build the first one stays, at its place. -/
theorem samples_ofList (xs : List Sample) : (ofList xs).samples = xs.eraseDupsBy sameBuild :=
  samples_foldl_append_reverse empty xs

/-- Of several samples of one build the first one counts. -/
theorem sample?_foldl_append (s : Series) (xs : List Sample) (build : UInt64) :
    (xs.foldl append s).sample? build =
      (s.sample? build).or (xs.find? fun x => x.build == build) := by
  induction xs generalizing s with
  | nil => simp
  | cons x r ih =>
    rw [List.foldl_cons, ih, sample?_append, Option.or_assoc]
    by_cases h : x.build = build <;> simp [h]

/-- Samples come in at the end, and only those of builds that had none. -/
theorem samples_foldl_append_eq (s : Series) (xs : List Sample) :
    ∃ added : List Sample, (xs.foldl append s).samples = s.samples ++ added ∧
      ∀ x ∈ added, x ∈ xs ∧ s.contains x.build = false := by
  induction xs generalizing s with
  | nil => exact ⟨[], by simp, by simp⟩
  | cons x r ih =>
    rw [List.foldl_cons]
    obtain ⟨added, hsamples, hadded⟩ := ih (s.append x)
    have hnew (y : Sample) (hy : y ∈ added) : y ∈ x :: r ∧ s.contains y.build = false := by
      obtain ⟨hmem, habsent⟩ := hadded y hy
      rw [contains_append, Bool.or_eq_false_iff] at habsent
      exact ⟨List.mem_cons_of_mem _ hmem, habsent.1⟩
    rw [hsamples, samples_append]
    by_cases hcontains : s.contains x.build = true
    · rw [if_pos hcontains]
      exact ⟨added, rfl, hnew⟩
    · rw [if_neg hcontains, List.append_assoc]
      refine ⟨x :: added, rfl, List.forall_mem_cons.2 ⟨⟨List.mem_cons_self, ?_⟩, hnew⟩⟩
      exact Bool.eq_false_iff.2 hcontains

@[simp, grind =] theorem sample?_ofList (xs : List Sample) (build : UInt64) :
    (ofList xs).sample? build = xs.find? fun x => x.build == build :=
  (sample?_foldl_append empty xs build).trans Option.none_or

/-! ## Leaving samples out -/

@[simp, grind =] theorem samples_filter (keep : Sample → Bool) (s : Series) :
    (s.filter keep).samples = s.samples.filter keep := by
  have hunique : ((s.samples.filter keep).map Sample.build).Nodup :=
    s.unique.sublist (List.filter_sublist.map _)
  exact samples_foldl_append (s := empty) hunique

@[simp, grind =] theorem sample?_filter (keep : Sample → Bool) (s : Series) (build : UInt64) :
    (s.filter keep).sample? build = (s.sample? build).filter keep := by
  refine Option.ext fun x => ?_
  rw [sample?_eq_some, samples_filter, List.mem_filter, Option.filter_eq_some_iff, sample?_eq_some]
  exact and_right_comm

@[simp] theorem filter_filter (keep : Sample → Bool) (s : Series) :
    (s.filter keep).filter keep = s.filter keep := by
  refine Series.ext ?_
  rw [samples_filter, samples_filter, List.filter_filter]
  simp only [Bool.and_self]

/-- Builds that are left out do not matter to the others. -/
theorem filter_append (keep : UInt64 → Bool) (s : Series) (x : Sample) :
    (s.append x).filter (fun y => keep y.build) =
      if keep x.build then (s.filter fun y => keep y.build).append x
      else s.filter fun y => keep y.build := by
  refine Series.ext ?_
  by_cases hkeep : keep x.build = true
  · have hcontains : (s.filter fun y => keep y.build).contains x.build = s.contains x.build := by
      rw [contains_eq_isSome, contains_eq_isSome, sample?_filter]
      cases h : s.sample? x.build with
      | none => rfl
      | some y => simp [Option.filter, (sample?_eq_some.1 h).2, hkeep]
    rw [if_pos hkeep, samples_append, samples_filter, samples_append, samples_filter, hcontains]
    split <;> simp [hkeep]
  · rw [if_neg hkeep, samples_filter, samples_append, samples_filter]
    split <;> simp [hkeep]

theorem filter_foldl_append (keep : UInt64 → Bool) (s : Series) (xs : List Sample) :
    (xs.foldl append s).filter (fun y => keep y.build) =
      (xs.filter fun y => keep y.build).foldl append (s.filter fun y => keep y.build) := by
  induction xs generalizing s with
  | nil => rfl
  | cons x r ih =>
    rw [List.foldl_cons, ih, filter_append, List.filter_cons]
    split <;> rfl

/-! ## The order of the builds -/

@[simp, grind =] theorem mem_finalize {s : Series} {x : Sample} :
    x ∈ s.finalize.samples ↔ x ∈ s.samples :=
  List.mem_mergeSort

@[simp, grind =] theorem sample?_finalize (s : Series) (build : UInt64) :
    s.finalize.sample? build = s.sample? build := by
  refine Option.ext fun x => ?_
  rw [sample?_eq_some, sample?_eq_some, mem_finalize]

theorem pairwise_finalize (s : Series) :
    s.finalize.samples.Pairwise fun a b => a.build ≤ b.build := by
  have trans (a b c : Sample) (hab : decide (a.build ≤ b.build) = true)
      (hbc : decide (b.build ≤ c.build) = true) : decide (a.build ≤ c.build) = true := by
    simp only [decide_eq_true_eq] at hab hbc ⊢
    exact UInt64.le_trans hab hbc
  have total (a b : Sample) :
      (decide (a.build ≤ b.build) || decide (b.build ≤ a.build)) = true := by
    simpa using UInt64.le_total a.build b.build
  exact (List.pairwise_mergeSort trans total s.samples).imp fun hab => by simpa using hab

theorem pairwise_lt_finalize (s : Series) :
    s.finalize.samples.Pairwise fun a b => a.build < b.build := by
  have hne : s.finalize.samples.Pairwise fun a b => a.build ≠ b.build :=
    List.pairwise_map.1 s.finalize.unique
  refine (s.pairwise_finalize.and hne).imp fun ⟨hle, hne⟩ => ?_
  exact UInt64.lt_of_le_of_ne hle hne

/-- Two series that give the same samples become equal in the order of their builds. -/
theorem finalize_congr {s t : Series} (h : ∀ build, s.sample? build = t.sample? build) :
    s.finalize = t.finalize := by
  have hmem (x : Sample) : x ∈ s.finalize.samples ↔ x ∈ t.finalize.samples := by
    have hs : s.sample? x.build = some x ↔ x ∈ s.samples := by simp [sample?_eq_some]
    have ht : t.sample? x.build = some x ↔ x ∈ t.samples := by simp [sample?_eq_some]
    rw [mem_finalize, mem_finalize, ← hs, ← ht, h]
  have nodup (s : Series) : s.samples.Nodup := List.Nodup.of_map _ s.unique
  refine Series.ext (List.Perm.eq_of_pairwise (fun a b ha hb hab hba => ?_)
    s.pairwise_finalize t.pairwise_finalize
    ((List.perm_ext_iff_of_nodup (nodup _) (nodup _)).2 hmem))
  exact eq_of_build_eq ha ((hmem b).2 hb) (UInt64.le_antisymm hab hba)

theorem finalize_of_pairwise {s : Series} (h : s.samples.Pairwise fun a b => a.build ≤ b.build) :
    s.finalize = s :=
  Series.ext (List.mergeSort_of_pairwise (h.imp fun hab => decide_eq_true hab))

/-- It makes no difference whether samples are left out before or after they are put in order. -/
theorem finalize_filter (keep : Sample → Bool) (s : Series) :
    (s.filter keep).finalize = s.finalize.filter keep := by
  have hordered : (s.finalize.filter keep).samples.Pairwise fun a b => a.build ≤ b.build := by
    rw [samples_filter]
    exact s.pairwise_finalize.filter keep
  calc (s.filter keep).finalize
    _ = (s.finalize.filter keep).finalize := finalize_congr fun build => by
        rw [sample?_filter, sample?_filter, sample?_finalize]
    _ = s.finalize.filter keep := finalize_of_pairwise hordered

end Series

end BenchTracker
