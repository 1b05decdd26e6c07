import BenchTracker.Keyed
import Mathlib.Logic.Function.Basic

/-!
# Tables as partial maps

What every operation on a table does to its answers. A table is determined by them, so an equation
between tables is proved key by key.
-/

namespace BenchTracker

namespace Keyed

variable {α β : Type}

/-! ## Answers and entries -/

theorem mem_of_lookup {key : String} {v : α} {es : List (String × α)}
    (h : lookup key es = some v) : (key, v) ∈ es := by
  induction es with
  | nil => simp [lookup] at h
  | cons e r ih => grind [lookup]

theorem not_mem_of_lookup {key : String} {v : α} {es : List (String × α)}
    (h : lookup key es = none) : (key, v) ∉ es := by
  induction es with
  | nil => simp
  | cons e r ih => grind [lookup]

@[grind =] theorem lookup_append (key : String) (xs ys : List (String × α)) :
    lookup key (xs ++ ys) = (lookup key xs).or (lookup key ys) := by
  induction xs with
  | nil => rfl
  | cons e r ih => grind [lookup]

theorem lookup_of_mem {key : String} {v : α} {es : List (String × α)}
    (hes : es.Pairwise fun a b => a.1 < b.1) (h : (key, v) ∈ es) : lookup key es = some v := by
  induction es with
  | nil => simp at h
  | cons e r ih =>
    obtain ⟨hhead, hr⟩ := List.pairwise_cons.1 hes
    rcases List.mem_cons.1 h with rfl | hmem
    · simp [lookup]
    · have hlt : e.1 < key := hhead _ hmem
      rw [lookup, if_neg fun he => String.lt_irrefl _ (he ▸ hlt)]
      exact ih hr hmem

theorem mem_entries {t : Keyed α} {key : String} {v : α} :
    (key, v) ∈ t.entries ↔ t.get? key = some v :=
  ⟨lookup_of_mem t.ascending, mem_of_lookup⟩

theorem pairwise_ne (t : Keyed α) : t.entries.Pairwise fun a b => a.1 ≠ b.1 := by
  refine t.ascending.imp fun {a b} hlt heq => ?_
  rw [heq] at hlt
  exact String.lt_irrefl _ hlt

theorem nodup_entries (t : Keyed α) : t.entries.Nodup :=
  t.pairwise_ne.imp fun hne heq => hne (congrArg Prod.fst heq)

/-- Tables that answer alike are equal. -/
theorem ext_get? {t u : Keyed α} (h : ∀ key, t.get? key = u.get? key) : t = u := by
  have hperm : t.entries.Perm u.entries :=
    (List.perm_ext_iff_of_nodup t.nodup_entries u.nodup_entries).2 fun e => by
      rw [mem_entries, mem_entries, h]
  have heq : t.entries = u.entries :=
    List.Perm.eq_of_pairwise
      (fun a b _ _ hab hba => absurd (String.lt_trans hab hba) (String.lt_irrefl _))
      t.ascending u.ascending hperm
  cases t
  cases u
  cases heq
  rfl

@[simp] theorem contains_eq_isSome (t : Keyed α) (key : String) :
    t.contains key = (t.get? key).isSome := rfl

/-! ## Answers of the operations -/

@[simp] theorem get?_empty (key : String) : (empty : Keyed α).get? key = none := rfl

@[simp, grind =] theorem get?_alter (t : Keyed α) (key key' : String) (f : Option α → α) :
    (t.alter key f).get? key' = if key' = key then some (f (t.get? key)) else t.get? key' := by
  split
  · subst key'
    exact get?_alter_self t key f
  · exact get?_alter_of_ne ‹_› t f

@[simp, grind =] theorem get?_insert (t : Keyed α) (key key' : String) (v : α) :
    (t.insert key v).get? key' = if key' = key then some v else t.get? key' :=
  get?_alter t key key' fun _ => v

theorem lookup_map (f : String → α → β) (key : String) (es : List (String × α)) :
    lookup key (es.map fun e => (e.1, f e.1 e.2)) = (lookup key es).map (f key) := by
  induction es with
  | nil => rfl
  | cons e r ih => grind [lookup]

@[simp] theorem get?_map (f : String → α → β) (t : Keyed α) (key : String) :
    (t.map f).get? key = (t.get? key).map (f key) :=
  lookup_map f key t.entries

theorem lookup_filter_ne (key other : String) (es : List (String × α)) :
    lookup other (es.filter fun e => e.1 ≠ key) =
      if other = key then none else lookup other es := by
  induction es with
  | nil => simp [lookup]
  | cons e r ih => grind [lookup]

/-- A table without one of its keys. -/
@[simp] theorem get?_filter_ne (t : Keyed α) (key other : String) :
    (t.filter fun k _ => k ≠ key).get? other = if other = key then none else t.get? other :=
  lookup_filter_ne key other t.entries

/-- Of several entries with one key the last one counts. -/
theorem get?_foldl_insert (t : Keyed α) (es : List (String × α)) (key : String) :
    (es.foldl (fun t e => t.insert e.1 e.2) t).get? key =
      (lookup key es.reverse).or (t.get? key) := by
  induction es generalizing t with
  | nil => rfl
  | cons e r ih =>
    rw [List.foldl_cons, ih, get?_insert, List.reverse_cons, lookup_append, Option.or_assoc]
    grind [lookup]

theorem lookup_reverse {es : List (String × α)} (hes : es.Pairwise fun a b => a.1 < b.1)
    (key : String) : lookup key es.reverse = lookup key es := by
  cases h : lookup key es with
  | none =>
    cases hrev : lookup key es.reverse with
    | none => rfl
    | some v => exact absurd (List.mem_reverse.1 (mem_of_lookup hrev)) (not_mem_of_lookup h)
  | some v =>
    have hmem := List.mem_reverse.2 (mem_of_lookup h)
    cases hrev : lookup key es.reverse with
    | none => exact absurd hmem (not_mem_of_lookup hrev)
    | some u =>
      rw [← h]
      exact (lookup_of_mem hes (List.mem_reverse.1 (mem_of_lookup hrev))).symm

@[simp, grind =] theorem get?_override (t other : Keyed α) (key : String) :
    (t.override other).get? key = (other.get? key).or (t.get? key) := by
  rw [override, get?_foldl_insert, lookup_reverse other.ascending]
  rfl

@[simp, grind =] theorem get?_ofList (es : List (String × α)) (key : String) :
    (ofList es).get? key = lookup key es.reverse :=
  (get?_foldl_insert empty es key).trans Option.or_none

theorem lookup_reverse_map (f : α → β) (key : String) (es : List (String × α)) :
    lookup key (es.map (Prod.map id f)).reverse = (lookup key es.reverse).map f := by
  rw [← List.map_reverse]
  exact lookup_map (fun _ => f) key es.reverse

/-- The entries of a table make up the table. -/
@[simp] theorem ofList_entries (t : Keyed α) : ofList t.entries = t :=
  ext_get? fun key => (get?_ofList t.entries key).trans (lookup_reverse t.ascending key)

/-- Tables that have the same keys list them in the same order. -/
theorem keys_congr {t : Keyed α} {u : Keyed β}
    (h : ∀ key, (t.get? key).isSome = (u.get? key).isSome) : t.keys = u.keys := by
  have hunit : (t.map fun _ _ => ()) = u.map fun _ _ => () := by
    refine ext_get? fun key => ?_
    have hsome := h key
    rw [get?_map, get?_map]
    cases ht : t.get? key <;> cases hu : u.get? key <;> simp [ht, hu] at hsome ⊢
  rw [← keys_map (fun _ _ => ()) t, hunit, keys_map]

/-! ## Views -/

/-- What a table answers, each value seen through `g`. -/
def view (g : α → β) (t : Keyed α) : String → Option β := fun key => (t.get? key).map g

@[simp] theorem view_alter (g : α → β) (t : Keyed α) (key : String) (f : Option α → α) :
    (t.alter key f).view g = Function.update (t.view g) key (some (g (f (t.get? key)))) := by
  funext key'
  rw [view, get?_alter, Function.update_apply]
  split <;> rfl

@[simp] theorem view_map {γ : Type} (f : String → α → β) (g : β → γ) (t : Keyed α) (key : String) :
    (t.map f).view g key = (t.get? key).map fun v => g (f key v) := by
  rw [view, get?_map, Option.map_map]
  rfl

@[simp] theorem view_override (g : α → β) (t other : Keyed α) (key : String) :
    (t.override other).view g key = (other.view g key).or (t.view g key) := by
  rw [view, get?_override, Option.map_or]
  rfl

theorem view_ofList_map {γ : Type} (f : α → β) (g : β → γ) (es : List (String × α))
    (key : String) :
    (ofList (es.map (Prod.map id f))).view g key = (lookup key es.reverse).map (g ∘ f) := by
  rw [view, get?_ofList, lookup_reverse_map, Option.map_map]

/-- A table that has a value wherever `t` has one hides `t` altogether. -/
theorem override_eq_right {t other : Keyed α}
    (h : ∀ key, (t.get? key).isSome → (other.get? key).isSome) : t.override other = other := by
  refine ext_get? fun key => ?_
  rw [get?_override]
  cases ho : other.get? key with
  | some v => rfl
  | none =>
    have hnone : ¬ (t.get? key).isSome := fun ht => by simpa [ho] using h key ht
    simpa using hnone

end Keyed

end BenchTracker
