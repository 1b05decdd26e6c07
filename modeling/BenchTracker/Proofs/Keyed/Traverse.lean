import BenchTracker.Proofs.Keyed.Lookup
import Mathlib.Data.List.Forall2

/-!
# Values that may be missing

A function may have no value for some of the values of a list or a table. Then there is no result
either; otherwise the result has all of its values, in the same order and under the same keys.
-/

namespace BenchTracker

/-! ## Lists -/

section List

variable {α β : Type} {f : α → Option β} {xs : List α} {ys : List β}

theorem mapM_eq_some : xs.mapM f = some ys ↔ List.Forall₂ (fun x y => f x = some y) xs ys := by
  induction xs generalizing ys with
  | nil => cases ys <;> simp
  | cons x rest ih =>
    rw [List.mapM_cons]
    cases ys with
    | nil => cases f x <;> cases rest.mapM f <;> simp
    | cons y ys => cases hx : f x <;> cases hrest : rest.mapM f <;> simp_all [← ih]

/-- What the function keeps of its arguments can be read off the results. -/
theorem map_eq_of_mapM {γ : Type} {g : α → γ} {k : β → γ} (h : xs.mapM f = some ys)
    (hkeeps : ∀ x y, f x = some y → k y = g x) : ys.map k = xs.map g := by
  rw [← List.forall₂_eq_eq_eq, List.forall₂_map_left_iff, List.forall₂_map_right_iff]
  exact (mapM_eq_some.1 h).flip.imp fun y x hy => hkeeps x y hy

theorem mapM_eq_none : xs.mapM f = none ↔ ∃ x ∈ xs, f x = none := by
  induction xs with
  | nil => simp
  | cons x rest ih =>
    rw [List.mapM_cons]
    cases hx : f x <;> cases hrest : rest.mapM f <;> simp_all

theorem mapM_eq_self {f : α → Option α} : xs.mapM f = some xs ↔ ∀ x ∈ xs, f x = some x :=
  mapM_eq_some.trans List.forall₂_same

end List

namespace Keyed

variable {α β : Type} {f : α → Option β} {t : Keyed α} {u : Keyed β}

/-- The table with the values of `f` in place of its own, if there are all of them. -/
def traverse (f : α → Option β) (t : Keyed α) : Option (Keyed β) :=
  (t.entries.mapM fun e => (f e.2).map fun v => (e.1, v)).map ofList

theorem exists_get?_of_mem_values {v : α} (h : v ∈ t.values) : ∃ key, t.get? key = some v := by
  obtain ⟨e, he, rfl⟩ := List.mem_map.1 h
  exact ⟨e.1, mem_entries.1 he⟩

theorem mem_values_of_get? {key : String} {v : α} (h : t.get? key = some v) : v ∈ t.values :=
  List.mem_map_of_mem (f := Prod.snd) (mem_entries.2 h)

/-- The keys stay. -/
theorem get?_of_traverse (h : t.traverse f = some u) (key : String) :
    u.get? key = (t.get? key).bind f := by
  obtain ⟨es, hes, rfl⟩ := Option.map_eq_some_iff.1 h
  have hall := mapM_eq_some.1 hes
  have hkeys : es.map Prod.fst = t.entries.map Prod.fst := map_eq_of_mapM hes fun e e' he => by
    obtain ⟨v, -, rfl⟩ := Option.map_eq_some_iff.1 he
    rfl
  have hascending : es.Pairwise fun a b => a.1 < b.1 := by
    rw [← List.pairwise_map, hkeys, List.pairwise_map]
    exact t.ascending
  rw [get?_ofList, lookup_reverse hascending, get?]
  generalize t.entries = entries at hall
  clear hes hkeys hascending h
  induction hall with
  | nil => rfl
  | @cons e e' entries es he _ ih =>
    obtain ⟨v, hv, rfl⟩ := Option.map_eq_some_iff.1 he
    obtain ⟨k, w⟩ := e
    simp only [lookup]
    split
    · exact hv.symm
    · exact ih

theorem traverse_eq_none : t.traverse f = none ↔ ∃ v ∈ t.values, f v = none := by
  rw [traverse, Option.map_eq_none_iff, mapM_eq_none]
  simp only [Option.map_eq_none_iff]
  constructor
  · rintro ⟨e, he, hnone⟩
    exact ⟨e.2, List.mem_map_of_mem he, hnone⟩
  · rintro ⟨v, hv, hnone⟩
    obtain ⟨e, he, rfl⟩ := List.mem_map.1 hv
    exact ⟨e, he, hnone⟩

theorem contains_of_traverse (h : t.traverse f = some u) (key : String) :
    u.contains key = t.contains key := by
  rw [contains_eq_isSome, contains_eq_isSome, get?_of_traverse h]
  cases hkey : t.get? key with
  | none => rfl
  | some v =>
    cases hv : f v with
    | none =>
      have hnone := traverse_eq_none.2 ⟨v, mem_values_of_get? hkey, hv⟩
      simp [h] at hnone
    | some w => simp [hv]

theorem traverse_eq_self {f : α → Option α} :
    t.traverse f = some t ↔ ∀ v ∈ t.values, f v = some v := by
  constructor
  · intro h v hv
    obtain ⟨key, hkey⟩ := exists_get?_of_mem_values hv
    have hget := get?_of_traverse h key
    rw [hkey, Option.bind_some] at hget
    exact hget.symm
  · intro h
    have hentries : (t.entries.mapM fun e => (f e.2).map fun v => (e.1, v)) = some t.entries :=
      mapM_eq_self.2 fun e he => by rw [h e.2 (List.mem_map_of_mem he), Option.map_some]
    rw [traverse, hentries, Option.map_some, ofList_entries]

end Keyed

end BenchTracker
