import BenchTracker.Proofs.Store.SampleMap
import BenchTracker.Proofs.Store.Size

/-!
# Stores and their histories

A store comes about by changes, one after the other, and so does the map of its samples. Whatever
the changes are, the store and the map agree, so the lists and indexes inside a store never part
with each other or with what was put in.
-/

namespace BenchTracker

/-- How a store came about: the empty store and the changes to it, the last one outermost. -/
inductive History where
  | empty
  | register (h : History) (step : String)
  | ensure (h : History) (step device : String)
  | append (h : History) (step device : String) (x : Sample)
  | finalize (h : History) (step device : String)
  | finalizeAll (h : History)
  /-- Takes over a store that has a history of its own. -/
  | merge (h other : History)
  /-- Puts the store that is written in a text in place, if it can be read. -/
  | load (h : History) (text : String)
  | filter (h : History) (keep : String → Sample → Bool)

namespace History

/-- The store after the changes. -/
def store : History → Store
  | empty => .empty
  | register h step => h.store.register step
  | ensure h step device => h.store.ensure step device
  | append h step device x => h.store.append step device x
  | finalize h step device => h.store.finalize step device
  | finalizeAll h => h.store.finalizeAll
  | merge h other => h.store.merge other.store
  | load h text => ((Store.read text).toOption).getD h.store
  | filter h keep => h.store.filter keep

/-- The map after the changes. The order of the builds does not show in it. -/
def sampleMap : History → SampleMap
  | empty => .empty
  | register h step => h.sampleMap.register step
  | ensure h step device => h.sampleMap.ensure step device
  | append h step device x => h.sampleMap.append step device x
  | finalize h _ _ => h.sampleMap
  | finalizeAll h => h.sampleMap
  | merge h other => h.sampleMap.merge other.sampleMap
  | load h text => ((Document.read text).toOption.map SampleMap.ofDocument).getD h.sampleMap
  | filter h keep => h.sampleMap.filter keep

theorem sampleMap_store (h : History) : h.store.sampleMap = h.sampleMap := by
  induction h with
  | empty => rfl
  | register h step ih => rw [store, Store.sampleMap_register, ih, sampleMap]
  | ensure h step device ih => rw [store, Store.sampleMap_ensure, ih, sampleMap]
  | append h step device x ih => rw [store, Store.sampleMap_append, ih, sampleMap]
  | finalize h step device ih => rw [store, Store.sampleMap_finalize, ih, sampleMap]
  | finalizeAll h ih => rw [store, Store.sampleMap_finalizeAll, ih, sampleMap]
  | merge h other ih ihother => rw [store, Store.sampleMap_merge, ih, ihother, sampleMap]
  | load h text ih =>
    rw [store, sampleMap, Store.read_eq_map]
    cases Document.read text with
    | error fault => exact ih
    | ok d => exact d.sampleMap_store
  | filter h keep ih => rw [store, Store.sampleMap_filter, ih, sampleMap]

end History

/-- The store and the map agree, and the changes do to the store what they do to the map. -/
structure Store.Represents (s : Store) (m : SampleMap) : Prop where
  /-- Steps, devices and samples are the same. -/
  sampleMap_eq : s.sampleMap = m
  /-- A series lists the samples of the map, each build once. -/
  mem_iff : ∀ step device series, s.series? step device = some series →
    ∀ x, x ∈ series.samples ↔ m.sample? step device x.build = some x
  nodup : ∀ step device series, s.series? step device = some series →
    (series.samples.map Sample.build).Nodup
  /-- The index knows the builds of the listed samples and no others. -/
  contains_iff : ∀ step device series, s.series? step device = some series →
    ∀ build, series.contains build = true ↔ ∃ x ∈ series.samples, x.build = build
  /-- A sample is added exactly if its build was absent, and otherwise nothing changes. -/
  insert_iff : ∀ step device x,
    (s.insert step device x).1 = true ↔ m.sample? step device x.build = none
  insert_present : ∀ step device x,
    (s.insert step device x).1 = false → (s.insert step device x).2 = s
  insert : ∀ step device x, (s.insert step device x).2.sampleMap = m.append step device x
  finalize : ∀ step device, (s.finalize step device).sampleMap = m
  finalizeAll : s.finalizeAll.sampleMap = m
  /-- The devices of the other store count for all steps that it knows. -/
  merge : ∀ other : Store, ∀ step,
    (s.merge other).sampleMap step = (other.sampleMap step).or (m step)
  /-- Steps and devices stay, with the samples that are accepted. -/
  filter : ∀ keep, (s.filter keep).sampleMap = m.filter keep
  /-- What was left out can be added again. -/
  insert_filter : ∀ keep step device x y, m.sample? step device x.build = some y →
    keep device y = false → ((s.filter keep).insert step device x).1 = true
  /-- The size counts the samples of the map. -/
  size : {p : String × String × UInt64 | m.sample? p.1 p.2.1 p.2.2 ≠ none}.encard = s.size
  /-- In the order of the builds, a series is the ascending list of the samples of the map. -/
  ascending : ∀ step device series, s.finalizeAll.series? step device = some series →
    series.samples.Pairwise (fun a b => a.build < b.build) ∧
      ∀ x, x ∈ series.samples ↔ m.sample? step device x.build = some x

namespace Store

theorem mem_samples_iff {s : Store} {step device : String} {series : Series}
    (h : s.series? step device = some series) (x : Sample) :
    x ∈ series.samples ↔ s.sampleMap.sample? step device x.build = some x := by
  rw [sample?_sampleMap, sample?, h, Option.bind_some, Series.sample?_eq_some]
  exact (and_iff_left rfl).symm

theorem insert_fst (s : Store) (step device : String) (x : Sample) :
    (s.insert step device x).1 = true ↔ s.sampleMap.sample? step device x.build = none := by
  rw [insert, Series.insert_fst, Series.contains_eq_isSome, sample?_sampleMap, sample?]
  cases s.series? step device <;> simp

/-- Every store agrees with its map. -/
theorem represents_sampleMap (s : Store) : s.Represents s.sampleMap where
  sampleMap_eq := rfl
  mem_iff step device series h := mem_samples_iff h
  nodup step device series h := series.unique
  contains_iff step device series h build := by simp [Series.contains_iff]
  insert_iff := s.insert_fst
  insert_present step device x h := by
    refine append_of_contains ?_
    have hsome : ¬ s.sampleMap.sample? step device x.build = none := by simp [← insert_fst, h]
    rwa [contains_eq_isSome, ← sample?_sampleMap, Option.isSome_iff_ne_none]
  insert := s.sampleMap_append
  finalize := s.sampleMap_finalize
  finalizeAll := s.sampleMap_finalizeAll
  merge other := congrFun (s.sampleMap_merge other)
  filter keep := s.sampleMap_filter keep
  insert_filter keep step device x y hy hkeep := by
    rw [insert_fst, sampleMap_filter, SampleMap.sample?_filter, hy]
    exact Option.filter_some_neg (by simp [hkeep])
  size := by
    rw [← encard_eq_size]
    congr 1
    ext p
    simp [contains_eq_isSome, sample?_sampleMap, Option.isSome_iff_ne_none]
  ascending step device series h := by
    refine ⟨?_, fun x => ?_⟩
    · rw [series?_finalizeAll] at h
      obtain ⟨t, -, rfl⟩ := Option.map_eq_some_iff.1 h
      exact t.pairwise_lt_finalize
    · rw [mem_samples_iff h, sampleMap_finalizeAll]

end Store

/-- Whatever the history of a store, the store agrees with the map of the same history. -/
theorem History.store_represents (h : History) : h.store.Represents h.sampleMap := by
  rw [← h.sampleMap_store]
  exact h.store.represents_sampleMap

end BenchTracker
