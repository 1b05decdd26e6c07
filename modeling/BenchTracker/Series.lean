import BenchTracker.BuildSet
import BenchTracker.Sample

/-!
# Series

The samples of one step on one device, at most one for each build. A series grows at its end and is
put in the order of the builds once a pass is over. An index of the builds tells whether there is a
sample already, so every operation has to keep the index in step with the samples.
-/

namespace BenchTracker

/-- Samples, each of another build. -/
structure Series where
  samples : List Sample
  /-- The builds that have a sample. -/
  index : BuildSet
  unique : (samples.map Sample.build).Nodup
  indexed : ∀ build, index.contains build = true ↔ build ∈ samples.map Sample.build

namespace Series

def empty : Series := ⟨[], .empty, .nil, fun _ => by simp [BuildSet.contains, BuildSet.empty]⟩

instance : Inhabited Series := ⟨empty⟩

def size (s : Series) : Nat := s.samples.length

def isEmpty (s : Series) : Bool := s.samples.isEmpty

/-- Whether there is a sample of the build. -/
def contains (s : Series) (build : UInt64) : Bool := s.index.contains build

theorem contains_iff {s : Series} {build : UInt64} :
    s.contains build = true ↔ build ∈ s.samples.map Sample.build :=
  s.indexed build

/-- Adds a sample at the end, unless there is one of its build, and tells whether it did. -/
def insert (s : Series) (x : Sample) : Bool × Series :=
  if h : s.contains x.build = true then (false, s)
  else
    (true,
      { samples := s.samples ++ [x]
        index := s.index.insert x.build
        unique := by
          rw [List.map_append, List.map_singleton, List.nodup_append]
          refine ⟨s.unique, by simp, fun a ha b hb => ?_⟩
          rw [List.mem_singleton.1 hb]
          rintro rfl
          exact h (contains_iff.2 ha)
        indexed := fun build => by
          rw [BuildSet.contains_insert, s.indexed, List.map_append, List.mem_append,
            List.map_singleton, List.mem_singleton]
          exact or_comm })

/-- Adds a sample at the end, unless there is one of its build. -/
def append (s : Series) (x : Sample) : Series := (s.insert x).2

/-- The series of a list of samples; of two samples of one build the earlier one stays. -/
def ofList (xs : List Sample) : Series := xs.foldl append empty

/-- Leaves the samples that `keep` accepts. -/
def filter (keep : Sample → Bool) (s : Series) : Series := ofList (s.samples.filter keep)

/-- Puts the samples in ascending order of their builds. -/
def finalize (s : Series) : Series :=
  have hperm := (List.mergeSort_perm s.samples fun a b => a.build ≤ b.build).map Sample.build
  { samples := s.samples.mergeSort fun a b => a.build ≤ b.build
    index := s.index
    unique := hperm.nodup_iff.2 s.unique
    indexed := fun build => (s.indexed build).trans hperm.mem_iff.symm }

@[ext] theorem ext {s t : Series} (h : s.samples = t.samples) : s = t := by
  have hindex : s.index = t.index := BuildSet.ext_contains fun build => by
    rw [s.indexed, t.indexed, h]
  cases s
  cases t
  cases h
  cases hindex
  rfl

end Series

end BenchTracker
