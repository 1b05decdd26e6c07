import BenchTracker.Keyed
import BenchTracker.Series

/-!
# Stores

A store holds a series for every step and device. Its keys on the first level are the known steps:
a step may be known without having any series yet.
-/

namespace BenchTracker

/-- The series of one step by device. -/
abbrev DeviceSeries := Keyed Series

/-- The known steps with their series. -/
structure Store where
  steps : Keyed DeviceSeries

namespace Store

def empty : Store := ⟨.empty⟩

instance : Inhabited Store := ⟨empty⟩

def stepNames (s : Store) : List String := s.steps.keys

def knows (s : Store) (step : String) : Bool := s.steps.contains step

def series? (s : Store) (step device : String) : Option Series :=
  (s.steps.get? step).bind (·.get? device)

/-- Whether the series of the step and device has a sample of the build. -/
def contains (s : Store) (step device : String) (build : UInt64) : Bool :=
  (s.series? step device).any (·.contains build)

/-- Makes a step known. -/
def register (s : Store) (step : String) : Store :=
  ⟨s.steps.alter step (·.getD .empty)⟩

/-- Changes the series of a step and device, which is empty where there is none so far. -/
def alter (s : Store) (step device : String) (f : Series → Series) : Store :=
  ⟨s.steps.alter step fun devices =>
    (devices.getD .empty).alter device fun series => f (series.getD .empty)⟩

/-- Makes sure that there is a series for the step and device. -/
def ensure (s : Store) (step device : String) : Store := s.alter step device id

/-- Adds a sample to a series, unless it has one of that build. -/
def append (s : Store) (step device : String) (x : Sample) : Store :=
  s.alter step device (·.append x)

/-- Adds a sample to a series, unless it has one of that build, and tells whether it did. -/
def insert (s : Store) (step device : String) (x : Sample) : Bool × Store :=
  ((((s.series? step device).getD .empty).insert x).1, s.append step device x)

/-- Puts the series of a step and device, if there is one, in the order of its builds. -/
def finalize (s : Store) (step device : String) : Store :=
  if (s.series? step device).isSome then s.alter step device Series.finalize else s

/-- Replaces every series. -/
def mapSeries (f : String → String → Series → Series) (s : Store) : Store :=
  ⟨s.steps.map fun step devices => devices.map fun device series => f step device series⟩

/-- Puts every series in the order of its builds. -/
def finalizeAll (s : Store) : Store := s.mapSeries fun _ _ series => series.finalize

/-- Takes the steps of another store over. For a step known to both, the devices of `other` take
the place of the present ones. -/
def merge (s other : Store) : Store := ⟨s.steps.override other.steps⟩

/-- Leaves the samples that `keep` accepts; all steps and devices stay. -/
def filter (keep : String → Sample → Bool) (s : Store) : Store :=
  s.mapSeries fun _ device series => series.filter (keep device)

/-- The number of samples in all series. -/
def size (s : Store) : Nat :=
  s.steps.values.foldr (fun devices n => devices.values.foldr (·.size + ·) n) 0

end Store

end BenchTracker
