import BenchTracker.Kernel
import BenchTracker.Sample

/-!
# Classification of measurements

The measurements of a job are sorted into size classes, and each class is condensed to a bucket of
the job's sample. Only positive values count. The focus kernel is looked out for on the way.
-/

namespace BenchTracker

/-- One kernel with its throughput. -/
structure Measurement where
  kernel : Kernel
  value : Float
  deriving Repr

/-- The geometric mean of the positive values, zero if there are none. -/
def geomean (values : List Float) : Float :=
  let positive := values.filter (0.0 < ·)
  if positive = [] then 0.0
  else Double.exp (Sample.sum (positive.map Double.ln) / Double.ofNat positive.length)

/-- The positive values of a job by size class. -/
structure Classified where
  small : List Float
  medium : List Float
  large : List Float
  /-- The last positive value of the focus kernel. -/
  focus : Option Float
  deriving Repr

namespace Classified

def empty : Classified := ⟨[], [], [], none⟩

/-- Adds a measurement, unless its value is not positive. -/
def add (focus : Kernel) (c : Classified) (x : Measurement) : Classified :=
  if Double.isNaN x.value || x.value ≤ 0.0 then c
  else
    let c := match x.kernel.sizeClass with
      | .small => { c with small := c.small ++ [x.value] }
      | .medium => { c with medium := c.medium ++ [x.value] }
      | .large => { c with large := c.large ++ [x.value] }
    if x.kernel = focus then { c with focus := some x.value } else c

def ofList (focus : Kernel) (xs : List Measurement) : Classified := xs.foldl (add focus) empty

/-- Condenses the values of one class; the mean is rounded to one decimal. -/
def bucket (values : List Float) : Bucket :=
  ⟨Double.roundTo (geomean values) 1, UInt32.ofNat values.length⟩

/-- The sample of a build, if the focus kernel is there with a positive value. -/
def sample? (c : Classified) (build : UInt64) : Option Sample :=
  match c.focus with
  | none => none
  | some focus =>
    if 0.0 < focus then some ⟨bucket c.small, bucket c.medium, bucket c.large, focus, build⟩
    else none

end Classified

/-- Condenses the measurements of a job to a sample of its build. -/
def aggregate (focus : Kernel) (build : UInt64) (xs : List Measurement) : Option Sample :=
  (Classified.ofList focus xs).sample? build

end BenchTracker
