import BenchTracker.Kernel
import BenchTracker.Store

/-!
# Rooflines

A kernel's throughput is bounded by how fast a device moves data: by the arithmetic intensity of
the kernel times the device's bandwidth. Measurements outside a band around this bound are
implausible and left out.
-/

namespace BenchTracker

/-- The peak rates of a device in GFLOPS/s and GB/s. -/
structure Peak where
  compute : Float
  bandwidth : Float
  deriving Repr, Inhabited

/-- Peak rates by device. -/
abbrev PeakTable := Keyed Peak

/-- The size of a matrix element in bytes. -/
def elementBytes : Float := 4.0

/-- Operations per byte moved, where `ratio` weighs how much of the data is moved. -/
def Kernel.intensity (kernel : Kernel) (ratio : Float) : Float :=
  let m := kernel.m.toFloat
  let n := kernel.n.toFloat
  let k := kernel.k.toFloat
  2.0 * m * n * k / (elementBytes * ratio * (k * (m + n)))

/-- The throughput that the bandwidth allows at an intensity. -/
def Peak.bound (peak : Peak) (intensity : Float) : Float := intensity * peak.bandwidth

/-- The accepted throughputs in percent of the bound, both ends included. -/
structure Band where
  least : Float
  most : Float
  deriving Repr, Inhabited

namespace Band

/-- All from nothing to the bound itself. -/
def full : Band := ⟨0.0, 100.0⟩

/-- Whether a sample has kernels and its focus throughput lies in the band. -/
def accepts (band : Band) (bound : Float) (x : Sample) : Bool :=
  0 < x.total && bound * band.least ≤ x.focus * 100.0 && x.focus * 100.0 ≤ bound * band.most

end Band

/-- Leaves the samples inside the band. A device without peak rates keeps none. -/
def Store.inBand (s : Store) (peaks : PeakTable) (intensity : Float) (band : Band) : Store :=
  s.filter fun device x =>
    match peaks.get? device with
    | some peak => band.accepts (peak.bound intensity) x
    | none => false

end BenchTracker
