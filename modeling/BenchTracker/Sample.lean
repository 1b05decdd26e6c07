import BenchTracker.Decimal.Double

/-!
# Samples

What one job of one build measured, condensed: for each size class the geometric mean of its
kernels and their number, and the throughput of the focus kernel by itself.
-/

namespace BenchTracker

/-- The geometric mean over one size class and the number of kernels behind it. -/
structure Bucket where
  geomean : Float
  count : UInt32
  deriving Repr, Inhabited

namespace Bucket

def none : Bucket := ⟨0.0, 0⟩

/-- Whether the bucket takes part in a combined mean. -/
def counts (b : Bucket) : Bool := 0 < b.count && 0.0 < b.geomean

end Bucket

/-- The condensed measurements of one job in one build. -/
structure Sample where
  small : Bucket
  medium : Bucket
  large : Bucket
  focus : Float
  build : UInt64
  deriving Repr, Inhabited

namespace Sample

def buckets (x : Sample) : List Bucket := [x.small, x.medium, x.large]

def bucket? (x : Sample) (index : Nat) : Option Bucket := x.buckets[index]?

/-- The number of kernels in all buckets. -/
def total (x : Sample) : Nat := (x.buckets.map fun b => b.count.toNat).foldr (· + ·) 0

theorem total_eq_zero_iff {x : Sample} : x.total = 0 ↔ ∀ b ∈ x.buckets, b.count = 0 := by
  simp only [total, buckets, List.map_cons, List.map_nil, List.foldr_cons, List.foldr_nil,
    List.forall_mem_cons, List.not_mem_nil, ← UInt32.toNat_inj, UInt32.toNat_zero]
  grind

/-- Adds doubles from left to right. -/
def sum (xs : List Float) : Float := xs.foldl (· + ·) 0.0

/-- The throughput over all kernels: the geometric mean of the bucket means, each weighted with its
count. Without kernels it is zero. -/
def combined (x : Sample) : Float :=
  if x.total = 0 then 0.0
  else
    Double.exp
      (sum ((x.buckets.filter Bucket.counts).map fun b =>
        Double.ln b.geomean * Double.ofNat b.count.toNat) / Double.ofNat x.total)

end Sample

end BenchTracker
