import BenchTracker.Roofline

/-!
# Parameters of a pass

The numbers that a user gives, and the parameters that come of them: each number is brought into
its range, and the focus text must name a kernel.
-/

namespace BenchTracker

/-- The throughput of a sample that a chart shows. -/
inductive Selection where
  /-- All buckets together. -/
  | combined
  /-- One bucket: small, medium or large. -/
  | bucket (index : Nat)
  deriving DecidableEq, Repr

def Selection.ofIndex (index : Int) : Selection :=
  if 0 ≤ index ∧ index ≤ 2 then .bucket index.toNat else .combined

/-- The numbers as they are given. The integers are signed 64-bit numbers. -/
structure RawParameters where
  watermark : Int := 0
  index : Int := -1
  focus : String := "23x23x23"
  lastn : Int := 5
  ratio : Float := 2.0
  maxn : Int := 0
  maxm : Int := 0
  vmin : Int := 0
  vmax : Int := 100
  deriving Repr, Inhabited

/-- The parameters of one pass. -/
structure Parameters where
  /-- Builds up to this number are not asked for; zero stands for the stored watermark. -/
  watermark : Nat := 0
  selection : Selection := .combined
  focus : Kernel := ⟨23, 23, 23⟩
  /-- How many of the latest samples a summary covers; all if not positive. -/
  lastn : Int := 5
  /-- The size ratio of the intensity. -/
  ratio : Float := 2.0
  /-- How many samples a chart shows at most; zero stands for no limit. -/
  maxn : Nat := 0
  /-- How many samples may be cut off to align series of unequal length. -/
  maxm : Nat := 0
  band : Band := .full
  deriving Repr, Inhabited

namespace Parameters

/-- A size ratio is no NaN and not negative. -/
def clampRatio (x : Float) : Float := if 0.0 < x then x else 0.0

def clamp (least most x : Int) : Int := max least (min x most)

/-- Brings the numbers into their ranges; there are no parameters without a focus kernel. -/
def ofRaw? (raw : RawParameters) : Option Parameters :=
  (Kernel.read? raw.focus).map fun focus =>
    { watermark := raw.watermark.toNat
      selection := .ofIndex raw.index
      focus
      lastn := raw.lastn
      ratio := clampRatio raw.ratio
      maxn := raw.maxn.toNat
      maxm := raw.maxm.toNat
      band := ⟨Double.ofInt (clamp 0 100 raw.vmin), Double.ofInt (clamp 0 200 raw.vmax)⟩ }

/-- The length of the summary's window, if it does not cover the whole series. -/
def window? (p : Parameters) : Option Nat := if 0 < p.lastn then some p.lastn.toNat else none

def intensity (p : Parameters) : Float := p.focus.intensity p.ratio

end Parameters

end BenchTracker
