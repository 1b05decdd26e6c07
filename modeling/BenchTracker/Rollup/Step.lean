import BenchTracker.Classification
import BenchTracker.Parameters
import BenchTracker.Rollup.Caption
import BenchTracker.Series

/-!
# The summary of a step

The latest samples of one step on one device, the newest first, and the geometric means over a
window of them.
-/

namespace BenchTracker

/-- The summary of one step on one device. All lists run from the newest build to the oldest. -/
structure StepRollup where
  step : String
  caption : Caption
  /-- The selected throughput of each build. -/
  selected : List Float
  /-- The throughput of the focus kernel. -/
  focus : List Float
  /-- The throughput of the focus kernel as a part of the roofline. -/
  efficiency : List Float
  builds : List UInt64
  /-- The rounded means of the small, medium and large kernels and of the selected throughput. -/
  small : Int
  medium : Int
  large : Int
  all : Int
  /-- The rounded mean of the focus throughput. -/
  focusMean : Int
  /-- The rounded mean of the efficiency in percent. -/
  efficiencyPercent : Int
  /-- The greatest number of kernels in each bucket, summed up. -/
  kernels : Nat
  /-- How many builds the means cover, if not all. -/
  window : Option Nat
  deriving Repr, Inhabited

/-- The items that the means cover: those in front, if there is a window. -/
def inWindow {α : Type} (window : Option Nat) (xs : List α) : List α :=
  match window with
  | some n => xs.take n
  | none => xs

/-- The geometric mean over the window, rounded. -/
def roundedMean (window : Option Nat) (values : List Float) : Int :=
  Double.roundInt (geomean (inWindow window values))

def Selection.value (selection : Selection) (x : Sample) : Float :=
  match selection with
  | combined => x.combined
  | bucket index => ((x.bucket? index).map Bucket.geomean).getD 0.0

namespace StepRollup

/-- The greatest number of kernels that a bucket has. -/
def greatestCount (bucket : Sample → Bucket) (xs : List Sample) : Nat :=
  (xs.map fun x => (bucket x).count.toNat).foldl max 0

/-- A throughput as a part of the roofline; without a roofline it is no part of it. -/
def partOf (roofline x : Float) : Float := if 0.0 < roofline then x / roofline else 0.0

/-- Summarises samples that run from the newest to the oldest. -/
def ofSamples (p : Parameters) (roofline : Float) (step : String) (xs : List Sample) :
    StepRollup :=
  let focus := xs.map Sample.focus
  let selected := xs.map p.selection.value
  let efficiency := focus.map (partOf roofline)
  let mean := roundedMean p.window?
  { step
    caption := .ofStep step
    selected
    focus
    efficiency
    builds := xs.map Sample.build
    small := mean (xs.map (·.small.geomean))
    medium := mean (xs.map (·.medium.geomean))
    large := mean (xs.map (·.large.geomean))
    all := mean selected
    focusMean := mean focus
    efficiencyPercent :=
      Double.roundInt (100.0 * geomean (inWindow p.window? efficiency))
    kernels := greatestCount Sample.small xs + greatestCount Sample.medium xs +
      greatestCount Sample.large xs
    window := p.window? }

def windowLabel (r : StepRollup) : String :=
  match r.window with
  | some n => "last" ++ Numeral.text n ++ "="
  | none => ""

/-- The means in one line, such as `last5=1..2..3=2 GFLOPS/s`. -/
def summaryLabel (r : StepRollup) : String :=
  r.windowLabel ++ Numeral.signed r.small ++ ".." ++ Numeral.signed r.medium ++ ".." ++
    Numeral.signed r.large ++ "=" ++ Numeral.signed r.all ++ " GFLOPS/s"

/-- The focus throughput in one line, such as `last5=2 GFLOPS/s (40%)`. -/
def focusLabel (r : StepRollup) : String :=
  r.windowLabel ++ Numeral.signed r.focusMean ++ " GFLOPS/s (" ++
    Numeral.signed r.efficiencyPercent ++ "%)"

/-- The newest build, zero if there is none. -/
def newest (r : StepRollup) : UInt64 := r.builds.headD 0

/-- The oldest build, zero if there is none. -/
def oldest (r : StepRollup) : UInt64 := r.builds.getLast?.getD 0

/-- The line that the program prints for a step on a device. -/
def line (r : StepRollup) (device : String) : String :=
  device ++ " " ++ r.caption.runtime ++ " " ++ r.caption.props ++ ": " ++ r.summaryLabel ++
    " (nbuilds=" ++ Numeral.text r.builds.length ++ ")"

end StepRollup

end BenchTracker
