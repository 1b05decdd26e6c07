import BenchTracker.Decimal.Shortest
import BenchTracker.Json.Printer
import BenchTracker.Rollup.Step
import BenchTracker.Text.Distinct

/-!
# Charts

A chart shows the steps of one device that have the same properties: a line for the selected
throughput and one for the focus throughput of each. All lines of a device are padded to one length.
-/

namespace BenchTracker

/-- One line; nothing is drawn where a value is missing. -/
structure ChartLine where
  label : String
  points : List (Option Float)
  deriving Repr, Inhabited

/-- What a chart shows. -/
structure Chart where
  stem : String
  device : String
  title : String
  summaryTitle : String
  focusTitle : String
  summaryLines : List ChartLine
  focusLines : List ChartLine
  deriving Repr, Inhabited

/-- What the steps of one device have in common. -/
structure ChartFrame where
  device : String
  focus : Kernel
  intensity : Float
  /-- The throughput that bounds the focus kernel. -/
  roofline : Float
  /-- The number of points of each line. -/
  length : Nat
  deriving Repr, Inhabited

namespace ChartFrame

/-- Numbers in titles have no exponent, and integral ones no point. -/
def titleStyle : NumberStyle := ⟨none, false, false⟩

/-- The title over the lines of the focus kernel. -/
def focusTitle (f : ChartFrame) : String :=
  let intensity := Double.roundEven (f.intensity * 1000.0) / 1000.0
  "Single Kernel: MNK=" ++ f.focus.text ++ ", AI=" ++ String.ofList (titleStyle.write intensity) ++
    " FLOPS/Byte, Roofline=" ++ Numeral.signed (Double.roundInt f.roofline) ++ " GFLOPS/s"

/-- Values with gaps behind them. -/
def padded (f : ChartFrame) (values : List Float) : List (Option Float) :=
  values.map some ++ List.replicate (f.length - values.length) none

def summaryLine (f : ChartFrame) (r : StepRollup) : ChartLine :=
  ⟨r.caption.runtime ++ ": " ++ r.summaryLabel, f.padded r.selected⟩

def focusLine (f : ChartFrame) (r : StepRollup) : ChartLine :=
  ⟨r.caption.runtime ++ ": build=" ++ Numeral.text r.oldest.toNat ++ ".." ++
    Numeral.text r.newest.toNat ++ " " ++ r.focusLabel, f.padded r.focus⟩

/-- The stem of the chart that shows a step. -/
def stem (f : ChartFrame) (r : StepRollup) : String := chartStem f.device r.caption.props

/-- The chart with the given stem. The last of its steps gives the titles. -/
def chart (f : ChartFrame) (steps : List StepRollup) (stem : String) : Chart :=
  let steps := steps.filter fun r => f.stem r = stem
  let last := steps.getLast?.getD default
  { stem
    device := f.device
    title := "Performance of " ++ last.caption.subject ++ " " ++ last.caption.props ++ " on " ++
      f.device
    summaryTitle := "Summary of " ++ Numeral.text last.kernels ++ " SMM-kernels"
    focusTitle := f.focusTitle
    summaryLines := steps.map f.summaryLine
    focusLines := steps.map f.focusLine }

/-- The charts of the steps, in the order of their first steps. -/
def charts (f : ChartFrame) (steps : List StepRollup) : List Chart :=
  (distinct (steps.map f.stem)).map (f.chart steps)

end ChartFrame

/-! ### Written form -/

namespace ChartLine

def pointToJson : Option Float → Json
  | some x => .real x
  | none => .null

def toJson (l : ChartLine) : Json :=
  .object [("label", .text l.label), ("points", .list (l.points.map pointToJson))]

end ChartLine

def Chart.toJson (c : Chart) : Json :=
  .object [
    ("stem", .text c.stem),
    ("device", .text c.device),
    ("title", .text c.title),
    ("summary_title", .text c.summaryTitle),
    ("focus_title", .text c.focusTitle),
    ("summary_lines", .list (c.summaryLines.map ChartLine.toJson)),
    ("focus_lines", .list (c.focusLines.map ChartLine.toJson))]

end BenchTracker
