import BenchTracker.Rollup.Chart
import BenchTracker.Roofline

/-!
# Rollups

The summary of a store by device. A device is shown only if each step has a sample for it, so that
its lines can be compared, and its series are cut to about the same length.
-/

namespace BenchTracker

/-- The summary of one device. -/
structure DeviceRollup where
  device : String
  steps : List StepRollup
  charts : List Chart
  /-- The best mean efficiency of a step in percent, at least zero. -/
  efficiencyPercent : Int
  deriving Repr, Inhabited

/-- The summary of a store. -/
structure Rollup where
  intensity : Float
  devices : List DeviceRollup
  leastEfficiency : Int
  greatestEfficiency : Int
  deriving Repr, Inhabited

namespace DeviceRollup

/-- The lengths of a device's series in all steps; a missing series has none. -/
def lengths (s : Store) (device : String) : List Nat :=
  s.steps.values.map fun devices => ((devices.get? device).map Series.size).getD 0

/-- The greatest number of samples that are shown. -/
def greatestLength (maxn longest : Nat) : Nat := if maxn = 0 then longest else min longest maxn

/-- How many samples are shown of a series. A series that reaches the greatest length is cut by up
to `maxm` samples towards the shortest one. -/
def shownLength (maxlen minlen maxm length : Nat) : Nat :=
  if maxlen ≤ length then maxlen - min maxm (maxlen - minlen) else length

/-- The samples that are shown of a series, the newest first. -/
def shown (count : Nat) (series : Series) : List Sample := series.samples.reverse.take count

/-- The summary of a device, which must have peak rates and a sample in every step. -/
def of? (p : Parameters) (intensity : Float) (peaks : PeakTable) (s : Store) (device : String) :
    Option DeviceRollup := do
  let roofline := (← peaks.get? device).bound intensity
  let minlen ← (lengths s device).min?
  let longest ← (lengths s device).max?
  if minlen = 0 then none
  else
    let maxlen := greatestLength p.maxn longest
    let steps := s.steps.toList.filterMap fun (step, devices) =>
      (devices.get? device).map fun series =>
        .ofSamples p roofline step (shown (shownLength maxlen minlen p.maxm series.size) series)
    let frame : ChartFrame := ⟨device, p.focus, intensity, roofline, maxlen⟩
    some
      { device
        steps
        charts := frame.charts steps
        efficiencyPercent := (steps.map (·.efficiencyPercent)).foldl max 0 }

end DeviceRollup

namespace Rollup

/-- The least efficiency so far and one more; zero stands for none so far. -/
def leastOf (least percent : Int) : Int := if percent < least ∨ least = 0 then percent else least

/-- The summary of a store for some devices, each of them once. -/
def ofStore (p : Parameters) (intensity : Float) (peaks : PeakTable) (s : Store)
    (devices : List String) : Rollup :=
  let shown := (distinct devices).filterMap (DeviceRollup.of? p intensity peaks s)
  let percents := shown.map (·.efficiencyPercent)
  { intensity
    devices := shown
    leastEfficiency := percents.foldl leastOf 0
    greatestEfficiency := percents.foldl max 0 }

/-- What a device attains at the least and at the greatest efficiency. -/
def rangeLine (r : Rollup) (device : String) (peak : Peak) : String :=
  let percent := peak.bound r.intensity / 100.0
  device ++ ": " ++ Numeral.signed (Double.roundInt (Double.ofInt r.leastEfficiency * percent)) ++
    ".." ++ Numeral.signed (Double.roundInt (Double.ofInt r.greatestEfficiency * percent)) ++
    " GFLOPS/s"

/-- The closing lines: how far the builds have got, and what each device attains. -/
def closingLines (r : Rollup) (peaks : PeakTable) (before latest : Nat) : List String :=
  ("Common build number (lockstep): " ++ Numeral.text before ++
    (if 0 < latest then "->" ++ Numeral.text latest else "")) ::
    peaks.toList.map fun (device, peak) => r.rangeLine device peak

end Rollup

end BenchTracker
